import Mathlib.Data.List.Nodup
import RelayPool.Log.Record
import RelayPool.Text.Lowercase

/-!
# Names of log levels

A name is trimmed and lowered before it is looked up.  No letter outside ASCII
has a lower case that a level name is written with, and the kelvin sign, which
has an ASCII letter for its lower case, has one that no level name holds; so
lowering ASCII letters alone finds the same level.
-/

namespace RelayPool.Log

open Text (lowercase lowercaseBehind lowercaseOf trimmed)

/-- A letter in the name of a level. -/
def IsLevelLetter (character : Char) : Prop :=
  character ∈ levelNames.flatMap fun entry => entry.1.toList

instance (character : Char) : Decidable (IsLevelLetter character) :=
  inferInstanceAs (Decidable (_ ∈ _))

/-- The name of a level, with white space around it and in any case. -/
def IsLevelName (name : String) : Prop :=
  String.ofList (lowercase (trimmed name.toList)) ∈ levelNames.map (·.1)

instance (name : String) : Decidable (IsLevelName name) :=
  inferInstanceAs (Decidable (_ ∈ _))

section Letters

variable {character : Char}

theorem isLevelLetter_bounds (letter : IsLevelLetter character) :
    character.toNat < 128 ∧ character.toNat ≠ 0 ∧ character.toNat ≠ 0x6B := by
  have bounds : (levelNames.flatMap fun entry => entry.1.toList).all fun letter =>
      letter.toNat < 128 ∧ letter.toNat ≠ 0 ∧ letter.toNat ≠ 0x6B := by decide +kernel
  simpa using List.all_eq_true.mp bounds character letter

theorem lowercaseOf_of_ascii (ascii : character.toNat < 128) :
    lowercaseOf character = [character.toLower] := by
  have each : ∀ code < 128, lowercaseOf (Char.ofNat code) = [(Char.ofNat code).toLower] := by
    decide +kernel
  have here := each character.toNat ascii
  rwa [Char.ofNat_toNat] at here

theorem toLower_of_not_ascii (high : 128 ≤ character.toNat) :
    character.toLower = character := by
  have notCapital : ¬ character.val ≤ 'Z'.val := by
    intro low
    have below : character.toNat ≤ 90 := UInt32.le_iff_toNat_le.mp low
    omega
  exact dif_neg fun capital => notCapital capital.2

theorem not_isLevelLetter_of_not_ascii (high : 128 ≤ character.toNat) :
    ¬ IsLevelLetter character := by
  intro letter
  have bounds := isLevelLetter_bounds letter
  omega

theorem not_isLevelLetter_ofNat {code : Nat} (outside : 128 ≤ code ∨ code = 0x6B) :
    ¬ IsLevelLetter (Char.ofNat code) := by
  intro letter
  have bounds := isLevelLetter_bounds letter
  by_cases valid : code.isValidChar
  · have value : (Char.ofNat code).toNat = code := by
      rw [Char.ofNat, dif_pos valid]
      rfl
    omega
  · have value : (Char.ofNat code).toNat = 0 := by
      rw [Char.ofNat, dif_neg valid]
      rfl
    omega

/-- Capitals outside ASCII are lowered to characters outside ASCII, but for the
kelvin sign. -/
theorem distance_of_capitalRun :
    ∀ run ∈ Text.capitalRuns,
      run.last < 128 ∨ run = ⟨0x212A, 0x212A, 1, -8383⟩ ∨ 128 ≤ run.first + run.distance := by
  decide +kernel

theorem exists_other_of_not_ascii (high : 128 ≤ character.toNat) :
    ∃ other ∈ lowercaseOf character, ¬ IsLevelLetter other := by
  rw [lowercaseOf]
  split
  · exact ⟨'\u0307', by simp, by decide⟩
  · split
    · next run found =>
        have member := List.mem_of_find?_eq_some found
        have holds := List.find?_some found
        simp only [Text.CapitalRun.holds, Bool.and_eq_true, decide_eq_true_eq] at holds
        refine ⟨_, List.mem_singleton_self _, not_isLevelLetter_ofNat ?_⟩
        rcases distance_of_capitalRun run member with inside | rfl | above
        · omega
        · dsimp only at holds ⊢
          omega
        · omega
    · exact ⟨character, List.mem_singleton_self _, not_isLevelLetter_of_not_ascii high⟩

end Letters

section Texts

variable {text : List Char}

theorem lowercaseBehind_of_ascii (ascii : ∀ character ∈ text, character.toNat < 128)
    (before : List Char) : lowercaseBehind before text = text.map Char.toLower := by
  induction text generalizing before with
  | nil => rfl
  | cons character rest ih =>
      obtain ⟨first, others⟩ := List.forall_mem_cons.mp ascii
      have noSigma : character ≠ 'Σ' := by
        rintro rfl
        exact absurd first (by decide)
      rw [lowercaseBehind, if_neg noSigma, lowercaseOf_of_ascii first, ih others]
      rfl

theorem exists_other_lowercaseBehind {character : Char} (member : character ∈ text)
    (high : 128 ≤ character.toNat) (before : List Char) :
    ∃ other ∈ lowercaseBehind before text, ¬ IsLevelLetter other := by
  induction text generalizing before with
  | nil => cases member
  | cons first rest ih =>
      rw [lowercaseBehind]
      rcases List.mem_cons.mp member with rfl | later
      · split
        · refine ⟨_, List.mem_append_left _ (List.mem_singleton_self _), ?_⟩
          rw [Text.lowercaseSigma]
          split <;> decide
        · obtain ⟨other, lowered, strange⟩ := exists_other_of_not_ascii high
          exact ⟨other, List.mem_append_left _ lowered, strange⟩
      · obtain ⟨other, lowered, strange⟩ := ih later (first :: before)
        exact ⟨other, List.mem_append_right _ lowered, strange⟩

theorem lookup_eq_none_of_other {other : Char} (member : other ∈ text)
    (strange : ¬ IsLevelLetter other) : levelNames.lookup (String.ofList text) = none := by
  rw [List.lookup_eq_none_iff]
  intro entry isEntry
  rw [bne_iff_ne]
  rintro same
  apply strange
  refine List.mem_flatMap.mpr ⟨entry, isEntry, ?_⟩
  rwa [← same, String.toList_ofList]

end Texts

/-- The level of a name is the one under its trimmed and lowered text. -/
theorem level?_eq_lookup_lowercase (name : String) :
    level? name = levelNames.lookup (String.ofList (lowercase (trimmed name.toList))) := by
  rw [level?, lowercase]
  by_cases ascii : ∀ character ∈ trimmed name.toList, character.toNat < 128
  · rw [lowercaseBehind_of_ascii ascii]
  · obtain ⟨character, member, high⟩ :
        ∃ character ∈ trimmed name.toList, 128 ≤ character.toNat := by simpa using ascii
    obtain ⟨other, lowered, strange⟩ := exists_other_lowercaseBehind member high []
    have same : character ∈ (trimmed name.toList).map Char.toLower :=
      List.mem_map.mpr ⟨character, member, toLower_of_not_ascii high⟩
    rw [lookup_eq_none_of_other lowered strange,
      lookup_eq_none_of_other same (not_isLevelLetter_of_not_ascii high)]

theorem isSome_level?_iff (name : String) : (level? name).isSome ↔ IsLevelName name := by
  rw [level?_eq_lookup_lowercase, List.lookup_isSome_iff, IsLevelName, List.mem_map]
  refine exists_congr fun entry => and_congr_right fun _ => ?_
  rw [beq_iff_eq, eq_comm]

/-- The kelvin sign is lowered to an ASCII letter, and a dotted capital I to more
than one. -/
example : IsLevelName " WaRn\u0085" ∧ ¬ IsLevelName "\u212A" ∧ ¬ IsLevelName "\u0130NFO" := by
  decide +kernel

end RelayPool.Log
