import RelayPool.Proofs.Uri.Acceptance
import RelayPool.Proofs.Uri.NameEncoding

/-!
# What the name of a URI depends on

Everything in front of the fragment only decides whether there is a name: two
accepted fronts give a fragment the same name.  Whether a front is accepted in
turn depends neither on its query, which is cut off before anything in it could
be taken for a scheme, nor on which scheme it has.
-/

namespace RelayPool.Uri

/-- The URI passes every check. -/
def Accepted (uri : String) : Prop :=
  ∃ bytes, fragment uri = .ok bytes

section Checks

variable {text scheme rest : List Char}

theorem check_eq_ok_iff :
    check text = .ok () ↔
      (∀ character ∈ text, ¬ IsControl character) ∧
        ∃ found, splitScheme text = .ok found ∧
          checkHierarchy found.1.isSome (cutFirst '?' found.2).1 = .ok () := by
  constructor
  · intro checked
    have uncontrolled := uncontrolled_of_check checked
    rw [check_of_uncontrolled uncontrolled] at checked
    exact ⟨uncontrolled, Log.bind_eq_ok_iff.mp checked⟩
  · rintro ⟨uncontrolled, parts⟩
    rw [check_of_uncontrolled uncontrolled]
    exact Log.bind_eq_ok_iff.mpr parts

theorem IsScheme.characters (isScheme : IsScheme scheme) :
    ∀ character ∈ scheme, character.isAlphanum ∨ character ∈ "+-.".toList := by
  obtain ⟨letter, others⟩ := isScheme
  refine List.forall_mem_cons.mpr ⟨.inl ?_, others⟩
  simp [Char.isAlphanum, letter]

/-- What is no character of a scheme ends the search for one. -/
theorem splitScheme_append_query (base query : List Char) :
    splitScheme (base ++ '?' :: query) =
      (splitScheme base).map fun found => (found.1, found.2 ++ '?' :: query) := by
  by_cases colon : base.head? = some ':'
  · obtain ⟨later, rfl⟩ := List.head?_eq_some_iff.mp colon
    rfl
  have noColon : (base ++ '?' :: query).head? ≠ some ':' := by
    cases base with
    | nil => exact fun colonToo => absurd (Option.some.inj colonToo) (by decide)
    | cons first later => exact colon
  rcases exists_scheme_or_splitScheme colon with ⟨scheme, rest, isScheme, rfl⟩ | kept
  · rw [List.append_assoc, List.cons_append, splitScheme_append isScheme,
      splitScheme_append isScheme]
    rfl
  rcases exists_scheme_or_splitScheme noColon with ⟨scheme, rest, isScheme, same⟩ | keptToo
  · -- The colon of a scheme would stand in the base, which has none, or behind the mark.
    exfalso
    rcases List.append_eq_append_iff.mp same with ⟨between, rfl, split⟩ | ⟨between, rfl, split⟩
    · cases between with
      | nil => cases split
      | cons mark between =>
          obtain ⟨rfl, -⟩ := List.cons.inj split
          exact absurd (isScheme.characters '?' (by simp)) (by decide)
    · cases between with
      | nil => cases split
      | cons mark between =>
          obtain ⟨rfl, -⟩ := List.cons.inj split
          rw [splitScheme_append isScheme] at kept
          cases kept
  · rw [kept, keptToo]
    rfl

theorem mem_of_splitScheme {found : Option (List Char)} (split : splitScheme text = .ok (found, rest))
    {character : Char} (member : character ∈ rest) : character ∈ text :=
  (splitScheme_eq_ok_iff.mp ⟨found, split, rfl⟩).2.mem member

theorem check_append_query {base query : List Char} (unmarked : '?' ∉ base)
    (uncontrolled : ∀ character ∈ query, ¬ IsControl character) :
    check (base ++ '?' :: query) = .ok () ↔ check base = .ok () := by
  have mark : ¬ IsControl '?' := by
    rw [← isControl_iff]
    decide
  have characters : (∀ character ∈ base ++ '?' :: query, ¬ IsControl character) ↔
      ∀ character ∈ base, ¬ IsControl character := by
    rw [List.forall_mem_append, List.forall_mem_cons]
    exact and_iff_left ⟨mark, uncontrolled⟩
  rw [check_eq_ok_iff, check_eq_ok_iff, characters, splitScheme_append_query]
  refine and_congr_right fun _ => ?_
  cases split : splitScheme base with
  | error fault => simp [Except.map]
  | ok found =>
      have unmarkedToo : '?' ∉ found.2 := fun member => unmarked (mem_of_splitScheme split member)
      simp [Except.map, cutFirst_append unmarkedToo, cutFirst_of_not_mem unmarkedToo]

theorem not_isControl_of_isScheme (isScheme : IsScheme scheme) :
    ∀ character ∈ scheme, ¬ IsControl character := by
  intro character member control
  rcases isScheme.characters character member with alphanumeric | mark
  · have code := character.toNat_val
    rw [← isLetter_or_isDigit_eq] at alphanumeric
    rw [IsControl] at control
    simp [isLetter, isDigit, Char.le_def, UInt32.le_iff_toNat_le] at alphanumeric
    omega
  · have plain : "+-.".toList.all (fun mark => !isControl mark) := rfl
    have uncontrolled := List.all_eq_true.mp plain character mark
    rw [(isControl_iff character).mpr control] at uncontrolled
    cases uncontrolled

theorem check_scheme_append (isScheme : IsScheme scheme) :
    check (scheme ++ ':' :: rest) = .ok () ↔
      (∀ character ∈ rest, ¬ IsControl character) ∧
        checkHierarchy true (cutFirst '?' rest).1 = .ok () := by
  have colon : ¬ IsControl ':' := by
    rw [← isControl_iff]
    decide
  rw [check_eq_ok_iff, splitScheme_append isScheme, List.forall_mem_append, List.forall_mem_cons,
    and_iff_right (not_isControl_of_isScheme isScheme), and_iff_right colon]
  simp

end Checks

section Fragments

variable {front : String}

/-- A text without a fragment is accepted as soon as it passes the checks on what
stands in front of one. -/
theorem accepted_iff_check (unmarked : '#' ∉ front.toList) :
    Accepted front ↔ check front.toList = .ok () := by
  rw [Accepted, fragment, cutFirst_of_not_mem unmarked]
  constructor
  · rintro ⟨bytes, accepted⟩
    obtain ⟨_, checked, -⟩ := Log.bind_eq_ok_iff.mp accepted
    exact checked
  · exact fun checked => ⟨[], Log.bind_eq_ok_iff.mpr ⟨(), checked, rfl⟩⟩

theorem name_append_of_refused (unmarked : '#' ∉ front.toList) (refused : ¬ Accepted front)
    (written : String) : name (front ++ "#" ++ written) = "" := by
  have characters : (front ++ "#" ++ written).toList = front.toList ++ '#' :: written.toList := by
    simp
  rw [accepted_iff_check unmarked] at refused
  rw [name, fragment, characters, cutFirst_append unmarked]
  cases checked : check front.toList with
  | error fault =>
      simp only [checked]
      rfl
  | ok => exact absurd checked refused

theorem name_append_of_accepted (unmarked : '#' ∉ front.toList) (accepted : Accepted front)
    (written : String) : name (front ++ "#" ++ written) = name ("#" ++ written) := by
  have bare : fragment ("" ++ "#" ++ written) = unescape written.toList :=
    fragment_append (by decide) ⟨[], rfl⟩ written
  rw [String.empty_append] at bare
  rw [name, name, fragment_append unmarked accepted, bare]

end Fragments

/-- The name is the one of the fragment alone when what stands in front of it is
accepted, and empty otherwise; and that is accepted whatever its query is and
whichever scheme it has. -/
theorem name_of_fragment_alone :
    (∀ front written : String, '#' ∉ front.toList →
      (Accepted front → name (front ++ "#" ++ written) = name ("#" ++ written)) ∧
        (¬ Accepted front → name (front ++ "#" ++ written) = "")) ∧
    (∀ base query : String, '?' ∉ base.toList → '#' ∉ base.toList → '#' ∉ query.toList →
      (∀ character ∈ query.toList, ¬ IsControl character) →
        (Accepted (base ++ "?" ++ query) ↔ Accepted base)) ∧
    ∀ first second rest : String, IsScheme first.toList → IsScheme second.toList →
      '#' ∉ rest.toList →
        (Accepted (first ++ ":" ++ rest) ↔ Accepted (second ++ ":" ++ rest)) := by
  refine ⟨fun front written unmarked => ⟨fun accepted => ?_, fun refused => ?_⟩,
    fun base query unqueried unmarked unmarkedToo uncontrolled => ?_,
    fun first second rest isScheme isSchemeToo unmarked => ?_⟩
  · exact name_append_of_accepted unmarked accepted written
  · exact name_append_of_refused unmarked refused written
  · have characters : (base ++ "?" ++ query).toList = base.toList ++ '?' :: query.toList := by
      simp
    have unmarkedWhole : '#' ∉ (base ++ "?" ++ query).toList := by
      simp [characters, unmarked, unmarkedToo]
    rw [accepted_iff_check unmarkedWhole, accepted_iff_check unmarked, characters,
      check_append_query unqueried uncontrolled]
  · have withScheme {scheme : String} (isScheme : IsScheme scheme.toList) :
        Accepted (scheme ++ ":" ++ rest) ↔
          (∀ character ∈ rest.toList, ¬ IsControl character) ∧
            checkHierarchy true (cutFirst '?' rest.toList).1 = .ok () := by
      have characters : (scheme ++ ":" ++ rest).toList = scheme.toList ++ ':' :: rest.toList := by
        simp
      have schemeUnmarked : '#' ∉ scheme.toList := fun member =>
        absurd (isScheme.characters '#' member) (by decide)
      have unmarkedWhole : '#' ∉ (scheme ++ ":" ++ rest).toList := by
        simp [characters, schemeUnmarked, unmarked]
      rw [accepted_iff_check unmarkedWhole, characters, check_scheme_append isScheme]
    rw [withScheme isScheme, withScheme isSchemeToo]

theorem name_of_fragment_alone_queriedFront :
    (Accepted "s://h:1" ∧ name ("s://h:1" ++ "#" ++ "a%2B+") = name ("#" ++ "a%2B+")) ∧
      (¬ Accepted "s://h:x" ∧ name ("s://h:x" ++ "#" ++ "a%2B+") = "") ∧
      Accepted ("s://h:1" ++ "?" ++ "q:%") ∧ Accepted ("a+1" ++ ":" ++ "//h:1") := by
  obtain ⟨names, queries, schemes⟩ := name_of_fragment_alone
  have accepted : Accepted "s://h:1" := ⟨[], by decide +kernel⟩
  have refused : ¬ Accepted "s://h:x" := by
    rintro ⟨bytes, found⟩
    have fault : fragment "s://h:x" = .error (.port ":x") := by decide +kernel
    rw [fault] at found
    cases found
  have controlled : ∀ character ∈ "q:%".toList, ¬ IsControl character := by
    have plain : "q:%".toList.all (fun character => !isControl character) := rfl
    simpa [← isControl_iff] using plain
  have short : IsScheme "s".toList := .letter rfl (List.forall_mem_nil _)
  have long : IsScheme "a+1".toList := .letter rfl
    (List.forall_mem_cons.mpr ⟨.inr (by decide), List.forall_mem_singleton.mpr (.inl rfl)⟩)
  exact ⟨⟨accepted, (names "s://h:1" "a%2B+" (by decide)).1 accepted⟩,
    ⟨refused, (names "s://h:x" "a%2B+" (by decide)).2 refused⟩,
    (queries "s://h:1" "q:%" (by decide) (by decide) (by decide) controlled).mpr accepted,
    (schemes "s" "a+1" "//h:1" short long (by decide)).mp accepted⟩

end RelayPool.Uri
