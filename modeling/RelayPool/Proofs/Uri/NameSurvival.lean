import RelayPool.Proofs.Uri.NameSource
import RelayPool.Proofs.Uri.Unescaping

/-!
# Names written once

A name that is written as a fragment only, and not as a query component before,
is read as one all the same.  It survives when it holds a `%` that begins no
escape, as then the second reading is left out, or when it holds nothing that the
second reading changes.  Otherwise the name is lost: reading an escape leaves
fewer characters than the name had, whatever becomes of the byte that it writes,
and reading `+` leaves none of these.
-/

namespace RelayPool.Uri

open Text.Utf8 (encode decodeLenient)

/-- A text with a `%` that is not followed by two hexadecimal digits. -/
def HoldsLoneMark (text : List Char) : Prop :=
  ∃ before behind, text = before ++ '%' :: behind ∧ ¬ BeginsEscape IsEscape behind

theorem holdsLoneMark_iff {text : List Char} :
    HoldsLoneMark text ↔ Percent.wellFormed text = false := by
  rw [← Bool.not_eq_true, wellFormed_iff]
  simp only [HoldsLoneMark, EscapesAre, not_forall, exists_prop]

section Spaces

variable {text : List Char} {bytes : List UInt8}

/-- A text with a space for each `+`. -/
def spaced (text : List Char) : List Char :=
  text.map fun character => if character = '+' then ' ' else character

theorem plus_not_mem_spaced : '+' ∉ spaced text := by
  rw [spaced, List.mem_map]
  rintro ⟨character, -, plus⟩
  split_ifs at plus with same
  · exact absurd plus (by decide)
  · exact same plus

theorem spaced_eq_self (noPlus : '+' ∉ text) : spaced text = text := by
  refine (List.map_congr_left fun character member => if_neg ?_).trans (List.map_id text)
  rintro rfl
  exact noPlus member

theorem spaced_cons_of_ne {character : Char} (noPlus : character ≠ '+') (rest : List Char) :
    spaced (character :: rest) = character :: spaced rest := by
  rw [spaced, List.map_cons, if_neg noPlus, spaced]

theorem count_mark_spaced (text : List Char) : (spaced text).count '%' = text.count '%' := by
  induction text with
  | nil => rfl
  | cons character rest ih =>
      by_cases plus : character = '+'
      · subst plus
        exact ih
      · rw [spaced_cons_of_ne plus, List.count_cons, List.count_cons, ih]

theorem decodeQuery_encode (text : List Char) :
    Percent.decodeQuery (encode text) = Percent.decode (encode (spaced text)) := by
  rw [Percent.decodeQuery]
  congr 1
  induction text with
  | nil => rfl
  | cons character rest ih =>
      by_cases plus : character = '+'
      · subst plus
        exact congrArg _ ih
      · have noPlus : '+' ∉ [character] := by simpa using Ne.symm plus
        have kept := map_encode_of_not_mem noPlus
        rw [Text.Utf8.encode_singleton] at kept
        rw [spaced_cons_of_ne plus, Text.Utf8.encode_cons, Text.Utf8.encode_cons,
          List.map_append, kept, ih]

theorem exists_writes_spaced (writes : Percent.Writes text bytes) :
    ∃ read, Percent.Writes (spaced text) read := by
  induction writes with
  | nil => exact ⟨[], .nil⟩
  | @plain character rest bytes unmarked later ih =>
      obtain ⟨read, writesRest⟩ := ih
      by_cases plus : character = '+'
      · subst plus
        exact ⟨_, .plain (by decide : ' ' ≠ '%') writesRest⟩
      · rw [spaced_cons_of_ne plus]
        exact ⟨_, .plain unmarked writesRest⟩
  | @escape byte high low rest bytes highDigit lowDigit later ih =>
      obtain ⟨read, writesRest⟩ := ih
      have highKept : high ≠ '+' :=
        Percent.ne_of_hexValue? (Percent.hexValue?_of_highDigit highDigit) (by decide)
      have lowKept : low ≠ '+' :=
        Percent.ne_of_hexValue? (Percent.hexValue?_of_lowDigit lowDigit) (by decide)
      rw [spaced_cons_of_ne (by decide), spaced_cons_of_ne highKept, spaced_cons_of_ne lowKept]
      exact ⟨_, .escape highDigit lowDigit writesRest⟩

end Spaces

section Reading

variable {text : List Char}

theorem decodeQuery_of_unmarked (unmarked : '%' ∉ text) :
    decodeLenient (Percent.decodeQuery (encode text)) = spaced text := by
  have absent : '%' ∉ spaced text := by
    rwa [← List.count_eq_zero, count_mark_spaced, List.count_eq_zero]
  rw [decodeQuery_encode, Percent.decode_encode_of_not_mem absent,
    Text.Utf8.decodeLenient_encode]

/-- Reading a text leaves at least two characters fewer for each of its escapes. -/
theorem length_decodeQuery_le (wellFormed : Percent.wellFormed text) :
    (decodeLenient (Percent.decodeQuery (encode text))).length + 2 * text.count '%' ≤
      text.length := by
  obtain ⟨bytes, writes⟩ := Percent.exists_writes wellFormed
  obtain ⟨read, writesSpaced⟩ := exists_writes_spaced writes
  obtain ⟨count, joined, parts⟩ := writesSpaced.joined
  have bounded := Text.Utf8.length_decodeLenient_le joined
  rw [count_mark_spaced, spaced, List.length_map] at parts
  rw [decodeQuery_encode, writesSpaced.decode]
  omega

theorem decodeQuery_eq_self_iff (wellFormed : Percent.wellFormed text) :
    decodeLenient (Percent.decodeQuery (encode text)) = text ↔ '%' ∉ text ∧ '+' ∉ text := by
  constructor
  · intro same
    have shorter := length_decodeQuery_le wellFormed
    rw [same] at shorter
    have unmarked : '%' ∉ text := List.count_eq_zero.mp (by omega)
    rw [decodeQuery_of_unmarked unmarked] at same
    exact ⟨unmarked, same ▸ plus_not_mem_spaced⟩
  · rintro ⟨unmarked, noPlus⟩
    rw [decodeQuery_of_unmarked unmarked, spaced_eq_self noPlus]

theorem label_encode_eq_iff (text : List Char) :
    label (encode text) = String.ofList text ↔
      HoldsLoneMark text ∨ '%' ∉ text ∧ '+' ∉ text := by
  rw [label, String.ofList_inj, Percent.wellFormedBytes_encode, holdsLoneMark_iff]
  cases wellFormed : Percent.wellFormed text with
  | false => simp
  | true => simp [decodeQuery_eq_self_iff wellFormed]

end Reading

/-- A name that is written as a fragment survives exactly when it holds a `%` that
begins no escape, or neither `%` nor `+`. -/
theorem name_of_encoded_once {front text written : String} (unmarked : '#' ∉ front.toList)
    (accepted : Accepted front)
    (whole : ∀ character ∈ text.toList, Text.isHalf character = false)
    (asFragment : Written FragmentForm text.toList written.toList) :
    name (front ++ "#" ++ written) = text ↔
      HoldsLoneMark text.toList ∨ '%' ∉ text.toList ∧ '+' ∉ text.toList := by
  have writtenWhole := asFragment.whole (fun _ _ => FragmentForm.whole) whole
  have wellFormed := asFragment.wellFormed fun _ _ rest form => form.wellFormed rest
  have read : Percent.decode (encode written.toList) = encode text.toList :=
    asFragment.read rfl fun _ _ rest form => form.decode rest
  have unescaped : fragment (front ++ "#" ++ written) = .ok (encode text.toList) := by
    rw [fragment_append unmarked accepted, unescape_of_wellFormed wellFormed writtenWhole, read]
  rw [name, unescaped, ← label_encode_eq_iff, String.ofList_toList]

/-- The `+` of the first name is kept, as its `%` begins no escape; the second name
loses it. -/
theorem name_of_encoded_once_plusSigns :
    Accepted "s://h:1" ∧
      (Written FragmentForm "5%+".toList "5%25+".toList ∧
        name ("s://h:1" ++ "#" ++ "5%25+") = "5%+") ∧
      Written FragmentForm "5+".toList "5%2B".toList ∧
        name ("s://h:1" ++ "#" ++ "5%2B") ≠ "5+" := by
  have accepted : Accepted "s://h:1" := ⟨[], by decide +kernel⟩
  have mark : FragmentForm '%' ['%', '2', '5'] := .escaped (.cons (.inl rfl) (.inl rfl) .nil)
  have plus : FragmentForm '+' ['%', '2', 'B'] := .escaped (.cons (.inl rfl) (.inr rfl) .nil)
  have kept : Written FragmentForm "5%+".toList "5%25+".toList := by
    change Written FragmentForm ['5', '%', '+'] (['5'] ++ (['%', '2', '5'] ++ (['+'] ++ [])))
    exact .cons (.plain (by decide)) (.cons mark (.cons (.plain (by decide)) .nil))
  have lost : Written FragmentForm "5+".toList "5%2B".toList := by
    change Written FragmentForm ['5', '+'] (['5'] ++ (['%', '2', 'B'] ++ []))
    exact .cons (.plain (by decide)) (.cons plus .nil)
  have keptWhole : ∀ character ∈ "5%+".toList, Text.isHalf character = false := by
    change ∀ character ∈ ['5', '%', '+'], Text.isHalf character = false
    simp only [List.forall_mem_cons]
    exact ⟨rfl, rfl, rfl, List.forall_mem_nil _⟩
  have lostWhole : ∀ character ∈ "5+".toList, Text.isHalf character = false := by
    change ∀ character ∈ ['5', '+'], Text.isHalf character = false
    simp only [List.forall_mem_cons]
    exact ⟨rfl, rfl, List.forall_mem_nil _⟩
  refine ⟨accepted, ⟨kept, ?_⟩, lost, ?_⟩
  · refine (name_of_encoded_once (by decide) accepted keptWhole kept).mpr (.inl ?_)
    exact ⟨['5'], ['+'], rfl, not_beginsEscape_singleton '+'⟩
  · rw [Ne, name_of_encoded_once (by decide) accepted lostWhole lost, holdsLoneMark_iff]
    decide +kernel

end RelayPool.Uri
