import RelayPool.Proofs.Log.Outcome
import RelayPool.Proofs.Uri.Escape
import RelayPool.Proofs.Uri.Parts

/-!
# Names written in URIs

A name is put into a URI in two steps: it is written as a query component, and
that text is written as a fragment.  Each step leaves a choice for every
character, which may stand for itself or be escaped byte by byte, and a query
component may have `+` for a space.  Whatever is chosen, the name of the URI is
the name that was put into it.
-/

namespace RelayPool.Uri

open Text.Utf8 (encode)

/-- A text that writes another one character by character, each in one of the
forms it has. -/
inductive Written (form : Char → List Char → Prop) : List Char → List Char → Prop
  | nil : Written form [] []
  | cons {character : Char} {piece rest text : List Char} (first : form character piece)
      (later : Written form rest text) :
      Written form (character :: rest) (piece ++ text)

/-- The forms of a character in a fragment. -/
inductive FragmentForm (character : Char) : List Char → Prop
  | plain (unmarked : character ≠ '%') : FragmentForm character [character]
  | escaped {piece : List Char}
      (escapes : Percent.Escapes (String.utf8EncodeChar character) piece) :
      FragmentForm character piece

/-- The forms of a character in a query component. -/
inductive QueryForm : Char → List Char → Prop
  | plain {character : Char} (unmarked : character ≠ '%') (noPlus : character ≠ '+') :
      QueryForm character [character]
  | space : QueryForm ' ' ['+']
  | escaped {character : Char} {piece : List Char}
      (escapes : Percent.Escapes (String.utf8EncodeChar character) piece) :
      QueryForm character piece

section Written

variable {form : Char → List Char → Prop} {text written : List Char}

/-- What reads every form of a character reads what is written in these forms. -/
theorem Written.read {reader : List UInt8 → List UInt8} (empty : reader [] = [])
    (each : ∀ character piece rest, form character piece →
      reader (encode piece ++ rest) = String.utf8EncodeChar character ++ reader rest)
    (writes : Written form text written) : reader (encode written) = encode text := by
  induction writes with
  | nil => exact empty
  | cons first later ih =>
      rw [Text.Utf8.encode_append, each _ _ _ first, ih, Text.Utf8.encode_cons]

theorem Written.wellFormed
    (each : ∀ character piece rest, form character piece →
      Percent.wellFormed (piece ++ rest) = Percent.wellFormed rest)
    (writes : Written form text written) : Percent.wellFormed written := by
  induction writes with
  | nil => rfl
  | cons first later ih => rw [each _ _ _ first, ih]

theorem Written.whole
    (each : ∀ character piece, form character piece → Text.isHalf character = false →
      ∀ other ∈ piece, Text.isHalf other = false)
    (writes : Written form text written)
    (whole : ∀ character ∈ text, Text.isHalf character = false) :
    ∀ character ∈ written, Text.isHalf character = false := by
  induction writes with
  | nil => exact whole
  | cons first later ih =>
      obtain ⟨head, rest⟩ := List.forall_mem_cons.mp whole
      intro other member
      rcases List.mem_append.mp member with inPiece | inText
      · exact each _ _ first head other inPiece
      · exact ih rest other inText

end Written

section Forms

variable {character : Char} {piece : List Char}

theorem isHalf_of_ascii (ascii : character.toNat < 0x80) : Text.isHalf character = false := by
  have small : ¬ Text.halfDistance ≤ character.toNat := by
    rw [Text.halfDistance]
    omega
  simp only [Text.isHalf, Text.codeOf, Text.isHalfCode, small, decide_false, Bool.false_and,
    Bool.false_eq_true, ite_false]
  simp
  omega

theorem isHalf_of_escapes {bytes : List UInt8} (escapes : Percent.Escapes bytes piece) :
    ∀ other ∈ piece, Text.isHalf other = false := by
  intro other member
  apply isHalf_of_ascii
  rcases escapes.bounds other member with rfl | range
  · decide
  · omega

theorem FragmentForm.decode (form : FragmentForm character piece) (rest : List UInt8) :
    Percent.decode (encode piece ++ rest) =
      String.utf8EncodeChar character ++ Percent.decode rest := by
  cases form with
  | plain unmarked =>
      have absent : '%' ∉ [character] := by simpa using unmarked.symm
      rw [Percent.decode_append_of_not_mem (Percent.mark_not_mem_encode absent),
        Text.Utf8.encode_singleton]
  | escaped escapes => exact Percent.decode_encode_append escapes rest

theorem FragmentForm.wellFormed (form : FragmentForm character piece) (rest : List Char) :
    Percent.wellFormed (piece ++ rest) = Percent.wellFormed rest := by
  cases form with
  | plain unmarked => exact Percent.wellFormed_cons_of_ne unmarked rest
  | escaped escapes => exact Percent.wellFormed_escapes_append escapes rest

theorem FragmentForm.whole (form : FragmentForm character piece)
    (whole : Text.isHalf character = false) : ∀ other ∈ piece, Text.isHalf other = false := by
  cases form with
  | plain unmarked => simpa using whole
  | escaped escapes => exact isHalf_of_escapes escapes

/-- But for a space written as `+`, a query component has the forms of a fragment
in which no `+` occurs. -/
theorem QueryForm.eq_space_or_fragmentForm (form : QueryForm character piece) :
    character = ' ' ∧ piece = ['+'] ∨ FragmentForm character piece ∧ '+' ∉ piece := by
  cases form with
  | plain unmarked noPlus => exact .inr ⟨.plain unmarked, by simpa using noPlus.symm⟩
  | space => exact .inl ⟨rfl, rfl⟩
  | escaped escapes =>
      refine .inr ⟨.escaped escapes, fun member => ?_⟩
      rcases escapes.bounds '+' member with mark | range
      · exact absurd mark (by decide)
      · exact absurd range.1 (by decide)

theorem map_encode_of_not_mem (noPlus : '+' ∉ piece) :
    (encode piece).map (fun byte => if byte = 43 then 32 else byte) = encode piece := by
  have absent : 43 ∉ encode piece :=
    Text.Utf8.not_mem_encode_of_ascii (by decide : '+'.toNat < 0x80) noPlus
  refine (List.map_congr_left fun byte member => if_neg ?_).trans (List.map_id _)
  rintro rfl
  exact absent member

theorem decodeQuery_encode_append (noPlus : '+' ∉ piece) (rest : List UInt8) :
    Percent.decodeQuery (encode piece ++ rest) =
      Percent.decode (encode piece ++ rest.map fun byte => if byte = 43 then 32 else byte) := by
  rw [Percent.decodeQuery, List.map_append, map_encode_of_not_mem noPlus]

theorem QueryForm.decodeQuery (form : QueryForm character piece) (rest : List UInt8) :
    Percent.decodeQuery (encode piece ++ rest) =
      String.utf8EncodeChar character ++ Percent.decodeQuery rest := by
  rcases form.eq_space_or_fragmentForm with ⟨rfl, rfl⟩ | ⟨inFragment, noPlus⟩
  · have plus : encode ['+'] = [43] := rfl
    rw [plus, Percent.decodeQuery, List.map_append]
    exact Percent.decode_cons_of_ne (by decide) _
  · rw [decodeQuery_encode_append noPlus]
    exact inFragment.decode _

theorem QueryForm.wellFormed (form : QueryForm character piece) (rest : List Char) :
    Percent.wellFormed (piece ++ rest) = Percent.wellFormed rest := by
  rcases form.eq_space_or_fragmentForm with ⟨rfl, rfl⟩ | ⟨inFragment, -⟩
  · exact Percent.wellFormed_cons_of_ne (by decide) rest
  · exact inFragment.wellFormed rest

theorem QueryForm.whole (form : QueryForm character piece)
    (whole : Text.isHalf character = false) : ∀ other ∈ piece, Text.isHalf other = false := by
  rcases form.eq_space_or_fragmentForm with ⟨rfl, rfl⟩ | ⟨inFragment, -⟩
  · exact List.forall_mem_singleton.mpr rfl
  · exact inFragment.whole whole

end Forms

section Fragment

/-- A URI without a fragment that passes every check passes them with any
fragment. -/
theorem fragment_append {front : String} (unmarked : '#' ∉ front.toList)
    (accepted : ∃ bytes, fragment front = .ok bytes) (written : String) :
    fragment (front ++ "#" ++ written) = unescape written.toList := by
  obtain ⟨bytes, accepted⟩ := accepted
  rw [fragment, cutFirst_of_not_mem unmarked] at accepted
  obtain ⟨_, checked, -⟩ := Log.bind_eq_ok_iff.mp accepted
  have characters : (front ++ "#" ++ written).toList = front.toList ++ '#' :: written.toList := by
    simp
  rw [fragment, characters, cutFirst_append unmarked]
  simp only [checked]
  rfl

end Fragment

/-- A name that is written as a query component and then as a fragment is the
name of the URI, whichever forms are chosen for its characters. -/
theorem name_of_encoded_twice {front text query written : String}
    (unmarked : '#' ∉ front.toList) (accepted : ∃ bytes, fragment front = .ok bytes)
    (whole : ∀ character ∈ text.toList, Text.isHalf character = false)
    (asQuery : Written QueryForm text.toList query.toList)
    (asFragment : Written FragmentForm query.toList written.toList) :
    name (front ++ "#" ++ written) = text := by
  have queryWhole := asQuery.whole (fun _ _ => QueryForm.whole) whole
  have writtenWhole := asFragment.whole (fun _ _ => FragmentForm.whole) queryWhole
  have fragmentFormed := asFragment.wellFormed fun _ _ rest form => form.wellFormed rest
  have queryFormed := asQuery.wellFormed fun _ _ rest form => form.wellFormed rest
  have firstRead : Percent.decode (encode written.toList) = encode query.toList :=
    asFragment.read rfl fun _ _ rest form => form.decode rest
  have secondRead : Percent.decodeQuery (encode query.toList) = encode text.toList :=
    asQuery.read rfl fun _ _ rest form => form.decodeQuery rest
  have unescaped : fragment (front ++ "#" ++ written) = .ok (encode query.toList) := by
    rw [fragment_append unmarked accepted, unescape_of_wellFormed fragmentFormed writtenWhole,
      firstRead]
  rw [name, unescaped]
  simp only [label, Percent.wellFormedBytes_encode, queryFormed, if_true, secondRead,
    Text.Utf8.decodeLenient_encode, String.ofList_toList]

theorem name_of_encoded_twice_mixedForms :
    Written QueryForm "+ ü".toList "%2B+%C3%bc".toList ∧
      Written FragmentForm "%2B+%C3%bc".toList "%252B%2b%25C3%25bc".toList ∧
        name ("s://h:1" ++ "#" ++ "%252B%2b%25C3%25bc") = "+ ü" := by
  have asQuery : Written QueryForm "+ ü".toList "%2B+%C3%bc".toList := by
    change Written QueryForm ['+', ' ', 'ü']
      (['%', '2', 'B'] ++ (['+'] ++ (['%', 'C', '3', '%', 'b', 'c'] ++ [])))
    refine .cons (.escaped ?_) (.cons .space (.cons (.escaped ?_) .nil))
    · exact .cons (.inl rfl) (.inr rfl) .nil
    · exact .cons (.inr rfl) (.inl rfl) (.cons (.inl rfl) (.inl rfl) .nil)
  have mark : FragmentForm '%' ['%', '2', '5'] := .escaped (.cons (.inl rfl) (.inl rfl) .nil)
  have plus : FragmentForm '+' ['%', '2', 'b'] := .escaped (.cons (.inl rfl) (.inl rfl) .nil)
  have asFragment : Written FragmentForm "%2B+%C3%bc".toList "%252B%2b%25C3%25bc".toList := by
    change Written FragmentForm ['%', '2', 'B', '+', '%', 'C', '3', '%', 'b', 'c']
      (['%', '2', '5'] ++ (['2'] ++ (['B'] ++ (['%', '2', 'b'] ++ (['%', '2', '5'] ++ (['C'] ++
        (['3'] ++ (['%', '2', '5'] ++ (['b'] ++ (['c'] ++ []))))))))))
    refine .cons mark (.cons (.plain ?_) (.cons (.plain ?_) (.cons plus (.cons mark
      (.cons (.plain ?_) (.cons (.plain ?_) (.cons mark (.cons (.plain ?_)
        (.cons (.plain ?_) .nil))))))))) <;> decide
  have whole : ∀ character ∈ "+ ü".toList, Text.isHalf character = false := by
    change ∀ character ∈ ['+', ' ', 'ü'], Text.isHalf character = false
    simp only [List.forall_mem_cons]
    exact ⟨rfl, rfl, rfl, List.forall_mem_nil _⟩
  exact ⟨asQuery, asFragment,
    @name_of_encoded_twice "s://h:1" "+ ü" "%2B+%C3%bc" "%252B%2b%25C3%25bc" (by decide)
      ⟨[], by decide +kernel⟩ whole asQuery asFragment⟩

end RelayPool.Uri
