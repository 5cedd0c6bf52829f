import Mathlib.Data.List.DropRight
import RelayPool.Text.Blank

/-!
# Trimmed texts

A text is trimmed when it neither begins nor ends with white space.  Trimming
gives such a text and leaves it as it is, so a text that is kept trimmed can be
recognized by trimming it once more.
-/

namespace RelayPool.Text

/-- A list of characters with no white space at its two ends. -/
def IsTrimmed (characters : List Char) : Prop :=
  (∀ nonempty : 0 < characters.length, ¬ isBlank characters[0]) ∧
    ∀ nonempty : characters ≠ [], ¬ isBlank (characters.getLast nonempty)

theorem trimEnd_eq_rdropWhile (characters : List Char) :
    trimEnd characters = characters.rdropWhile isBlank :=
  rfl

/-- A trimmed list is one that trimming does not change. -/
theorem trimmed_eq_self_iff (characters : List Char) :
    trimmed characters = characters ↔ IsTrimmed characters := by
  rw [trimmed, trimEnd_eq_rdropWhile, IsTrimmed, ← List.dropWhile_eq_self_iff,
    ← List.rdropWhile_eq_self_iff]
  constructor
  · intro unchanged
    -- Neither end can lose characters, for the other cannot put them back.
    have shorter := (List.rdropWhile_prefix isBlank
      (l := characters.dropWhile isBlank)).length_le
    rw [unchanged] at shorter
    have front : characters.dropWhile isBlank = characters :=
      (List.dropWhile_suffix isBlank).eq_of_length_le shorter
    rw [front] at unchanged
    exact ⟨front, unchanged⟩
  · rintro ⟨front, back⟩
    rw [front, back]

theorem isTrimmed_trimmed (characters : List Char) :
    IsTrimmed (trimmed characters) := by
  rw [trimmed, trimEnd_eq_rdropWhile]
  constructor
  · intro nonempty
    -- The first character that is left was the first one before the end went.
    have kept := List.rdropWhile_prefix isBlank (l := characters.dropWhile isBlank)
    rw [kept.getElem nonempty]
    exact List.dropWhile_get_zero_not isBlank characters
      (lt_of_lt_of_le nonempty kept.length_le)
  · exact List.rdropWhile_last_not isBlank (characters.dropWhile isBlank)

theorem trimmed_of_dark {text : List Char}
    (dark : ∀ character ∈ text, isBlank character = false) : trimmed text = text := by
  rw [trimmed_eq_self_iff]
  constructor
  · intro nonempty
    rw [dark _ (List.getElem_mem nonempty)]
    decide
  · intro nonempty
    rw [dark _ (List.getLast_mem nonempty)]
    decide

@[simp]
theorem trimmed_trimmed (characters : List Char) :
    trimmed (trimmed characters) = trimmed characters :=
  (trimmed_eq_self_iff _).mpr (isTrimmed_trimmed characters)

@[simp]
theorem strip_strip (text : String) : strip (strip text) = strip text := by
  rw [strip, toList_strip, trimmed_trimmed, strip]

theorem trimmed_eq_nil_iff (characters : List Char) :
    trimmed characters = [] ↔ ∀ character ∈ characters, isBlank character := by
  rw [trimmed, trimEnd_eq_rdropWhile, List.rdropWhile_eq_nil_iff]
  constructor
  · intro blank
    -- What is left when the front is gone would begin with a character that is not blank.
    have nothing : characters.dropWhile isBlank = [] := by
      by_contra left
      have first := List.head_dropWhile_not isBlank left
      rw [blank _ (List.head_mem left)] at first
      cases first
    exact List.dropWhile_eq_nil_iff.mp nothing
  · intro blank character member
    exact blank character ((List.dropWhile_suffix isBlank).mem member)

theorem strip_eq_empty_iff (text : String) :
    strip text = "" ↔ ∀ character ∈ text.toList, isBlank character := by
  rw [← trimmed_eq_nil_iff, ← toList_strip, String.toList_eq_nil_iff]

section Margins

variable {front back text : List Char}

theorem trimmed_append_of_blank (blank : ∀ character ∈ front, isBlank character) :
    trimmed (front ++ text) = trimmed text := by
  rw [trimmed, trimmed, List.dropWhile_append_of_pos blank]

theorem trimEnd_append_of_blank (blank : ∀ character ∈ back, isBlank character) :
    trimEnd (text ++ back) = trimEnd text := by
  have blankToo : ∀ character ∈ back.reverse, isBlank character := fun character member =>
    blank character (List.mem_reverse.mp member)
  rw [trimEnd, trimEnd, List.reverse_append, List.dropWhile_append_of_pos blankToo]

/-- White space at the two ends makes no difference. -/
theorem trimmed_padded (frontBlank : ∀ character ∈ front, isBlank character)
    (backBlank : ∀ character ∈ back, isBlank character) :
    trimmed (front ++ text ++ back) = trimmed text := by
  rw [List.append_assoc, trimmed_append_of_blank frontBlank, trimmed, trimmed,
    List.dropWhile_append]
  split
  · next nothing =>
      rw [List.isEmpty_iff.mp nothing, List.dropWhile_eq_nil_iff.mpr backBlank]
  · exact trimEnd_append_of_blank backBlank

theorem trimEnd_cons_of_dark {first : Char} (dark : ¬ isBlank first) :
    trimEnd (first :: text) = first :: trimEnd text := by
  rw [trimEnd, trimEnd, List.reverse_cons, List.dropWhile_append]
  split
  · next nothing =>
      rw [List.isEmpty_iff.mp nothing, List.dropWhile_cons_of_neg dark]
      rfl
  · rw [List.reverse_append]
    rfl

theorem trimmed_cons_of_dark {first : Char} (dark : ¬ isBlank first) :
    trimmed (first :: text) = first :: trimEnd text := by
  rw [trimmed, List.dropWhile_cons_of_neg dark, trimEnd_cons_of_dark dark]

theorem mem_of_mem_trimmed {character : Char} (member : character ∈ trimmed text) :
    character ∈ text := by
  rw [trimmed, trimEnd_eq_rdropWhile] at member
  have kept := (List.rdropWhile_prefix isBlank _).subset member
  exact (List.dropWhile_suffix isBlank).subset kept

/-- A text is its trimmed text with white space around it. -/
theorem exists_margins (text : List Char) :
    ∃ front back, (∀ character ∈ front, isBlank character) ∧
      (∀ character ∈ back, isBlank character) ∧ front ++ trimmed text ++ back = text := by
  let inner := text.dropWhile isBlank
  refine ⟨text.takeWhile isBlank, inner.rtakeWhile isBlank, ?_, ?_, ?_⟩
  · intro character member
    exact List.mem_takeWhile_imp member
  · intro character member
    exact List.mem_takeWhile_imp (List.mem_reverse.mp member)
  · have inner_eq : trimmed text ++ inner.rtakeWhile isBlank = inner := by
      rw [trimmed, trimEnd_eq_rdropWhile]
      exact List.rdropWhile_append_rtakeWhile
    rw [List.append_assoc, inner_eq, List.takeWhile_append_dropWhile]

theorem mem_trimmed_of_dark {character : Char} (member : character ∈ text)
    (dark : isBlank character = false) : character ∈ trimmed text := by
  obtain ⟨front, back, frontBlank, backBlank, whole⟩ := exists_margins text
  rw [← whole] at member
  rcases List.mem_append.mp member with inside | behind
  · rcases List.mem_append.mp inside with before | kept
    · rw [frontBlank character before] at dark
      cases dark
    · exact kept
  · rw [backBlank character behind] at dark
    cases dark

end Margins

end RelayPool.Text
