import Mathlib.Algebra.Ring.Nat
import RelayPool.Text.Separated

/-!
# Parts of a text between its marks

Cutting a text at its marks is the splitting of lists, so the parts of two texts
with a mark between them are the parts of the two.
-/

namespace RelayPool.Text

variable {mark : Char}

theorem separateAfter_eq_splitOnPPrepend (taken text : List Char) :
    separateAfter mark taken text = text.splitOnPPrepend (· == mark) taken := by
  induction text generalizing taken with
  | nil => rfl
  | cons character rest ih =>
      rw [List.splitOnPPrepend_cons_eq_if, separateAfter, ih, ih]
      simp only [beq_iff_eq, List.splitOnPPrepend_nil_right]

theorem separate_eq_splitOn (text : List Char) : separate mark text = text.splitOn mark :=
  separateAfter_eq_splitOnPPrepend [] text

theorem separate_append (first second : List Char) :
    separate mark (first ++ mark :: second) = separate mark first ++ separate mark second := by
  simp only [separate_eq_splitOn, List.splitOn_append_cons_self]

theorem separate_of_not_mem {text : List Char} (absent : mark ∉ text) :
    separate mark text = [text] := by
  rw [separate_eq_splitOn, List.splitOn_eq_singleton absent]

theorem length_separateAfter (taken text : List Char) :
    (separateAfter mark taken text).length = text.count mark + 1 := by
  induction text generalizing taken with
  | nil => rfl
  | cons character rest ih =>
      rw [separateAfter, List.count_cons]
      split <;> simp_all

/-- There is one part more than there are marks. -/
theorem length_separate (text : List Char) :
    (separate mark text).length = text.count mark + 1 :=
  length_separateAfter [] text

/-- Lines without marks are read back when a mark is put behind each. -/
theorem separate_flatMap {lines : List (List Char)} (unmarked : ∀ line ∈ lines, mark ∉ line) :
    separate mark (lines.flatMap (· ++ [mark])) = lines ++ [[]] := by
  induction lines with
  | nil => rfl
  | cons line rest ih =>
      obtain ⟨first, others⟩ := List.forall_mem_cons.mp unmarked
      rw [List.flatMap_cons, List.append_assoc, List.singleton_append, separate_append,
        separate_of_not_mem first, ih others]
      rfl

theorem count_flatMap (lines : List (List Char)) :
    (lines.flatMap (· ++ [mark])).count mark =
      lines.length + (lines.map (·.count mark)).sum := by
  induction lines with
  | nil => rfl
  | cons line rest ih =>
      rw [List.flatMap_cons, List.count_append, List.count_append, ih,
        List.count_singleton_self, List.map_cons, List.sum_cons, List.length_cons]
      omega

theorem not_mem_of_mem_separateAfter {taken text part : List Char} (absent : mark ∉ taken)
    (member : part ∈ separateAfter mark taken text) : mark ∉ part := by
  induction text generalizing taken with
  | nil =>
      rw [separateAfter, List.mem_singleton] at member
      rwa [member, List.mem_reverse]
  | cons character rest ih =>
      rw [separateAfter] at member
      by_cases here : character = mark
      · rw [if_pos here, List.mem_cons] at member
        rcases member with rfl | later
        · rwa [List.mem_reverse]
        · exact ih List.not_mem_nil later
      · rw [if_neg here] at member
        exact ih (List.not_mem_cons_of_ne_of_not_mem (Ne.symm here) absent) member

/-- No mark is left in a part. -/
theorem not_mem_of_mem_separate {text part : List Char}
    (member : part ∈ separate mark text) : mark ∉ part :=
  not_mem_of_mem_separateAfter List.not_mem_nil member

theorem exists_mem_separateAfter {taken text : List Char} {character : Char}
    (member : character ∈ taken ∨ character ∈ text) (other : character ≠ mark) :
    ∃ part ∈ separateAfter mark taken text, character ∈ part := by
  induction text generalizing taken with
  | nil =>
      have before := member.resolve_right List.not_mem_nil
      exact ⟨taken.reverse, List.mem_singleton.mpr rfl, List.mem_reverse.mpr before⟩
  | cons first rest ih =>
      rw [separateAfter]
      rw [List.mem_cons] at member
      split
      · next here =>
          rcases member with before | rfl | behind
          · exact ⟨_, List.mem_cons_self, List.mem_reverse.mpr before⟩
          · exact absurd here other
          · obtain ⟨part, isPart, inside⟩ := ih (.inr behind)
            exact ⟨part, List.mem_cons_of_mem _ isPart, inside⟩
      · apply ih
        rw [List.mem_cons]
        grind

/-- Every character but the marks is in a part. -/
theorem exists_mem_separate {text : List Char} {character : Char} (member : character ∈ text)
    (other : character ≠ mark) : ∃ part ∈ separate mark text, character ∈ part :=
  exists_mem_separateAfter (.inr member) other

end RelayPool.Text
