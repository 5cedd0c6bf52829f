import Mathlib.Data.List.TakeWhile
import RelayPool.Uri.Basic

/-!
# Texts cut at a mark

A text is cut at the first or at the last place of a mark.  What a cut gives is
told by how the parts make up the text: putting the mark between them gives the
text back, and the part on the one side is free of it.
-/

namespace RelayPool.Uri

/-- The parts of a text before and behind the first mark in it.  Without a mark
all of the text is before it. -/
inductive Parted (mark : Char) : List Char → List Char → List Char → Prop
  | marked {front behind : List Char} (unmarked : mark ∉ front) :
      Parted mark (front ++ mark :: behind) front behind
  | whole {text : List Char} (unmarked : mark ∉ text) : Parted mark text text []

section First

variable {mark : Char} {text front behind : List Char}

theorem ne_mark_of_mem (unmarked : mark ∉ text) :
    ∀ character ∈ text, decide (character ≠ mark) := by
  intro character member
  have different : character ≠ mark := fun same => unmarked (same ▸ member)
  exact decide_eq_true different

theorem cutFirst_append (unmarked : mark ∉ front) (rest : List Char) :
    cutFirst mark (front ++ mark :: rest) = (front, rest) := by
  have inFront := ne_mark_of_mem unmarked
  rw [cutFirst, List.takeWhile_append_of_pos inFront, List.dropWhile_append_of_pos inFront]
  simp

theorem cutFirst_of_not_mem (unmarked : mark ∉ text) : cutFirst mark text = (text, []) := by
  have inText := ne_mark_of_mem unmarked
  rw [cutFirst, List.takeWhile_eq_self_iff.mpr inText, List.dropWhile_eq_nil_iff.mpr inText]
  rfl

theorem parted_cutFirst (mark : Char) (text : List Char) :
    Parted mark text (cutFirst mark text).1 (cutFirst mark text).2 := by
  by_cases marked : mark ∈ text
  · obtain ⟨front, behind, rfl, unmarked⟩ := List.eq_append_cons_of_mem marked
    rw [cutFirst_append unmarked]
    exact .marked unmarked
  · rw [cutFirst_of_not_mem marked]
    exact .whole marked

theorem parted_iff : Parted mark text front behind ↔ cutFirst mark text = (front, behind) := by
  constructor
  · intro parted
    cases parted with
    | marked unmarked => exact cutFirst_append unmarked behind
    | whole unmarked => exact cutFirst_of_not_mem unmarked
  · intro cut
    have parted := parted_cutFirst mark text
    rwa [cut] at parted

theorem Parted.mem (parted : Parted mark text front behind) {character : Char}
    (member : character ∈ front ∨ character ∈ behind) : character ∈ text := by
  cases parted with
  | marked unmarked => simpa using member.imp_right .inr
  | whole unmarked => simpa using member

theorem Parted.suffix (parted : Parted mark text front behind) : behind <:+ text := by
  cases parted with
  | @marked front behind unmarked => exact ⟨front ++ [mark], by simp⟩
  | whole unmarked => exact List.nil_suffix

end First

section Last

variable {mark : Char} {text front behind : List Char}

theorem cutLast?_append (unmarked : mark ∉ behind) (front : List Char) :
    cutLast? mark (front ++ mark :: behind) = some (front, behind) := by
  have backwards : (front ++ mark :: behind).reverse = behind.reverse ++ mark :: front.reverse := by
    simp
  have marked : (front ++ mark :: behind).contains mark = true := by simp
  rw [cutLast?, if_pos marked, backwards, cutFirst_append (by simpa using unmarked)]
  simp

theorem cutLast?_of_not_mem (unmarked : mark ∉ text) : cutLast? mark text = none := by
  rw [cutLast?, if_neg (by simpa using unmarked)]

/-- A text is cut at the last mark exactly where the part behind is free of
marks. -/
theorem cutLast?_eq_some_iff :
    cutLast? mark text = some (front, behind) ↔
      text = front ++ mark :: behind ∧ mark ∉ behind := by
  constructor
  · intro cut
    by_cases marked : mark ∈ text.reverse
    · obtain ⟨before, after, backwards, unmarked⟩ := List.eq_append_cons_of_mem marked
      obtain rfl : text = after.reverse ++ mark :: before.reverse := by
        simpa using congrArg List.reverse backwards
      rw [cutLast?_append (by simpa using unmarked)] at cut
      obtain ⟨rfl, rfl⟩ := Prod.mk.inj (Option.some.inj cut)
      exact ⟨rfl, by simpa using unmarked⟩
    · rw [cutLast?_of_not_mem (by simpa using marked)] at cut
      cases cut
  · rintro ⟨rfl, unmarked⟩
    exact cutLast?_append unmarked front

theorem cutLast?_eq_none_iff : cutLast? mark text = none ↔ mark ∉ text := by
  rw [cutLast?]
  split <;> simp_all

end Last

end RelayPool.Uri
