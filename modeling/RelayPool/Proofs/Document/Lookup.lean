import Mathlib.Data.List.Nodup
import RelayPool.Document.Basic

/-!
# Looking up settings

No key stands twice in a mapping, so what stands under a name depends on which
entries there are and not on their order.
-/

namespace RelayPool.Document

/-- The name that a key is, if it is a text. -/
def name? : Document → Option String
  | .text name => some name
  | _ => none

/-- The names among the keys of a mapping. -/
def names (entries : List (Document × Document)) : List String :=
  entries.filterMap fun entry => entry.1.name?

section Entries

variable {entries before after other : List (Document × Document)} {name : String}
  {key value : Document}

theorem names_text_cons (first : String) :
    names ((.text first, value) :: entries) = first :: names entries :=
  rfl

theorem names_append : names (before ++ after) = names before ++ names after :=
  List.filterMap_append

theorem names_cons_sublist (entry : Document × Document) :
    (names entries).Sublist (names (entry :: entries)) :=
  (List.sublist_cons_self entry entries).filterMap _

theorem mem_names_of_mem (member : (.text name, value) ∈ entries) : name ∈ names entries :=
  List.mem_filterMap.mpr ⟨_, member, rfl⟩

theorem lookup?_cons_self : lookup? name ((.text name, value) :: entries) = some value :=
  if_pos rfl

theorem lookup?_cons_of_ne (different : key ≠ .text name) :
    lookup? name ((key, value) :: entries) = lookup? name entries := by
  cases key with
  | text key => exact if_neg fun same => different (congrArg _ same)
  | _ => rfl

theorem lookup?_append :
    lookup? name (before ++ after) = (lookup? name before).or (lookup? name after) := by
  induction before with
  | nil => rfl
  | cons entry rest ih =>
      obtain ⟨key, value⟩ := entry
      by_cases here : key = .text name
      · subst here
        rw [List.cons_append, lookup?_cons_self, lookup?_cons_self, Option.some_or]
      · rw [List.cons_append, lookup?_cons_of_ne here, lookup?_cons_of_ne here, ih]

theorem mem_of_lookup? (found : lookup? name entries = some value) :
    (.text name, value) ∈ entries := by
  induction entries with
  | nil => cases found
  | cons entry rest ih =>
      obtain ⟨key, first⟩ := entry
      by_cases here : key = .text name
      · subst here
        rw [lookup?_cons_self] at found
        obtain rfl := Option.some.inj found
        exact List.mem_cons_self
      · rw [lookup?_cons_of_ne here] at found
        exact List.mem_cons_of_mem _ (ih found)

/-- A value stands under a name when an entry has the two. -/
theorem lookup?_eq_some_iff (once : (names entries).Nodup) :
    lookup? name entries = some value ↔ (.text name, value) ∈ entries := by
  refine ⟨mem_of_lookup?, fun member => ?_⟩
  induction entries with
  | nil => cases member
  | cons entry rest ih =>
      obtain ⟨key, first⟩ := entry
      rcases List.mem_cons.mp member with isFirst | later
      · cases isFirst
        exact lookup?_cons_self
      · have different : key ≠ .text name := by
          rintro rfl
          exact (List.nodup_cons.mp once).1 (mem_names_of_mem later)
        rw [lookup?_cons_of_ne different]
        exact ih (once.sublist (names_cons_sublist _)) later

theorem lookup?_eq_none_of_not_mem (absent : name ∉ names entries) :
    lookup? name entries = none := by
  induction entries with
  | nil => rfl
  | cons entry rest ih =>
      obtain ⟨key, value⟩ := entry
      have different : key ≠ .text name := by
        rintro rfl
        exact absent List.mem_cons_self
      rw [lookup?_cons_of_ne different]
      exact ih fun member => absent ((names_cons_sublist _).mem member)

/-- The order of the entries does not matter. -/
theorem lookup?_perm (once : (names entries).Nodup) (same : entries.Perm other) :
    lookup? name other = lookup? name entries := by
  have onceToo : (names other).Nodup := (same.filterMap _).nodup_iff.mp once
  refine Option.ext fun value => ?_
  rw [lookup?_eq_some_iff once, lookup?_eq_some_iff onceToo, same.mem_iff]

end Entries

end RelayPool.Document
