import RelayPool.Document.Text

/-!
# Documents with a long integer

A value cannot be shown exactly when an integer with too many digits stands
somewhere in it: as the value itself, in a list or a set, or as a key or a
value of a mapping.
-/

namespace RelayPool.Document

/-- An integer with too many digits stands somewhere in a document. -/
inductive HoldsLong : Document → Prop
  | int {value : Int} (long : Number.intText? value = none) : HoldsLong (.int value)
  | item {items : List Document} {item : Document} (member : item ∈ items)
      (holds : HoldsLong item) : HoldsLong (.list items)
  | first {first second : Document} (holds : HoldsLong first) :
      HoldsLong (.pair first second)
  | second {first second : Document} (holds : HoldsLong second) :
      HoldsLong (.pair first second)
  | member {members : List Document} {inside : Document} (member : inside ∈ members)
      (holds : HoldsLong inside) : HoldsLong (.set members)
  | key {entries : List (Document × Document)} {entry : Document × Document}
      (member : entry ∈ entries) (holds : HoldsLong entry.1) : HoldsLong (.map entries)
  | value {entries : List (Document × Document)} {entry : Document × Document}
      (member : entry ∈ entries) (holds : HoldsLong entry.2) : HoldsLong (.map entries)

theorem holdsLong_int_iff (value : Int) :
    HoldsLong (.int value) ↔ Number.intText? value = none := by
  refine ⟨?_, .int⟩
  rintro ⟨long⟩
  exact long

theorem holdsLong_list_iff (items : List Document) :
    HoldsLong (.list items) ↔ ∃ item ∈ items, HoldsLong item := by
  constructor
  · intro holds
    cases holds with
    | item member inside => exact ⟨_, member, inside⟩
  · rintro ⟨item, member, inside⟩
    exact .item member inside

theorem holdsLong_pair_iff (first second : Document) :
    HoldsLong (.pair first second) ↔ HoldsLong first ∨ HoldsLong second := by
  constructor
  · intro holds
    cases holds with
    | first inside => exact .inl inside
    | second inside => exact .inr inside
  · rintro (inside | inside)
    · exact .first inside
    · exact .second inside

theorem holdsLong_set_iff (members : List Document) :
    HoldsLong (.set members) ↔ ∃ inside ∈ members, HoldsLong inside := by
  constructor
  · intro holds
    cases holds with
    | member member inside => exact ⟨_, member, inside⟩
  · rintro ⟨item, member, inside⟩
    exact .member member inside

theorem holdsLong_map_iff (entries : List (Document × Document)) :
    HoldsLong (.map entries) ↔
      ∃ entry ∈ entries, HoldsLong entry.1 ∨ HoldsLong entry.2 := by
  constructor
  · intro holds
    cases holds with
    | key member inside => exact ⟨_, member, .inl inside⟩
    | value member inside => exact ⟨_, member, .inr inside⟩
  · rintro ⟨entry, member, inside | inside⟩
    · exact .key member inside
    · exact .value member inside

mutual

/-- A value cannot be shown exactly when it holds a long integer. -/
theorem quotedText?_eq_none_iff (document : Document) :
    quotedText? document = none ↔ HoldsLong document := by
  cases document with
  | int value => rw [quotedText?, holdsLong_int_iff]
  | list items =>
      rw [quotedText?, Option.map_eq_none_iff, itemTexts?_eq_none_iff items,
        holdsLong_list_iff]
  | pair first second =>
      have firstShown := quotedText?_eq_none_iff first
      have secondShown := quotedText?_eq_none_iff second
      rw [holdsLong_pair_iff, ← firstShown, ← secondShown, quotedText?]
      cases quotedText? first <;> cases quotedText? second <;> simp
  | set members =>
      rw [holdsLong_set_iff]
      cases members with
      | nil => simp [quotedText?]
      | cons member members =>
          have firstShown := quotedText?_eq_none_iff member
          have restShown := itemTexts?_eq_none_iff members
          simp only [List.mem_cons, exists_eq_or_imp, ← firstShown, ← restShown, quotedText?]
          cases quotedText? member <;> cases itemTexts? members <;> simp
  | map entries =>
      rw [quotedText?, Option.map_eq_none_iff, entryTexts?_eq_none_iff entries,
        holdsLong_map_iff]
  | _ =>
      simp only [quotedText?, reduceCtorEq, false_iff]
      rintro ⟨⟩

theorem itemTexts?_eq_none_iff (items : List Document) :
    itemTexts? items = none ↔ ∃ item ∈ items, HoldsLong item := by
  cases items with
  | nil => simp [itemTexts?]
  | cons item rest =>
      have firstShown := quotedText?_eq_none_iff item
      have restShown := itemTexts?_eq_none_iff rest
      simp only [List.mem_cons, exists_eq_or_imp, ← firstShown, ← restShown, itemTexts?]
      cases quotedText? item <;> cases itemTexts? rest <;> simp

theorem entryTexts?_eq_none_iff (entries : List (Document × Document)) :
    entryTexts? entries = none ↔
      ∃ entry ∈ entries, HoldsLong entry.1 ∨ HoldsLong entry.2 := by
  cases entries with
  | nil => simp [entryTexts?]
  | cons entry rest =>
      have keyShown := quotedText?_eq_none_iff entry.1
      have valueShown := quotedText?_eq_none_iff entry.2
      have restShown := entryTexts?_eq_none_iff rest
      simp only [List.mem_cons, exists_eq_or_imp, ← keyShown, ← valueShown, ← restShown,
        entryTexts?]
      cases quotedText? entry.1 <;> cases quotedText? entry.2 <;>
        cases entryTexts? rest <;> simp

end

theorem holdsLong_of_plainText? {document : Document}
    (hidden : plainText? document = none) : HoldsLong document := by
  cases document with
  | text | date | instant | span => cases hidden
  | _ => exact (quotedText?_eq_none_iff _).mp hidden

end RelayPool.Document
