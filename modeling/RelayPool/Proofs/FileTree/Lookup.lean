import Mathlib.Data.List.Basic
import RelayPool.FileTree
import RelayPool.Proofs.Text.Separated
import RelayPool.Proofs.Uri.Escape

/-!
# Where paths lead

A path leads to an entry when its components go there through directories only.  That
is what looking it up finds, unless the path or one of its components is too long for
the system, which then does not look.
-/

namespace RelayPool.FileTree

/-- The components lead from a place to an entry; on the way there are only
directories. -/
inductive Leads (tree : FileTree) : List String → List String → FileEntry → Prop
  | here {place : List String} {entry : FileEntry} (found : tree.entryAt place = some entry) :
      Leads tree place [] entry
  | onward {place rest : List String} {component : String} {entry : FileEntry}
      (directory : tree.entryAt place = some .directory)
      (later : Leads tree (placeAfter place component) rest entry) :
      Leads tree place (component :: rest) entry

/-- The bytes of a path that can be handed to the system: it is not empty, has no null
character, and no half in it stands for no byte. -/
structure Handed (path : String) (bytes : List UInt8) : Prop where
  encoded : pathBytes path = .ok bytes
  nonempty : nameOfBytes bytes ≠ ""
  noNull : '\x00' ∉ (nameOfBytes bytes).toList

/-- An entry is at a path. -/
def IsAt (tree : FileTree) (path : String) (entry : FileEntry) : Prop :=
  ∃ bytes, Handed path bytes ∧
    Leads tree (tree.origin (nameOfBytes bytes)) (components (nameOfBytes bytes)) entry

/-- A proper part of a path leads to a file. -/
def PassesFile (tree : FileTree) (path : String) : Prop :=
  ∃ bytes front component behind content, Handed path bytes ∧
    components (nameOfBytes bytes) = front ++ component :: behind ∧
    Leads tree (tree.origin (nameOfBytes bytes)) front (.file content)

/-- Every component of a path is short enough for the system. -/
def ComponentsFit (path : String) : Prop :=
  ∀ bytes, Handed path bytes →
    ∀ component ∈ components (nameOfBytes bytes), nameSize component ≤ componentLimit

/-- The path as a whole is too long for the system. -/
def TooLong (path : String) : Prop :=
  ∃ bytes, Handed path bytes ∧ pathLimit < bytes.length

section Walks

variable {tree : FileTree} {place names front behind : List String} {component : String}
  {entry : FileEntry}

theorem leads_of_walk (found : tree.walk place names = .ok entry) :
    Leads tree place names entry := by
  induction names generalizing place with
  | nil =>
      rw [walk] at found
      split at found
      · next here =>
          cases found
          exact .here here
      · cases found
  | cons component rest ih =>
      rw [walk] at found
      split at found
      · cases found
      · cases found
      · next directory =>
          split at found
          · cases found
          · exact .onward directory (ih found)

/-- Nothing but the length of a component keeps a walk from where it leads. -/
theorem walk_of_leads (leads : Leads tree place names entry) :
    tree.walk place names = .ok entry ∨ tree.walk place names = .error .nameTooLong := by
  induction leads with
  | here found => exact .inl (by rw [walk, found])
  | onward directory later ih =>
      rw [walk, directory]
      dsimp only
      split
      · exact .inr rfl
      · exact ih

theorem exists_long_of_walk (refused : tree.walk place names = .error .nameTooLong) :
    ∃ component ∈ names, componentLimit < nameSize component := by
  induction names generalizing place with
  | nil =>
      rw [walk] at refused
      split at refused <;> cases refused
  | cons component rest ih =>
      rw [walk] at refused
      split at refused
      · cases refused
      · cases refused
      · split at refused
        · next long => exact ⟨component, List.mem_cons_self, long⟩
        · obtain ⟨longer, member, long⟩ := ih refused
          exact ⟨longer, List.mem_cons_of_mem _ member, long⟩

/-- There is no way on from a place with nothing at it. -/
theorem not_leads_of_nothing (nothing : tree.entryAt place = none) :
    ¬ Leads tree place names entry := by
  rintro (found | directory)
  · rw [nothing] at found
    cases found
  · rw [nothing] at directory
    cases directory

/-- There is no way on from a file. -/
theorem not_leads_of_file {content : List UInt8}
    (through : Leads tree place front (.file content)) :
    ¬ Leads tree place (front ++ component :: behind) entry := by
  -- Any way on goes through the same places, as far as the file.
  generalize reached : FileEntry.file content = middle at through
  induction through with
  | here found =>
      subst reached
      rintro ⟨⟩
      next directory _ =>
        rw [found] at directory
        cases directory
  | onward _ _ ih =>
      rintro ⟨⟩
      next later => exact ih reached later

end Walks

section Paths

variable {tree : FileTree} {path : String} {entry : FileEntry} {bytes : List UInt8}

theorem find_of_handed (tree : FileTree) (handed : Handed path bytes) :
    tree.find path =
      if pathLimit < bytes.length then .error .nameTooLong
      else tree.walk (tree.origin (nameOfBytes bytes)) (components (nameOfBytes bytes)) := by
  have noNull : (nameOfBytes bytes).toList.contains '\x00' = false := by
    simpa using handed.noNull
  simp only [find, handed.encoded, noNull, handed.nonempty, Bool.false_eq_true, if_false]

theorem find_of_not_handed (tree : FileTree) (refused : ∀ bytes, ¬ Handed path bytes) :
    ∃ fault, tree.find path = .error fault ∧ fault ≠ .nameTooLong := by
  cases encoded : pathBytes path with
  | error run => exact ⟨.halves run, by simp only [find, encoded], by simp⟩
  | ok bytes =>
      by_cases null : (nameOfBytes bytes).toList.contains '\x00'
      · exact ⟨.nullCharacter, by simp only [find, encoded, null, if_true], by simp⟩
      · by_cases empty : nameOfBytes bytes = ""
        · exact ⟨.notFound, by simp [find, encoded, empty], by simp⟩
        · exact absurd ⟨encoded, empty, by simpa using null⟩ (refused bytes)

theorem Handed.unique {other : List UInt8} (handed : Handed path bytes)
    (handedToo : Handed path other) : other = bytes :=
  Except.ok.inj (handedToo.encoded.symm.trans handed.encoded)

theorem isAt_of_find (found : tree.find path = .ok entry) : IsAt tree path entry := by
  by_cases handed : ∃ bytes, Handed path bytes
  · obtain ⟨bytes, handed⟩ := handed
    rw [find_of_handed tree handed] at found
    split at found
    · cases found
    · exact ⟨bytes, handed, leads_of_walk found⟩
  · obtain ⟨fault, failed, -⟩ := find_of_not_handed tree (not_exists.mp handed)
    rw [failed] at found
    cases found

theorem find_of_isAt (isAt : IsAt tree path entry) :
    tree.find path = .ok entry ∨ tree.find path = .error .nameTooLong := by
  obtain ⟨bytes, handed, leads⟩ := isAt
  rw [find_of_handed tree handed]
  split
  · exact .inr rfl
  · exact walk_of_leads leads

/-- The system looks up every path whose components fit but those that are too long as
a whole. -/
theorem find_eq_nameTooLong_iff (tree : FileTree) (fit : ComponentsFit path) :
    tree.find path = .error .nameTooLong ↔ TooLong path := by
  constructor
  · intro refused
    by_cases handed : ∃ bytes, Handed path bytes
    · obtain ⟨bytes, handed⟩ := handed
      rw [find_of_handed tree handed] at refused
      split at refused
      · next long => exact ⟨bytes, handed, long⟩
      · obtain ⟨component, member, long⟩ := exists_long_of_walk refused
        exact absurd (fit bytes handed component member) (Nat.not_le.mpr long)
    · obtain ⟨fault, failed, other⟩ := find_of_not_handed tree (not_exists.mp handed)
      rw [failed] at refused
      exact absurd (Except.error.inj refused) other
  · rintro ⟨bytes, handed, long⟩
    rw [find_of_handed tree handed, if_pos long]

theorem find_eq_ok_iff (fit : ComponentsFit path) (short : ¬ TooLong path) :
    tree.find path = .ok entry ↔ IsAt tree path entry := by
  refine ⟨isAt_of_find, fun isAt => ?_⟩
  rcases find_of_isAt isAt with found | refused
  · exact found
  · exact absurd ((find_eq_nameTooLong_iff tree fit).mp refused) short

theorem not_isAt_of_passesFile (passes : PassesFile tree path) : ¬ IsAt tree path entry := by
  obtain ⟨bytes, front, component, behind, content, handed, split, through⟩ := passes
  rintro ⟨other, handedToo, leads⟩
  obtain rfl := handed.unique handedToo
  rw [split] at leads
  exact not_leads_of_file through leads

end Paths

section Texts

variable {path : String} {bytes : List UInt8}

theorem nameCharBytes_of_whole {character : Char} (whole : Text.isHalf character = false) :
    nameCharBytes character = String.utf8EncodeChar character := by
  have noByte : Text.isByteHalf character = false := by
    simp only [Text.isHalf, Text.isHalfCode, Bool.and_eq_false_iff, decide_eq_false_iff_not]
      at whole
    simp only [Text.isByteHalf, Bool.and_eq_false_iff, decide_eq_false_iff_not]
    omega
  rw [nameCharBytes, noByte, if_neg Bool.false_ne_true]

/-- The bytes of a path without halves are its encoding. -/
theorem pathBytes_of_whole (whole : ∀ character ∈ path.toList, Text.isHalf character = false) :
    pathBytes path = .ok (Text.Utf8.encode path.toList) := by
  have accepted : Text.refusedHalves? Text.isNoByteHalf 0 path.toList = none := by
    apply Uri.refusedHalves?_eq_none
    intro character member
    rw [Text.isNoByteHalf, whole character member, Bool.false_and]
  have bytes_eq : path.toList.flatMap nameCharBytes = Text.Utf8.encode path.toList :=
    List.flatMap_congr fun character member => nameCharBytes_of_whole (whole character member)
  simp only [pathBytes, accepted, bytes_eq]

theorem nameOfBytes_encode (path : String) :
    nameOfBytes (Text.Utf8.encode path.toList) = path := by
  rw [nameOfBytes, Text.Utf8.pieces_encode, List.flatMap_map]
  simp

theorem handed_encode (whole : ∀ character ∈ path.toList, Text.isHalf character = false)
    (nonempty : path ≠ "") (noNull : '\x00' ∉ path.toList) :
    Handed path (Text.Utf8.encode path.toList) where
  encoded := pathBytes_of_whole whole
  nonempty := by rwa [nameOfBytes_encode]
  noNull := by rwa [nameOfBytes_encode]

theorem Handed.eq_encode (whole : ∀ character ∈ path.toList, Text.isHalf character = false)
    (handed : Handed path bytes) : bytes = Text.Utf8.encode path.toList :=
  Except.ok.inj (handed.encoded.symm.trans (pathBytes_of_whole whole))

theorem componentsFit_of_whole
    (whole : ∀ character ∈ path.toList, Text.isHalf character = false)
    (fit : ∀ component ∈ components path, nameSize component ≤ componentLimit) :
    ComponentsFit path := by
  intro bytes handed
  rwa [handed.eq_encode whole, nameOfBytes_encode]

theorem not_tooLong_of_whole
    (whole : ∀ character ∈ path.toList, Text.isHalf character = false)
    (short : (Text.Utf8.encode path.toList).length ≤ pathLimit) : ¬ TooLong path := by
  rintro ⟨bytes, handed, long⟩
  rw [handed.eq_encode whole] at long
  exact Nat.not_lt.mpr short long

end Texts

section Tidied

variable {path : String} {character : Char}

theorem mem_intercalate_of_mem {separator part : List Char} {parts : List (List Char)}
    (isPart : part ∈ parts) (member : character ∈ part) :
    character ∈ separator.intercalate parts := by
  induction parts with
  | nil => cases isPart
  | cons first rest ih =>
      cases rest with
      | nil =>
          obtain rfl := List.mem_singleton.mp isPart
          rwa [List.intercalate_singleton]
      | cons second others =>
          rw [List.intercalate_cons_cons, List.append_assoc, List.mem_append, List.mem_append]
          rcases List.mem_cons.mp isPart with rfl | later
          · exact .inl member
          · exact .inr (.inr (ih later))

/-- A tidy path keeps every character but slashes and dots. -/
theorem mem_tidyPath (member : character ∈ path.toList) (noSlash : character ≠ '/')
    (noDot : character ≠ '.') : character ∈ (tidyPath path).toList := by
  obtain ⟨part, isPart, inside⟩ := Text.exists_mem_separate member noSlash
  have named : String.ofList part ∈ namedComponents path := by
    rw [namedComponents, List.mem_filter]
    refine ⟨List.mem_map_of_mem isPart, ?_⟩
    have notEmpty : String.ofList part ≠ "" := by
      intro empty
      rw [String.ofList_eq_empty_iff.mp empty] at inside
      cases inside
    have notDot : String.ofList part ≠ "." := by
      intro dot
      have part_eq : part = ['.'] := by simpa using congrArg String.toList dot
      rw [part_eq, List.mem_singleton] at inside
      exact noDot inside
    simp [notEmpty, notDot]
  have joined : character ∈ (String.intercalate "/" (namedComponents path)).toList := by
    rw [String.toList_intercalate]
    apply mem_intercalate_of_mem (List.mem_map_of_mem named)
    rwa [String.toList_ofList]
  unfold tidyPath
  extract_lets root tidied
  have kept : character ∈ tidied.toList := by
    rw [String.toList_append]
    exact List.mem_append_right _ joined
  split
  · next empty =>
      rw [empty] at kept
      cases kept
  · exact kept

end Tidied

end RelayPool.FileTree
