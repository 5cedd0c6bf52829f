import RelayPool.Proofs.NodeList.RoundTrip
import RelayPool.Proofs.Text.PieceCount

/-!
# How reading a node list ends

Every text is a list of lines of the three kinds, so reading a file that can be
decoded gives the URIs of its lines.  A file is not read when the system does
not give its bytes, when its path cannot be handed to the system, or when its
bytes are not the encoding of a text.
-/

namespace RelayPool

open Text (isBlank trimmed)

namespace NodeList

section Lines

variable {line : List Char}

/-- The URI that a line holds, if it holds one. -/
def held? (line : List Char) : Option String :=
  if holdsUri (trimmed line) then some (Text.strip (String.ofList line)) else none

theorem isMargin_of_blank {part : List Char} (blank : ∀ character ∈ part, isBlank character)
    (oneLine : '\n' ∉ part) : IsMargin part :=
  fun character member => ⟨blank character member, fun isEnd => oneLine (isEnd ▸ member)⟩

/-- A line holds its trimmed text, or it is blank or a comment. -/
theorem isLine_held? (oneLine : '\n' ∉ line) : IsLine (held? line) line := by
  obtain ⟨front, back, frontBlank, backBlank, whole⟩ := Text.exists_margins line
  have inFront : '\n' ∉ front := fun member => oneLine (by rw [← whole]; simp [member])
  have inBack : '\n' ∉ back := fun member => oneLine (by rw [← whole]; simp [member])
  have frontMargin := isMargin_of_blank frontBlank inFront
  rw [held?]
  split
  · have uri := IsLine.uri front (Text.strip (String.ofList line)) back frontMargin
      (isMargin_of_blank backBlank inBack)
    rwa [Text.toList_strip, String.toList_ofList, whole] at uri
  · next without =>
      cases inside : trimmed line with
      | nil =>
          have blank := (Text.trimmed_eq_nil_iff line).mp inside
          exact .blank line (isMargin_of_blank blank oneLine)
      | cons first rest =>
          have comment : first = '#' := by simpa [holdsUri, inside] using without
          rw [inside, comment, List.append_assoc, List.cons_append] at whole
          have behind : '\n' ∉ rest ++ back := fun member => oneLine (by
            rw [← whole]
            exact List.mem_append_right front (List.mem_cons_of_mem _ member))
          rw [← whole]
          exact .comment front (rest ++ back) frontMargin behind

theorem uris_of_oneLine_eq_held? (oneLine : '\n' ∉ line) :
    (uris line).map String.ofList = (held? line).toList := by
  rw [uris_of_oneLine oneLine, held?]
  by_cases holds : holdsUri (trimmed line) <;> simp [holds, Text.strip]

/-- Every text is a list of lines with the URIs that are read from it. -/
theorem isList_uris (text : List Char) : IsList ((uris text).map String.ofList) text := by
  -- By the number of characters: what is behind the first line end is shorter.
  induction size : text.length using Nat.strong_induction_on generalizing text with
  | h count ih =>
      by_cases ends : '\n' ∈ text
      · obtain ⟨line, rest, rfl, oneLine⟩ := List.eq_append_cons_of_mem ends
        have shorter : rest.length < count := by
          rw [← size, List.length_append, List.length_cons]
          omega
        have later := ih rest.length shorter rest rfl
        rw [uris_append, List.map_append, uris_of_oneLine_eq_held? oneLine]
        exact .line (isLine_held? oneLine) later
      · rw [uris_of_oneLine_eq_held? ends]
        exact .last (isLine_held? ends)

end Lines

/-- The nodes of a node list file that is read: each has one of the URIs in its
lines and nothing else. -/
def Listed (tree : FileTree) (path : String) (nodes : List Node) : Prop :=
  ∃ text written, readText tree path = .ok text ∧ IsList written text ∧
    (∀ uri ∈ written, Listable uri) ∧ nodes = written.map fun uri => { uri }

/-- The ways in which a node list file is not read. -/
inductive Unreadable (tree : FileTree) (path : String) : ReadFault → Prop
  | absent {fault : FileFault} (missing : tree.find path = .error fault) :
      Unreadable tree path (.file path fault)
  | directory (found : tree.find path = .ok .directory) :
      Unreadable tree path (.file path .isDirectory)
  | encoding {bytes : List UInt8} {fault : Text.Utf8.Fault} (read : tree.read path = .ok bytes)
      (undecodable : Text.Utf8.decode bytes = .error fault) :
      Unreadable tree path (.encoding fault)

section Files

variable {tree : FileTree} {path : String} {cause : ReadFault}

theorem listed_of_readText {text : List Char} (read : readText tree path = .ok text) :
    Listed tree path (NodeList.nodes text) := by
  refine ⟨text, _, read, isList_uris text, ?_, ?_⟩
  · intro uri member
    obtain ⟨written, isUri, rfl⟩ := List.mem_map.mp member
    exact listable_of_mem_uris isUri
  · rw [NodeList.nodes, List.map_map]
    rfl

theorem readText_eq_error_iff :
    readText tree path = .error cause ↔ Unreadable tree path cause := by
  constructor
  · intro failed
    cases found : tree.find path with
    | error fault =>
        simp only [readText, FileTree.read, found] at failed
        obtain rfl := Except.error.inj failed
        exact .absent found
    | ok entry =>
        cases entry with
        | directory =>
            simp only [readText, FileTree.read, found] at failed
            obtain rfl := Except.error.inj failed
            exact .directory found
        | file bytes =>
            have read : tree.read path = .ok bytes := by simp only [FileTree.read, found]
            cases decoded : Text.Utf8.decode bytes with
            | ok text =>
                simp only [readText, read, decoded] at failed
                cases failed
            | error fault =>
                simp only [readText, read, decoded] at failed
                obtain rfl := Except.error.inj failed
                exact .encoding read decoded
  · intro unreadable
    cases unreadable with
    | absent missing => simp only [readText, FileTree.read, missing]
    | directory found => simp only [readText, FileTree.read, found]
    | encoding read undecodable => simp only [readText, read, undecodable]

end Files

end NodeList

section Causes

/-- Whether the system refuses a file, or its path or its bytes have no value. -/
inductive CauseKind
  | system
  | value
  deriving DecidableEq

def ReadFault.causeKind : ReadFault → CauseKind
  | .file _ .notFound | .file _ .notDirectory | .file _ .isDirectory | .file _ .nameTooLong =>
      .system
  | .file _ .nullCharacter | .file _ (.halves _) | .encoding _ => .value

/-- A byte below 0x80 is a piece wherever it stands. -/
theorem Text.Utf8.character_mem_piecesAfter {byte : UInt8} (ascii : byte.toNat < 0x80)
    {bytes : List UInt8} {skipped : Nat} (member : byte ∈ bytes)
    (continuing : ∀ other ∈ bytes.take skipped, isContinuation other) :
    .character (Char.ofNat byte.toNat) ∈ piecesAfter skipped bytes := by
  -- Pieces skip continuing bytes only, and this byte is none.
  induction bytes generalizing skipped with
  | nil => cases member
  | cons first rest ih =>
      cases skipped with
      | zero =>
          rw [piecesAfter]
          rcases List.mem_cons.mp member with rfl | later
          · have isPiece : firstPiece byte rest = .character (Char.ofNat byte.toNat) := by
              have lead : lead? byte = some ⟨0, 0x80, 0xBF, byte.toNat⟩ := if_pos ascii
              rw [firstPiece_of_lead rest lead, continuePiece]
            rw [isPiece]
            exact List.mem_cons_self
          · exact List.mem_cons_of_mem _ (ih later (isContinuation_of_firstPiece first rest))
      | succ skipped =>
          rw [List.take_succ_cons] at continuing
          obtain ⟨skips, others⟩ := List.forall_mem_cons.mp continuing
          rcases List.mem_cons.mp member with rfl | later
          · simp only [isContinuation, Bool.and_eq_true, decide_eq_true_eq] at skips
            omega
          · exact ih later others

theorem null_mem_nameOfBytes {bytes : List UInt8} (member : 0 ∈ bytes) :
    '\x00' ∈ (FileTree.nameOfBytes bytes).toList := by
  have isPiece : .character '\x00' ∈ Text.Utf8.pieces bytes :=
    Text.Utf8.character_mem_piecesAfter (by decide) member (by simp)
  rw [FileTree.nameOfBytes, String.toList_ofList]
  exact List.mem_flatMap.mpr ⟨_, isPiece, List.mem_singleton.mpr rfl⟩

theorem zero_mem_pathBytes {path : String} {bytes : List UInt8} (null : '\x00' ∈ path.toList)
    (written : FileTree.pathBytes path = .ok bytes) : 0 ∈ bytes := by
  rw [FileTree.pathBytes] at written
  split at written
  · cases written
  · obtain rfl := Except.ok.inj written
    exact List.mem_flatMap.mpr ⟨'\x00', null, by decide⟩

/-- A path with a null character is not handed to the system. -/
theorem NodeList.exists_unreadable_of_null (tree : FileTree) {path : String}
    (null : '\x00' ∈ path.toList) :
    ∃ cause, cause.causeKind = .value ∧ Unreadable tree path cause := by
  cases written : FileTree.pathBytes path with
  | error run =>
      have refused : tree.find path = .error (.halves run) := by
        simp only [FileTree.find, written]
      exact ⟨_, rfl, .absent refused⟩
  | ok bytes =>
      have refused : tree.find path = .error .nullCharacter := by
        simp [FileTree.find, written, null_mem_nameOfBytes (zero_mem_pathBytes null written)]
      exact ⟨_, rfl, .absent refused⟩

end Causes

end RelayPool
