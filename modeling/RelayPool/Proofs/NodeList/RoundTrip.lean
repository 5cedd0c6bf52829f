import RelayPool.Proofs.Config.Resolution
import RelayPool.Proofs.Text.Encoding
import RelayPool.Proofs.Text.Separated
import RelayPool.Proofs.Text.Trimmed

/-!
# Written node lists

A node list is written line by line: a URI with white space around it, white
space alone, or a comment.  Reading the file gives the URIs back, whatever is
written around and between them; and what is read from any file is a list of
URIs that can be written so.
-/

namespace RelayPool

open Text (isBlank trimmed)

/-- A file holds a text. -/
def FileTree.HoldsText (tree : FileTree) (path : String) (text : List Char) : Prop :=
  tree.read path = .ok (Text.Utf8.encode text)

namespace NodeList

/-- A URI that can stand in a line of a node list. -/
structure Listable (uri : String) : Prop where
  ne_empty : uri ≠ ""
  trimmed : Text.strip uri = uri
  oneLine : '\n' ∉ uri.toList
  noComment : uri.toList.head? ≠ some '#'

instance (uri : String) : Decidable (Listable uri) :=
  decidable_of_iff
    (uri ≠ "" ∧ Text.strip uri = uri ∧ '\n' ∉ uri.toList ∧ uri.toList.head? ≠ some '#')
    ⟨fun ⟨ne_empty, trimmed, oneLine, noComment⟩ => ⟨ne_empty, trimmed, oneLine, noComment⟩,
      fun ⟨ne_empty, trimmed, oneLine, noComment⟩ => ⟨ne_empty, trimmed, oneLine, noComment⟩⟩

/-- White space within a line. -/
def IsMargin (characters : List Char) : Prop :=
  ∀ character ∈ characters, isBlank character ∧ character ≠ '\n'

instance (characters : List Char) : Decidable (IsMargin characters) :=
  List.decidableBAll _ characters

/-- A line without its end, and the URI in it. -/
inductive IsLine : Option String → List Char → Prop
  | uri (front : List Char) (uri : String) (back : List Char) (frontBlank : IsMargin front)
      (backBlank : IsMargin back) : IsLine (some uri) (front ++ uri.toList ++ back)
  | blank (line : List Char) (isBlank : IsMargin line) : IsLine none line
  | comment (front rest : List Char) (frontBlank : IsMargin front) (oneLine : '\n' ∉ rest) :
      IsLine none (front ++ '#' :: rest)

/-- A text of lines, and the URIs in them.  Every line but the last ends with a line
feed; a text that ends with one has nothing in its last line. -/
inductive IsList : List String → List Char → Prop
  | last {held : Option String} {line : List Char} (isLine : IsLine held line) :
      IsList held.toList line
  | line {held : Option String} {line text : List Char} {uris : List String}
      (isLine : IsLine held line) (rest : IsList uris text) :
      IsList (held.toList ++ uris) (line ++ '\n' :: text)

section Lines

variable {line text : List Char} {held : Option String} {written : List String}

theorem uris_append (first second : List Char) :
    uris (first ++ '\n' :: second) = uris first ++ uris second := by
  rw [uris, Text.separate_append, List.map_append, List.filter_append]
  rfl

theorem uris_of_oneLine (oneLine : '\n' ∉ line) :
    uris line = [trimmed line].filter holdsUri := by
  rw [uris, Text.separate_of_not_mem oneLine]
  rfl

theorem IsMargin.blank (margin : IsMargin line) : ∀ character ∈ line, isBlank character :=
  fun character member => (margin character member).1

theorem IsMargin.oneLine (margin : IsMargin line) : '\n' ∉ line :=
  fun member => (margin '\n' member).2 rfl

theorem not_isBlank_number : ¬ isBlank '#' := by decide

theorem Listable.holdsUri {uri : String} (listable : Listable uri) :
    holdsUri uri.toList = true := by
  have present : uri.toList ≠ [] := fun empty =>
    listable.ne_empty (String.toList_eq_nil_iff.mp empty)
  have noComment := listable.noComment
  cases characters : uri.toList with
  | nil => exact absurd characters present
  | cons first rest => simpa [NodeList.holdsUri, characters] using noComment

/-- Reading a line gives the URI in it. -/
theorem uris_of_isLine (isLine : IsLine held line) (listable : ∀ uri ∈ held, Listable uri) :
    uris line = held.toList.map String.toList := by
  cases isLine with
  | uri front uri back frontBlank backBlank =>
      have isListable := listable uri rfl
      have oneLine : '\n' ∉ front ++ uri.toList ++ back := by
        simp [frontBlank.oneLine, isListable.oneLine, backBlank.oneLine]
      have isTrimmed : trimmed uri.toList = uri.toList := by
        rw [← Text.toList_strip, isListable.trimmed]
      rw [uris_of_oneLine oneLine, Text.trimmed_padded frontBlank.blank backBlank.blank,
        isTrimmed, List.filter_cons_of_pos isListable.holdsUri]
      rfl
  | blank line isBlank =>
      rw [uris_of_oneLine isBlank.oneLine,
        (Text.trimmed_eq_nil_iff line).mpr isBlank.blank]
      rfl
  | comment front rest frontBlank oneLine =>
      have oneLine : '\n' ∉ front ++ '#' :: rest := by
        simp [frontBlank.oneLine, oneLine]
      rw [uris_of_oneLine oneLine, Text.trimmed_append_of_blank frontBlank.blank,
        Text.trimmed_cons_of_dark not_isBlank_number]
      rfl

/-- Reading a text of lines gives the URIs in them. -/
theorem uris_of_isList (isList : IsList written text)
    (listable : ∀ uri ∈ written, Listable uri) : uris text = written.map String.toList := by
  induction isList with
  | last isLine => exact uris_of_isLine isLine (by simpa using listable)
  | line isLine rest ih =>
      obtain ⟨first, others⟩ := List.forall_mem_append.mp listable
      rw [uris_append, uris_of_isLine isLine (by simpa using first), ih others,
        List.map_append]

theorem listable_of_mem_uris {uri : List Char} (member : uri ∈ uris text) :
    Listable (String.ofList uri) := by
  obtain ⟨fromLine, holds⟩ := List.mem_filter.mp member
  obtain ⟨line, isPart, rfl⟩ := List.mem_map.mp fromLine
  refine ⟨?_, ?_, ?_, ?_⟩
  · intro empty
    rw [String.ofList_eq_empty_iff.mp empty] at holds
    cases holds
  · rw [Text.strip, String.toList_ofList, Text.trimmed_trimmed]
  · rw [String.toList_ofList]
    exact fun member => Text.not_mem_of_mem_separate isPart (Text.mem_of_mem_trimmed member)
  · rw [String.toList_ofList]
    intro comment
    obtain ⟨rest, isComment⟩ := List.head?_eq_some_iff.mp comment
    rw [isComment] at holds
    cases holds

end Lines

section Files

variable {tree : FileTree} {path : String} {text : List Char} {found : List Node}

theorem outcome_read_of_holdsText (holds : tree.HoldsText path text) :
    (read tree path).outcome = .ok (nodes text) := by
  have bytesRead : tree.read path = .ok (Text.Utf8.encode text) := holds
  have textRead : readText tree path = .ok text := by
    simp only [readText, bytesRead, Text.Utf8.decode_encode]
  rw [Config.outcome_read, textRead]
  rfl

theorem exists_text_of_read (done : (read tree path).outcome = .ok found) :
    ∃ text, nodes text = found := by
  rw [Config.outcome_read] at done
  cases textRead : readText tree path with
  | error fault =>
      rw [textRead] at done
      cases done
  | ok text =>
      rw [textRead] at done
      exact ⟨text, Except.ok.inj done⟩

end Files

/-- A written list is read as its URIs in order; what is read from a file are URIs
that can be written; and two texts with a line feed between them are read as the
one and then the other. -/
theorem read_written_and_joined :
    (∀ tree path written text, (∀ uri ∈ written, Listable uri) → IsList written text →
        FileTree.HoldsText tree path text →
          (read tree path).outcome = .ok (written.map fun uri => { uri })) ∧
      (∀ tree path found, (read tree path).outcome = .ok found →
        ∀ node ∈ found, Listable node.uri) ∧
      ∀ tree tree' joined path path' joinedPath first second,
        FileTree.HoldsText tree path first → FileTree.HoldsText tree' path' second →
          FileTree.HoldsText joined joinedPath (first ++ '\n' :: second) →
            ∃ found others, (read tree path).outcome = .ok found ∧
              (read tree' path').outcome = .ok others ∧
              (read joined joinedPath).outcome = .ok (found ++ others) := by
  refine ⟨?_, ?_, ?_⟩
  · intro tree path written text listable isList holds
    rw [outcome_read_of_holdsText holds, nodes, uris_of_isList isList listable, List.map_map]
    congr 2
    funext uri
    simp
  · intro tree path found done node member
    obtain ⟨text, rfl⟩ := exists_text_of_read done
    obtain ⟨uri, isUri, rfl⟩ := List.mem_map.mp member
    exact listable_of_mem_uris isUri
  · intro tree tree' joined path path' joinedPath first second holds holds' holdsBoth
    refine ⟨_, _, outcome_read_of_holdsText holds, outcome_read_of_holdsText holds', ?_⟩
    rw [outcome_read_of_holdsText holdsBoth, nodes, uris_append, List.map_append]
    rfl

/-- A file with a text and nothing else. -/
def textTree (text : String) : FileTree :=
  FileTree.empty.put "n" (.file (Text.Utf8.encode text.toList))

theorem holdsText_textTree (text : String) : (textTree text).HoldsText "n" text.toList :=
  rfl

/-- Lines with a comment, with white space around a URI, and with white space alone. -/
def upperLines : String := "#list\n\t a#b \r\n \r "

/-- Lines with a URI around a carriage return, and the end of the text. -/
def lowerLines : String := "\rc\rd\n"

theorem isList_upperLines : IsList ["a#b"] upperLines.toList := by
  have comment : IsLine none "#list".toList :=
    .comment [] _ (by decide) (by decide)
  have uri : IsLine (some "a#b") "\t a#b \r".toList :=
    .uri ['\t', ' '] "a#b" [' ', '\r'] (by decide) (by decide)
  have blank : IsLine none " \r ".toList := .blank _ (by decide)
  exact .line comment (.line uri (.last blank))

theorem isList_lowerLines : IsList ["c\rd"] lowerLines.toList := by
  have uri : IsLine (some "c\rd") "\rc\rd".toList :=
    .uri ['\r'] "c\rd" [] (by decide) (by decide)
  have nothing : IsLine none [] := .blank [] (by decide)
  exact .line uri (.last nothing)

theorem read_written_and_joined_carriageReturns :
    (read (textTree upperLines) "n").outcome = .ok [{ uri := "a#b" }] ∧
      (read (textTree lowerLines) "n").outcome = .ok [{ uri := "c\rd" }] ∧
      (read (textTree (upperLines ++ "\n" ++ lowerLines)) "n").outcome =
        .ok [{ uri := "a#b" }, { uri := "c\rd" }] ∧
      Listable "a#b" ∧ Listable "c\rd" := by
  obtain ⟨written, listable, joined⟩ := read_written_and_joined
  have upperListable : ∀ uri ∈ ["a#b"], Listable uri := by decide
  have lowerListable : ∀ uri ∈ ["c\rd"], Listable uri := by decide
  have upper := written (textTree upperLines) "n" ["a#b"] _ upperListable
    isList_upperLines (holdsText_textTree upperLines)
  have lower := written (textTree lowerLines) "n" ["c\rd"] _ lowerListable
    isList_lowerLines (holdsText_textTree lowerLines)
  have both : (textTree (upperLines ++ "\n" ++ lowerLines)).HoldsText "n"
      (upperLines.toList ++ '\n' :: lowerLines.toList) := holdsText_textTree _
  obtain ⟨found, others, foundUpper, foundLower, foundBoth⟩ := joined _ _ _ _ _ _ _ _
    (holdsText_textTree upperLines) (holdsText_textTree lowerLines) both
  obtain rfl := Except.ok.inj (foundUpper.symm.trans upper)
  obtain rfl := Except.ok.inj (foundLower.symm.trans lower)
  exact ⟨upper, lower, foundBoth, listable _ _ _ upper { uri := "a#b" } List.mem_cons_self,
    listable _ _ _ lower { uri := "c\rd" } List.mem_cons_self⟩

end NodeList

end RelayPool
