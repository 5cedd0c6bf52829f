import RelayPool.CommandLine.Run
import RelayPool.Proofs.CommandLine.NodeTable
import RelayPool.Proofs.Config.MissingFile

/-!
# What a run says on a missing file

A run says that the configuration file is not found exactly when it is not quiet and
the load ends as one of a missing file.  Then nothing is at the path.  A missing or
broken node list file is reported in another way.
-/

namespace RelayPool.CommandLine

open Config (EndsMissing ToldApart Wraps)
open FileTree (IsAt PassesFile ComponentsFit TooLong)

/-- A text begins with another one. -/
def Begins (beginning text : String) : Prop :=
  beginning.toList <+: text.toList

instance (beginning text : String) : Decidable (Begins beginning text) :=
  inferInstanceAs (Decidable (_ <+: _))

/-- What is said on a missing file before its path. -/
def notFoundText : String := "❌ Configuration file not found: "

section Beginnings

variable {beginning other text : String}

theorem begins_append (beginning rest : String) : Begins beginning (beginning ++ rest) := by
  rw [Begins, String.toList_append]
  exact List.prefix_append _ _

theorem Begins.append (begins : Begins beginning text) (rest : String) :
    Begins beginning (text ++ rest) := by
  rw [Begins, String.toList_append]
  exact begins.trans (List.prefix_append _ _)

/-- Of two texts that begin one text, one begins the other. -/
theorem not_begins_of_begins (begins : Begins other text) (differs : ¬ Begins beginning other)
    (differsToo : ¬ Begins other beginning) : ¬ Begins beginning text :=
  fun both => (List.prefix_or_prefix_of_prefix both begins).elim differs differsToo

theorem begins_printed {line : String} (begins : Begins beginning line) (rest : List String) :
    Begins beginning (printed (line :: rest)) := by
  rw [Begins, toList_printed, List.map_cons, List.flatMap_cons, List.append_assoc]
  exact begins.trans (List.prefix_append _ _)

end Beginnings

section Commands

variable {tree : FileTree} {config : Config} {command : Command} {path : String}

theorem not_begins_commandLines {lines : List String}
    (shown : commandLines? config command = some lines) :
    ¬ Begins notFoundText (printed lines) := by
  cases command with
  | check =>
      simp only [commandLines?, Option.map_eq_some_iff] at shown
      obtain ⟨summary, summarized, rfl⟩ := shown
      have title : Begins "PROXY POOL CONFIGURATION" summary := by
        rw [Config.summary?] at summarized
        split at summarized
        · obtain rfl := Option.some.inj summarized
          rw [Config.summaryLines, String.intercalate_cons_cons]
          exact (begins_append "PROXY POOL CONFIGURATION" _).append _
        · cases summarized
      exact not_begins_of_begins (begins_printed title _) (by decide) (by decide)
  | nodes =>
      simp only [commandLines?, Option.some.injEq] at shown
      subst shown
      have header : Begins "NAME" (tableLine (nameWidth config.nodes) "NAME" "PORT" "URI") := by
        rw [tableLine, padRight]
        exact ((((begins_append "NAME" _).append _).append _).append _).append _
      rw [tableLines]
      exact not_begins_of_begins (begins_printed header _) (by decide) (by decide)

theorem begins_loadFailure_iff (path : String) (fault : Config.LoadFault) :
    Begins notFoundText (printed (loadFailure path fault).2.1) ↔ fault.kind = .missing := by
  have refused (message : String) (rest : List String) :
      ¬ Begins notFoundText (printed (("❌ Configuration error: " ++ message) :: rest)) :=
    not_begins_of_begins (begins_printed (begins_append "❌ Configuration error: " _) _)
      (by decide) (by decide)
  have broken : ¬ Begins notFoundText (printed []) := by decide
  cases fault with
  | missing named => exact iff_of_true (begins_printed (begins_append notFoundText _) _) rfl
  | unreachable | value => exact iff_of_false broken (by simp [Config.LoadFault.kind])
  | unreadable | malformed | resolve =>
      exact iff_of_false (refused _ _) (by simp [Config.LoadFault.kind])
  | decode fault =>
      cases fault with
      | tooManyDigits => exact iff_of_false broken (by simp [Config.LoadFault.kind])
      | _ => exact iff_of_false (refused _ _) (by simp [Config.LoadFault.kind])

theorem begins_commandRun_iff (tree : FileTree) (command : Command) (path : String)
    (verbose : Bool) :
    Begins notFoundText (printed (commandRun tree command path verbose).2.1) ↔
      EndsMissing (Config.loadTidy tree path).outcome := by
  cases ended : (Config.loadTidy tree path).outcome with
  | error fault =>
      simp only [commandRun, ended, begins_loadFailure_iff, EndsMissing, Except.error.injEq,
        exists_eq_left']
  | ok config =>
      have loads : ¬ EndsMissing (.ok config) := by simp [EndsMissing]
      refine iff_of_false ?_ loads
      cases shown : commandLines? config command with
      | some lines =>
          simp only [commandRun, ended, shown]
          exact not_begins_commandLines shown
      | none =>
          simp only [commandRun, ended, shown]
          decide

theorem output_run (tree : FileTree) (command : Command) (path : String)
    (verbose quiet : Bool) :
    (run tree (.run command path verbose quiet)).output =
      if quiet then "" else printed (commandRun tree command (tidyPath path) verbose).2.1 := by
  rw [run, runCommand]

/-- A run says that the file is not found exactly when it is not quiet and a load ends
as one of a missing file. -/
theorem begins_run_iff (tree : FileTree) (request : Request) :
    Begins notFoundText (run tree request).output ↔
      ∃ command path verbose, request = .run command path verbose false ∧
        EndsMissing (Config.load tree path).outcome := by
  have silent : ¬ Begins notFoundText "" := by decide
  have help (page : Page) : ¬ Begins notFoundText page.help := by
    have usage : Begins "usage: " page.help := ((begins_append _ _).append _).append _
    exact not_begins_of_begins usage (by decide) (by decide)
  cases request with
  | help page => exact iff_of_false (help page) (by simp)
  | noCommand => exact iff_of_false (help .general) (by simp)
  | wrongUsage page fault => exact iff_of_false silent (by simp)
  | run command path verbose quiet =>
      rw [output_run]
      cases quiet with
      | true => exact iff_of_false silent (by simp)
      | false =>
          rw [if_neg Bool.false_ne_true, begins_commandRun_iff]
          constructor
          · exact fun ended => ⟨command, path, verbose, rfl, ended⟩
          · rintro ⟨_, _, _, ⟨⟩, ended⟩
            exact ended

end Commands

/-- A load of a configuration file ends as missing exactly when nothing is at its path,
and all other faults of that file and of its node list file are told apart from that,
unless the path as a whole is too long to be looked up: then the load ends with the
report of the system.  Nothing is at a path that has a null character or leads through
a file.  A run says that the configuration file is not found only where nothing is at
its path. -/
theorem missing_told_apart (tree : FileTree) (path : String)
    (fit : ComponentsFit (tidyPath path)) :
    (¬ TooLong (tidyPath path) → ToldApart tree (tidyPath path) (Config.load tree path)) ∧
      (TooLong (tidyPath path) →
        (Config.load tree path).outcome = .error (.unreachable (tidyPath path) .nameTooLong)) ∧
      ('\x00' ∈ path.toList →
        ¬ TooLong (tidyPath path) ∧ ∀ entry, ¬ IsAt tree (tidyPath path) entry) ∧
      (PassesFile tree (tidyPath path) → ∀ entry, ¬ IsAt tree (tidyPath path) entry) ∧
      ∀ words, Begins notFoundText (run tree (.ofWords words)).output ↔
        ∃ command named verbose, Request.ofWords words = .run command named verbose false ∧
          EndsMissing (Config.load tree named).outcome ∧
          ∀ entry, ¬ IsAt tree (tidyPath named) entry := by
  refine ⟨Config.toldApart_loadTidy tree fit, Config.outcome_loadTidy_of_tooLong fit, ?_, ?_, ?_⟩
  · intro null
    constructor
    · rintro ⟨bytes, handed, -⟩
      exact Config.not_handed_of_null null bytes handed
    · rintro entry ⟨bytes, handed, -⟩
      exact Config.not_handed_of_null null bytes handed
  · exact fun passes entry => FileTree.not_isAt_of_passesFile passes
  · intro words
    rw [begins_run_iff]
    constructor
    · rintro ⟨command, named, verbose, asked, ended⟩
      exact ⟨command, named, verbose, asked, ended, Config.not_isAt_of_endsMissing ended⟩
    · rintro ⟨command, named, verbose, asked, ended, -⟩
      exact ⟨command, named, verbose, asked, ended⟩

/-- A configuration that names a node list file. -/
def unlistedBytes : List UInt8 := Text.Utf8.encode "nodes_file: n\n".toList

/-- There is no file with the name of the node list file. -/
def unlistedTree : FileTree :=
  FileTree.empty.put "c.yaml" (.file unlistedBytes)

theorem names_unlistedTree : Config.NamesList unlistedTree "c.yaml" "n" := by
  obtain ⟨written, parsed, viewed⟩ : ∃ written,
      (Yaml.Source.ofBytes unlistedBytes).value? = .ok written ∧
        (Config.ofDocument (Config.documentOf written)).outcome.toOption.map
          (fun decoded => (decoded.mode, decoded.nodesFile)) = some ("", "n") :=
    Log.exists_ok_of_view (by decide +kernel)
  obtain ⟨decoded, accepted, settings⟩ := Log.exists_ok_of_view viewed
  obtain ⟨mode, nodesFile⟩ := Prod.mk.inj settings
  have isAt : IsAt unlistedTree "c.yaml" (.file unlistedBytes) :=
    FileTree.isAt_of_find (by decide +kernel)
  have known : decoded.mode ∈ Config.modeNames := by
    rw [mode]
    decide
  exact ⟨_, written, decoded, isAt, parsed, accepted, known, nodesFile, by decide⟩

theorem missing_told_apart_unlistedTree :
    (ComponentsFit (tidyPath "c.yaml") ∧ ¬ TooLong (tidyPath "c.yaml") ∧
        Wraps (Config.load unlistedTree "c.yaml").outcome "load nodes from file 'n': "
          (.read (.file "n" .notFound))) ∧
      (ComponentsFit (tidyPath "c.yaml/x") ∧ ¬ TooLong (tidyPath "c.yaml/x") ∧
        PassesFile unlistedTree (tidyPath "c.yaml/x") ∧
        EndsMissing (Config.load unlistedTree "c.yaml/x").outcome) ∧
      Begins notFoundText
        (run unlistedTree (.ofWords (commandWords .check "c.yaml/x" true false))).output := by
  have tidy : tidyPath "c.yaml" = "c.yaml" := by decide +kernel
  have tidyToo : tidyPath "c.yaml/x" = "c.yaml/x" := by decide +kernel
  have whole : ∀ character ∈ "c.yaml".toList, Text.isHalf character = false :=
    Uri.isHalf_of_any (by decide +kernel)
  have wholeToo : ∀ character ∈ "c.yaml/x".toList, Text.isHalf character = false :=
    Uri.isHalf_of_any (by decide +kernel)
  have fit : ComponentsFit "c.yaml" := FileTree.componentsFit_of_whole whole (by decide +kernel)
  have short : ¬ TooLong "c.yaml" := FileTree.not_tooLong_of_whole whole (by decide +kernel)
  have fitToo : ComponentsFit "c.yaml/x" :=
    FileTree.componentsFit_of_whole wholeToo (by decide +kernel)
  have shortToo : ¬ TooLong "c.yaml/x" :=
    FileTree.not_tooLong_of_whole wholeToo (by decide +kernel)
  have passes : PassesFile unlistedTree "c.yaml/x" := by
    refine ⟨_, ["c.yaml"], "x", [], unlistedBytes,
      FileTree.handed_encode wholeToo (by decide) (by decide), by decide +kernel, ?_⟩
    exact FileTree.leads_of_walk (by decide +kernel)
  rw [← tidy] at fit short
  rw [← tidyToo] at fitToo shortToo passes
  obtain ⟨apart, -, -, -, -⟩ := missing_told_apart unlistedTree "c.yaml" fit
  obtain ⟨apartToo, -, -, nowhere, said⟩ := missing_told_apart unlistedTree "c.yaml/x" fitToo
  have nothing : unlistedTree.find "n" = .error .notFound := by decide +kernel
  have wraps := (apart short).listUnread "n" _ (tidy ▸ names_unlistedTree) (.absent nothing)
  have beginning : "load nodes from file " ++ Text.quoted "n" ++ ": " =
      "load nodes from file 'n': " := by decide +kernel
  rw [beginning] at wraps
  have ended := (apartToo shortToo).missing_iff.mpr (nowhere passes)
  refine ⟨⟨fit, short, wraps⟩, ⟨fitToo, shortToo, passes, ended⟩, ?_⟩
  exact (said _).mpr ⟨_, _, _, ofWords_commandWords .check true false (by decide), ended,
    nowhere passes⟩

section DeepPaths

/-- A path of names `a`, so many of them below the first. -/
def deepPath (depth : Nat) : String :=
  String.ofList ('a' :: (List.replicate depth ['/', 'a']).flatten)

theorem toList_deepPath_succ (depth : Nat) :
    (deepPath (depth + 1)).toList = ['a'] ++ '/' :: (deepPath depth).toList := by
  simp [deepPath, List.replicate_succ]

theorem mem_deepPath {depth : Nat} {character : Char}
    (member : character ∈ (deepPath depth).toList) : character = 'a' ∨ character = '/' := by
  induction depth with
  | zero => exact .inl (List.mem_singleton.mp member)
  | succ depth ih =>
      rw [toList_deepPath_succ, List.mem_append, List.mem_singleton, List.mem_cons] at member
      rcases member with first | slash | later
      · exact .inl first
      · exact .inr slash
      · exact ih later

theorem whole_deepPath (depth : Nat) :
    ∀ character ∈ (deepPath depth).toList, Text.isHalf character = false := by
  intro character member
  rcases mem_deepPath member with rfl | rfl <;> decide

theorem length_toList_deepPath (depth : Nat) :
    (deepPath depth).toList.length = 2 * depth + 1 := by
  induction depth with
  | zero => rfl
  | succ depth ih =>
      rw [toList_deepPath_succ, List.length_append, List.length_singleton, List.length_cons, ih]
      omega

theorem components_deepPath (depth : Nat) :
    FileTree.components (deepPath depth) = List.replicate (depth + 1) "a" := by
  induction depth with
  | zero => rfl
  | succ depth ih =>
      rw [FileTree.components] at ih ⊢
      rw [toList_deepPath_succ, Text.separate_append, List.map_append, ih,
        Text.separate_of_not_mem (by decide)]
      rfl

theorem intercalate_replicate (depth : Nat) :
    String.intercalate "/" (List.replicate (depth + 1) "a") = deepPath depth := by
  induction depth with
  | zero => rfl
  | succ depth ih =>
      rw [List.replicate_succ, List.replicate_succ, String.intercalate_cons_cons,
        ← List.replicate_succ, ih]
      apply String.toList_inj.mp
      rw [toList_deepPath_succ, String.toList_append]
      rfl

theorem deepPath_ne_empty (depth : Nat) : deepPath depth ≠ "" := by
  intro empty
  have length_eq := length_toList_deepPath depth
  rw [empty] at length_eq
  cases length_eq

theorem tidyPath_deepPath (depth : Nat) : tidyPath (deepPath depth) = deepPath depth := by
  have named : FileTree.namedComponents (deepPath depth) = List.replicate (depth + 1) "a" := by
    rw [FileTree.namedComponents, components_deepPath, List.filter_eq_self]
    intro component member
    rw [List.eq_of_mem_replicate member]
    decide
  have first : (deepPath depth).toList = 'a' :: (List.replicate depth ['/', 'a']).flatten :=
    String.toList_ofList
  rw [tidyPath, named, intercalate_replicate, first]
  simp [deepPath_ne_empty]

theorem handed_deepPath (depth : Nat) :
    FileTree.Handed (deepPath depth) (Text.Utf8.encode (deepPath depth).toList) := by
  refine FileTree.handed_encode (whole_deepPath depth) (deepPath_ne_empty depth) ?_
  intro null
  rcases mem_deepPath null with other | other <;> cases other

theorem componentsFit_deepPath (depth : Nat) : ComponentsFit (deepPath depth) := by
  apply FileTree.componentsFit_of_whole (whole_deepPath depth)
  rw [components_deepPath]
  intro component member
  rw [List.eq_of_mem_replicate member]
  decide

theorem tooLong_deepPath {depth : Nat} (deep : FileTree.pathLimit ≤ 2 * depth) :
    TooLong (deepPath depth) := by
  refine ⟨_, handed_deepPath depth, ?_⟩
  calc FileTree.pathLimit
      < 2 * depth + 1 := Nat.lt_succ_of_le deep
    _ = (deepPath depth).toList.length := (length_toList_deepPath depth).symm
    _ ≤ (Text.Utf8.encode (deepPath depth).toList).length := Text.Utf8.length_le_length_encode _

/-- Nothing is below a working directory that is empty. -/
theorem not_isAt_deepPath {depth : Nat} (entry : FileEntry) :
    ¬ IsAt FileTree.empty (deepPath depth) entry := by
  rintro ⟨bytes, handed, leads⟩
  rw [handed.eq_encode (whole_deepPath depth), FileTree.nameOfBytes_encode,
    components_deepPath, List.replicate_succ, FileTree.origin] at leads
  split at leads
  · cases leads with
    | onward _ later => exact FileTree.not_leads_of_nothing (by decide) later
  · cases leads with
    | onward _ later => exact FileTree.not_leads_of_nothing (by decide) later

end DeepPaths

/-- Every component of this path is short and nothing is at it, but its load does not
end as one of a missing file. -/
theorem not_endsMissing_deepPath :
    ComponentsFit (tidyPath (deepPath 2048)) ∧
      (∀ entry, ¬ IsAt FileTree.empty (tidyPath (deepPath 2048)) entry) ∧
      ¬ EndsMissing (Config.load FileTree.empty (deepPath 2048)).outcome := by
  have long : TooLong (deepPath 2048) := tooLong_deepPath (by decide)
  have outcome_eq : (Config.loadTidy FileTree.empty (deepPath 2048)).outcome =
      .error (.unreachable (deepPath 2048) .nameTooLong) :=
    Config.outcome_loadTidy_of_tooLong (componentsFit_deepPath 2048) long
  rw [Config.load, tidyPath_deepPath, outcome_eq]
  refine ⟨componentsFit_deepPath 2048, not_isAt_deepPath, ?_⟩
  rintro ⟨_, ⟨⟩, isMissing⟩
  cases isMissing

end RelayPool.CommandLine
