import RelayPool.CommandLine.Run
import RelayPool.Proofs.CommandLine.ConfigArgument
import RelayPool.Proofs.Config.LogLevel
import RelayPool.Proofs.NodeList.RoundTrip

/-!
# Flags that leave a run as it is

The flags for debugging and for silence choose what is shown of a run and not
what it does.  Debugging shows more records, silence keeps the output away, and
all else is the same.  The level that a configuration chooses takes over behind
the last record, so it keeps none of them away.
-/

namespace RelayPool.CommandLine

open Log (Event IsLevelName Level Record kept)

section Words

/-- A word that asks for debugging. -/
def asksVerbose (word : String) : Bool :=
  word = "-v" ∨ word = "--verbose"

/-- A word that asks for silence. -/
def asksQuiet (word : String) : Bool :=
  word = "--quiet"

/-- Words for flags, with no plain word and no request for help among them. -/
def AreFlags (words : List String) : Prop :=
  ∀ word ∈ words, asksVerbose word ∨ asksQuiet word

instance (words : List String) : Decidable (AreFlags words) :=
  List.decidableBAll _ words

variable {flags rest behind : List String} {read : List (String × Word)}

/-- A word for a flag is read as that flag, whatever was asked for before. -/
theorem exists_flag_of_asks {word : String} (isFlag : asksVerbose word ∨ asksQuiet word) :
    word ≠ "--" ∧ ∃ flag short,
      readWord generalFlags word = .ok (.flag flag short none) ∧
        ∀ verbose quiet, Settings.takeFlags ⟨verbose, quiet, []⟩ .general generalFlags flag
            short none =
          .ok ⟨verbose || asksVerbose word, quiet || asksQuiet word, []⟩ := by
  simp only [asksVerbose, asksQuiet, decide_eq_true_eq] at isFlag
  rcases isFlag with (rfl | rfl) | rfl
  · refine ⟨by decide, .verbose, true, rfl, ?_⟩
    intro verbose quiet
    cases verbose <;> cases quiet <;> rfl
  · refine ⟨by decide, .verbose, false, rfl, ?_⟩
    intro verbose quiet
    cases verbose <;> cases quiet <;> rfl
  · refine ⟨by decide, .quiet, false, rfl, ?_⟩
    intro verbose quiet
    cases verbose <;> cases quiet <;> rfl

/-- Flags are taken one after the other, and each adds what it asks for. -/
theorem exists_read_of_areFlags (areFlags : AreFlags flags)
    (restRead : readWords generalFlags rest = .ok (read, behind)) :
    ∃ words, readWords generalFlags (flags ++ rest) = .ok (words, behind) ∧
      ∀ verbose quiet, readGeneralWords behind ⟨verbose, quiet, []⟩ words =
        readGeneralWords behind
          ⟨verbose || flags.any asksVerbose, quiet || flags.any asksQuiet, []⟩ read := by
  induction flags with
  | nil => exact ⟨read, restRead, by simp⟩
  | cons word others ih =>
      obtain ⟨first, later⟩ := List.forall_mem_cons.mp areFlags
      obtain ⟨words, othersRead, taken⟩ := ih later
      obtain ⟨continued, flag, short, wordRead, wordTaken⟩ := exists_flag_of_asks first
      refine ⟨(word, .flag flag short none) :: words,
        readWords_cons continued wordRead othersRead, ?_⟩
      intro verbose quiet
      rw [readGeneralWords, wordTaken]
      dsimp only
      rw [taken, List.any_cons, List.any_cons, Bool.or_assoc, Bool.or_assoc]

/-- Flags before a command on a configuration file ask for that command. -/
theorem ofWords_of_areFlags (areFlags : AreFlags flags) (command : Command) {path : String}
    (plain : IsPlain path) :
    Request.ofWords (flags ++ [command.label, path]) =
      .run command path (flags.any asksVerbose) (flags.any asksQuiet) := by
  have lineRead : readWords generalFlags [command.label, path] =
      .ok ([(command.label, .plain), (path, .plain)], []) :=
    readWords_cons_of_isPlain (isPlain_label command) (readWords_cons_of_isPlain plain rfl)
  obtain ⟨words, allRead, taken⟩ := exists_read_of_areFlags areFlags lineRead
  rw [Request.ofWords, allRead]
  dsimp only
  rw [taken, Bool.false_or, Bool.false_or, readGeneralWords_of_isPlain command _ _ plain]

end Words

section Journals

variable {least : Level} {records : List Record} {events : List Event}

theorem kept_map_record_append :
    kept least (records.map .record ++ events) =
      (records.filter fun record => least.number ≤ record.level.number) ++
        kept least events := by
  induction records with
  | nil => rfl
  | cons record rest ih =>
      rw [List.map_cons, List.cons_append, kept, ih, List.filter_cons]
      by_cases shown : least.number ≤ record.level.number <;> simp [shown]

theorem filter_debug (records : List Record) :
    (records.filter fun record => Level.debug.number ≤ record.level.number) = records := by
  rw [List.filter_eq_self]
  intro record _
  cases record.level <;> rfl

theorem filter_info (records : List Record) :
    (records.filter fun record => Level.info.number ≤ record.level.number) =
      records.filter fun record => record.level ≠ .debug := by
  apply List.filter_congr
  intro record _
  cases record.level <;> rfl

end Journals

/-- The warning at the end of a run without debugging: there is one when the
configuration is loaded with a log level that is none. -/
inductive Warned (tree : FileTree) (path : String) : List Record → Prop
  | unloaded {fault : Config.LoadFault}
      (failed : (Config.load tree path).outcome = .error fault) : Warned tree path []
  | known {config : Config} (loaded : (Config.load tree path).outcome = .ok config)
      (isLevel : IsLevelName config.logLevel) : Warned tree path []
  | unknown {config : Config} (loaded : (Config.load tree path).outcome = .ok config)
      (noLevel : ¬ IsLevelName config.logLevel) :
      Warned tree path
        [⟨.commandLine, .warning, "unknown log level " ++ Text.quoted config.logLevel ++
          "; keeping current log level"⟩]

section Runs

variable {tree again : FileTree} {path : String}

theorem run_run (tree : FileTree) (command : Command) (path : String) (verbose quiet : Bool) :
    run tree (.run command path verbose quiet) =
      ⟨(commandRun tree command (tidyPath path) verbose).1,
        if quiet then "" else printed (commandRun tree command (tidyPath path) verbose).2.1,
        kept (threshold verbose) (commandRun tree command (tidyPath path) verbose).2.2, ""⟩ := by
  rw [run, runCommand]

/-- What is kept behind the last record of loading. -/
theorem kept_levelEvents_of_isLevelName {config : Config} (least : Level) (verbose : Bool)
    (isLevel : IsLevelName config.logLevel) :
    kept least (levelEvents verbose config) = [] := by
  rw [← Log.isSome_level?_iff, Option.isSome_iff_exists] at isLevel
  obtain ⟨level, found⟩ := isLevel
  cases verbose with
  | true => rfl
  | false =>
      rw [levelEvents, found]
      rfl

theorem levelEvents_of_not_isLevelName {config : Config}
    (noLevel : ¬ IsLevelName config.logLevel) :
    levelEvents false config =
      [.record ⟨.commandLine, .warning, "unknown log level " ++ Text.quoted config.logLevel ++
        "; keeping current log level"⟩] := by
  rw [← Log.isSome_level?_iff, Option.not_isSome_iff_eq_none] at noLevel
  rw [levelEvents, noLevel]
  rfl

/-- The journal of a run: the records of loading, and what follows them where a
configuration is loaded. -/
def loadRecords (tree : FileTree) (path : String) : List Record :=
  (Config.load tree path).records ++
    match (Config.load tree path).outcome with
    | .error fault => (loadFailure (tidyPath path) fault).2.2
    | .ok _ => [commandRecord .info ("Loaded configuration from " ++ tidyPath path)]

theorem events_commandRun (tree : FileTree) (command : Command) (path : String)
    (verbose : Bool) :
    (commandRun tree command (tidyPath path) verbose).2.2 =
      (loadRecords tree path).map .record ++
        match (Config.load tree path).outcome with
        | .error _ => []
        | .ok config => levelEvents verbose config := by
  simp only [commandRun, loadRecords, Config.load]
  cases (Config.loadTidy tree (tidyPath path)).outcome with
  | error fault => simp
  | ok config =>
      dsimp only
      cases commandLines? config command <;> rfl

/-- A run ends as it does with debugging, and prints the same. -/
theorem commandRun_verbose (tree : FileTree) (command : Command) (path : String)
    (verbose : Bool) :
    (commandRun tree command path verbose).1 = (commandRun tree command path true).1 ∧
      (commandRun tree command path verbose).2.1 =
        (commandRun tree command path true).2.1 := by
  simp only [commandRun]
  cases (Config.loadTidy tree path).outcome with
  | error fault => exact ⟨rfl, rfl⟩
  | ok config =>
      dsimp only
      cases commandLines? config command <;> exact ⟨rfl, rfl⟩

theorem kept_commandRun_verbose (tree : FileTree) (command : Command) (path : String) :
    kept (threshold true) (commandRun tree command (tidyPath path) true).2.2 =
      loadRecords tree path := by
  rw [events_commandRun, kept_map_record_append, threshold, if_pos rfl, filter_debug]
  cases (Config.load tree path).outcome <;> exact List.append_nil _

/-- Without debugging the records for it are left out, and there may be a warning
behind the others. -/
theorem exists_warned (tree : FileTree) (command : Command) (path : String) :
    ∃ extra, Warned tree path extra ∧
      kept (threshold false) (commandRun tree command (tidyPath path) false).2.2 =
        ((loadRecords tree path).filter fun record => record.level ≠ .debug) ++ extra := by
  rw [events_commandRun, kept_map_record_append, threshold, if_neg Bool.false_ne_true,
    filter_info]
  cases loaded : (Config.load tree path).outcome with
  | error fault => exact ⟨[], .unloaded loaded, rfl⟩
  | ok config =>
      by_cases isLevel : IsLevelName config.logLevel
      · refine ⟨[], .known loaded isLevel, ?_⟩
        rw [kept_levelEvents_of_isLevelName .info false isLevel]
      · refine ⟨_, .unknown loaded isLevel, ?_⟩
        dsimp only
        rw [levelEvents_of_not_isLevelName isLevel]
        rfl

/-- Loads that are alike but for a known log level make the same log. -/
theorem kept_commandRun_of_alike
    (alike : Log.Reported.Alike (Config.SameButLevel IsLevelName) (Config.load tree path)
      (Config.load again path)) (command : Command) (least : Level) (verbose : Bool) :
    kept least (commandRun again command (tidyPath path) verbose).2.2 =
      kept least (commandRun tree command (tidyPath path) verbose).2.2 := by
  simp only [events_commandRun, loadRecords]
  generalize Config.load tree path = loaded at alike ⊢
  generalize Config.load again path = loadedToo at alike ⊢
  cases alike with
  | ok records apart =>
      rw [kept_map_record_append, kept_map_record_append,
        kept_levelEvents_of_isLevelName _ verbose apart.level,
        kept_levelEvents_of_isLevelName _ verbose apart.otherLevel]
  | error records fault => rfl

end Runs

/-- One more flag before a command leaves a run as it is.  Debugging adds the records
for it, and takes away the warning at the end about a log level that is none.
Silence takes the output away.  Which known level a document chooses makes no
difference to the log. -/
theorem run_of_flags (tree : FileTree) (command : Command) {path : String}
    (plain : IsPlain path) {front back : List String} (areFlags : AreFlags (front ++ back)) :
    let without := run tree (.ofWords (front ++ back ++ [command.label, path]))
    let verbose := run tree (.ofWords (front ++ "-v" :: back ++ [command.label, path]))
    let quiet := run tree (.ofWords (front ++ "--quiet" :: back ++ [command.label, path]))
    (verbose.exit = without.exit ∧ verbose.output = without.output ∧
        verbose.report = without.report ∧
        ((front ++ back).any asksVerbose = false →
          ∃ extra, Warned tree path extra ∧
            without.records =
              (verbose.records.filter fun record => record.level ≠ .debug) ++ extra)) ∧
      (quiet.exit = without.exit ∧ quiet.output = "" ∧ quiet.records = without.records ∧
        quiet.report = without.report) ∧
      ∀ again before after value second, "log_level" ∉ Document.names before →
        Config.ChoosesLevel value → Config.ChoosesLevel second →
        Config.Holds tree (tidyPath path)
          (.map (before ++ (.text "log_level", value) :: after)) →
        Config.Holds again (tidyPath path)
          (.map (before ++ (.text "log_level", second) :: after)) →
        (∀ decoded,
          (Config.ofDocument (.map (before ++ (.text "log_level", value) :: after))).outcome =
              .ok decoded →
            NodeList.readText again decoded.nodesFile =
              NodeList.readText tree decoded.nodesFile) →
        (run again (.ofWords (front ++ back ++ [command.label, path]))).records =
          without.records := by
  obtain ⟨frontFlags, backFlags⟩ := List.forall_mem_append.mp areFlags
  have verboseFlags : AreFlags (front ++ "-v" :: back) :=
    List.forall_mem_append.mpr ⟨frontFlags, List.forall_mem_cons.mpr ⟨by decide, backFlags⟩⟩
  have quietFlags : AreFlags (front ++ "--quiet" :: back) :=
    List.forall_mem_append.mpr ⟨frontFlags, List.forall_mem_cons.mpr ⟨by decide, backFlags⟩⟩
  have verboseAsked : (front ++ "-v" :: back).any asksVerbose = true := by simp [asksVerbose]
  have quietKept : (front ++ "-v" :: back).any asksQuiet = (front ++ back).any asksQuiet := by
    simp [asksQuiet]
  have quietAsked : (front ++ "--quiet" :: back).any asksQuiet = true := by simp [asksQuiet]
  have verboseKept :
      (front ++ "--quiet" :: back).any asksVerbose = (front ++ back).any asksVerbose := by
    simp [asksVerbose]
  dsimp only
  rw [ofWords_of_areFlags areFlags command plain,
    ofWords_of_areFlags verboseFlags command plain,
    ofWords_of_areFlags quietFlags command plain, verboseAsked, quietKept, quietAsked,
    verboseKept]
  generalize (front ++ back).any asksVerbose = verbose
  generalize (front ++ back).any asksQuiet = quiet
  obtain ⟨sameExit, sameLines⟩ := commandRun_verbose tree command (tidyPath path) verbose
  simp only [run_run, sameExit, sameLines, ite_true, true_and, and_true]
  refine ⟨?_, ?_⟩
  · rintro rfl
    rw [kept_commandRun_verbose]
    exact exists_warned tree command path
  · intro again before after value second absent chosen chosenToo holds holdsToo sameList
    have alike : Log.Reported.Alike (Config.SameButLevel IsLevelName) (Config.load tree path)
        (Config.load again path) :=
      Config.alike_loadTidy absent chosen chosenToo holds holdsToo sameList
    exact kept_commandRun_of_alike alike command _ verbose

/-- A document that names a node list file and chooses a log level. -/
def levelDocument (level : String) : Document :=
  .map ([(.text "nodes_file", .text "n")] ++ (.text "log_level", .text level) :: [])

/-- A file with the document, and the node list file. -/
def levelTree (level : String) : FileTree :=
  (NodeList.textTree "s://h:1").put "c.yaml"
    (.file (Text.Utf8.encode ("nodes_file: n\nlog_level: " ++ level).toList))

/-- The texts of a mapping with two of them. -/
def twoTexts? : Option Document → Option (List String)
  | some (.map [(.text first, .text value), (.text second, .text other)]) =>
      some [first, value, second, other]
  | _ => none

theorem eq_of_twoTexts? {written : Option Document} {level : String}
    (viewed : twoTexts? written = some ["nodes_file", "n", "log_level", level]) :
    written = some (levelDocument level) := by
  unfold twoTexts? at viewed
  split at viewed
  · cases viewed
    rfl
  · cases viewed

theorem holds_levelTree {level : String}
    (viewed : (Yaml.Source.ofBytes
      (Text.Utf8.encode ("nodes_file: n\nlog_level: " ++ level).toList)).value?.toOption.map
        twoTexts? = some (some ["nodes_file", "n", "log_level", level])) :
    Config.Holds (levelTree level) "c.yaml" (levelDocument level) := by
  obtain ⟨written, parsed, isLevel⟩ := Log.exists_ok_of_view viewed
  obtain rfl := eq_of_twoTexts? isLevel
  exact ⟨_, _, rfl, parsed, rfl⟩

theorem run_of_flags_levelTree :
    let line (flags : List String) := Request.ofWords (flags ++ ["check", "c.yaml"])
    (IsPlain "c.yaml" ∧ AreFlags ["--quiet"] ∧ Config.ChoosesLevel (.text "Critical") ∧
        Config.ChoosesLevel (.text "debug")) ∧
      (run (levelTree "loud") (line ["--quiet"])).records.length = 5 ∧
      (∃ extra, Warned (levelTree "loud") "c.yaml" extra ∧
        (run (levelTree "loud") (line ["--quiet"])).records =
          ((run (levelTree "loud") (line ["-v", "--quiet"])).records.filter
            fun record => record.level ≠ .debug) ++ extra) ∧
      (run (levelTree "debug") (line ["--quiet"])).records =
        (run (levelTree "Critical") (line ["--quiet"])).records := by
  have plain : IsPlain "c.yaml" := by decide
  have areFlags : AreFlags ([] ++ ["--quiet"]) := by decide
  have critical : Config.ChoosesLevel (.text "Critical") := ⟨"Critical", rfl, by decide +kernel⟩
  have debug : Config.ChoosesLevel (.text "debug") := ⟨"debug", rfl, by decide +kernel⟩
  obtain ⟨⟨-, -, -, warned⟩, -, -⟩ := run_of_flags (levelTree "loud") .check plain areFlags
  obtain ⟨-, -, sameLog⟩ := run_of_flags (levelTree "Critical") .check plain areFlags
  refine ⟨⟨plain, areFlags, critical, debug⟩, by decide +kernel, warned rfl, ?_⟩
  refine sameLog (levelTree "debug") [(.text "nodes_file", .text "n")] [] (.text "Critical")
    (.text "debug") (by decide) critical debug (holds_levelTree (by decide +kernel))
    (holds_levelTree (by decide +kernel)) ?_
  intro decoded accepted
  obtain rfl := Except.ok.inj accepted
  decide +kernel

end RelayPool.CommandLine
