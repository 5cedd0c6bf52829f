import RelayPool.CommandLine.Request

/-!
# The configuration file on the command line

A word that does not begin with a hyphen is plain to every reader of words, so
behind a command it names the configuration file, whatever flags stand before
the command.
-/

namespace RelayPool.CommandLine

/-- A word that no reader takes for a flag. -/
def IsPlain (word : String) : Prop :=
  word.toList.head? ≠ some '-'

instance (word : String) : Decidable (IsPlain word) :=
  inferInstanceAs (Decidable (_ ≠ _))

/-- The flags before a command, as words. -/
def flagWords (verbose quiet : Bool) : List String :=
  (if verbose then ["-v"] else []) ++ (if quiet then ["--quiet"] else [])

/-- The words of a command on a configuration file. -/
def commandWords (command : Command) (path : String) (verbose quiet : Bool) :
    List String :=
  flagWords verbose quiet ++ [command.label, path]

theorem readWord_of_isPlain (spellings : Spellings) {word : String}
    (plain : IsPlain word) :
    readWord spellings word = .ok .plain := by
  unfold readWord
  cases letters : word.toList with
  | nil => rfl
  | cons first rest =>
      have other : first ≠ '-' := by
        intro hyphen
        exact plain (by rw [letters, hyphen, List.head?_cons])
      simp [other]

theorem ne_of_isPlain {word : String} (plain : IsPlain word) : word ≠ "--" := by
  rintro rfl
  exact plain (by decide)

section Reading

variable {spellings : Spellings} {word : String} {rest behind : List String}
  {read : List (String × Word)}

theorem readWords_cons {first : Word} (continued : word ≠ "--")
    (firstRead : readWord spellings word = .ok first)
    (restRead : readWords spellings rest = .ok (read, behind)) :
    readWords spellings (word :: rest) = .ok ((word, first) :: read, behind) := by
  rw [readWords, if_neg continued, firstRead, restRead]
  rfl

theorem readWords_cons_of_isPlain (plain : IsPlain word)
    (restRead : readWords spellings rest = .ok (read, behind)) :
    readWords spellings (word :: rest) = .ok ((word, .plain) :: read, behind) :=
  readWords_cons (ne_of_isPlain plain) (readWord_of_isPlain spellings plain) restRead

end Reading

/-- The words for flags as they are read. -/
def readFlags (verbose quiet : Bool) : List (String × Word) :=
  (if verbose then [("-v", .flag .verbose true none)] else []) ++
    (if quiet then [("--quiet", .flag .quiet false none)] else [])

theorem readWords_flagWords (verbose quiet : Bool) {rest behind : List String}
    {read : List (String × Word)}
    (restRead : readWords generalFlags rest = .ok (read, behind)) :
    readWords generalFlags (flagWords verbose quiet ++ rest) =
      .ok (readFlags verbose quiet ++ read, behind) := by
  have quietRead :
      readWords generalFlags ("--quiet" :: rest) =
        .ok (("--quiet", .flag .quiet false none) :: read, behind) :=
    readWords_cons (by decide) rfl restRead
  cases verbose <;> cases quiet
  · exact restRead
  · exact quietRead
  · exact readWords_cons (by decide) rfl restRead
  · exact readWords_cons (by decide) rfl quietRead

theorem readGeneralWords_readFlags (verbose quiet : Bool) (behind : List String)
    (read : List (String × Word)) :
    readGeneralWords behind ⟨false, false, []⟩ (readFlags verbose quiet ++ read) =
      readGeneralWords behind ⟨verbose, quiet, []⟩ read := by
  cases verbose <;> cases quiet <;> rfl

theorem isPlain_label (command : Command) : IsPlain command.label := by
  cases command <;> decide

theorem ofName?_label (command : Command) :
    Command.ofName? command.label = some command := by
  cases command <;> decide

theorem readCommand_of_isPlain (command : Command) (verbose quiet : Bool) {path : String}
    (plain : IsPlain path) :
    readCommand command ⟨verbose, quiet, []⟩ [path] = .run command path verbose quiet := by
  have read : readWords commandFlags [path] = .ok ([(path, .plain)], []) :=
    readWords_cons_of_isPlain plain rfl
  simp [readCommand, read, readCommandWords, Settings.withExtra]

theorem readGeneralWords_of_isPlain (command : Command) (verbose quiet : Bool)
    {path : String} (plain : IsPlain path) :
    readGeneralWords [] ⟨verbose, quiet, []⟩ [(command.label, .plain), (path, .plain)] =
      .run command path verbose quiet := by
  simp [readGeneralWords, ofName?_label, readCommand_of_isPlain _ _ _ plain]

/-- Such a line asks for the command on the file that its last word names. -/
theorem ofWords_commandWords (command : Command) (verbose quiet : Bool) {path : String}
    (plain : IsPlain path) :
    Request.ofWords (commandWords command path verbose quiet) =
      .run command path verbose quiet := by
  have read : readWords generalFlags [command.label, path] =
      .ok ([(command.label, .plain), (path, .plain)], []) :=
    readWords_cons_of_isPlain (isPlain_label command) (readWords_cons_of_isPlain plain rfl)
  rw [commandWords, Request.ofWords, readWords_flagWords verbose quiet read]
  dsimp only
  rw [readGeneralWords_readFlags, readGeneralWords_of_isPlain command verbose quiet plain]

end RelayPool.CommandLine
