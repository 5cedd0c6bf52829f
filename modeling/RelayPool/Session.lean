import RelayPool.Config.Load
import RelayPool.Config.Summary

/-!
# Sessions

A configuration that is worked on step by step next to the files it reads.  A
step that fails keeps what it left, and the next step goes on from there.
-/

namespace RelayPool

open Log (Reported Record)

/-- The current configuration and the files. -/
structure Session where
  config : Config
  tree : FileTree

namespace Session

/-- A session with nothing configured. -/
def start (tree : FileTree) : Session :=
  ⟨{}, tree⟩

/-- One step. -/
inductive Step
  | renew
  | decode (document : Document)
  | load (path : String)
  | write (path : String) (entry : FileEntry)
  | remove (path : String)
  | assign (change : Config → Config)
  | addNode (node : Node)
  | removeNode (index : Int)
  | changeNode (index : Nat) (change : Node → Node)
  | resolve
  | includeListed
  | summarize
  | askEnabled

/-- Why a step fails. -/
inductive StepFault
  | decode (fault : Config.DecodeFault)
  | load (fault : Config.LoadFault)
  | resolve (fault : Config.ResolveFault)
  | tooManyDigits
  | noNodeToRemove
  | noNodeToChange

/-- The sentence that reports a fault. -/
def StepFault.message : StepFault → String
  | .decode fault => fault.message
  | .load fault => fault.message
  | .resolve fault => fault.message
  | .tooManyDigits => Number.digitLimitMessage
  | .noNodeToRemove => "list assignment index out of range"
  | .noNodeToChange => "list index out of range"

/-- What a step answers. -/
inductive Answer
  | done
  | text (value : String)
  | truth (value : Bool)

/-- What a step leaves, the records it makes, and its answer or fault. -/
structure StepReport where
  session : Session
  records : List Record
  outcome : Except StepFault Answer

/-- The session with another configuration. -/
def withConfig (session : Session) (config : Config) : Session :=
  { session with config }

/-- A step that makes no records and cannot fail. -/
def quietly (session : Session) (answer : Answer) : StepReport :=
  ⟨session, [], .ok answer⟩

/-- A step that leaves other nodes, or has no node to work on. -/
def withNodes (session : Session) (fault : StepFault) (nodes : Option (List Node)) :
    StepReport :=
  match nodes with
  | some nodes => (session.withConfig { session.config with nodes }).quietly .done
  | none => ⟨session, [], .error fault⟩

/-- The position of an item in a list of `length` items; a negative index
counts from the end. -/
def position? (length : Nat) : Int → Option Nat
  | .ofNat index => if index < length then some index else none
  | .negSucc index => if index < length then some (length - (index + 1)) else none

/-- A step whose result takes the place of the configuration; after a fault
the configuration stays. -/
def replacing {ε : Type} (session : Session) (wrap : ε → StepFault)
    (result : Reported ε Config) : StepReport :=
  match result.outcome with
  | .ok config => ⟨session.withConfig config, result.records, .ok .done⟩
  | .error fault => ⟨session, result.records, .error (wrap fault)⟩

/-- Takes a step. -/
def step (session : Session) : Step → StepReport
  | .renew => (session.withConfig {}).quietly .done
  | .decode document => session.replacing .decode (Config.ofDocument document)
  | .load path => session.replacing .load (Config.load session.tree path)
  | .write path entry =>
      { session with tree := session.tree.put path entry : Session }.quietly .done
  | .remove path => { session with tree := session.tree.remove path : Session }.quietly .done
  | .assign change => (session.withConfig (change session.config)).quietly .done
  | .addNode node =>
      let nodes := session.config.nodes ++ [node]
      (session.withConfig { session.config with nodes }).quietly .done
  | .removeNode index =>
      let nodes := session.config.nodes
      session.withNodes .noNodeToRemove
        ((position? nodes.length index).map fun place => nodes.eraseIdx place)
  | .changeNode index change =>
      let nodes := session.config.nodes
      session.withNodes .noNodeToChange
        ((position? nodes.length index).map fun place => nodes.modify place change)
  | .resolve =>
      let resolution := session.config.resolve session.tree
      ⟨session.withConfig resolution.config, resolution.records,
        match resolution.fault with
        | some fault => .error (.resolve fault)
        | none => .ok .done⟩
  | .includeListed =>
      session.replacing .resolve (session.config.includeListed session.tree)
  | .summarize =>
      match session.config.summary? with
      | some text => session.quietly (.text text)
      | none => ⟨session, [], .error .tooManyDigits⟩
  | .askEnabled => session.quietly (.truth session.config.managementEnabled)

/-- Takes steps one after the other, whether they fail or not. -/
def run (session : Session) : List Step → List StepReport
  | [] => []
  | next :: rest =>
      let report := session.step next
      report :: report.session.run rest

end Session

end RelayPool
