import RelayPool.Document.Members
import RelayPool.Yaml.Merge
import RelayPool.Yaml.Scalar

/-!
# Values of node graphs

The value of a document.  Scalars have their values at once; a collection is
opened first and filled in a later round, in the order in which collections
were opened, so that it may hold itself.  The order decides which of two
faults is found.  In the end the filled collections are unfolded to a tree.
-/

namespace RelayPool.Yaml

/-- A value whose parts are given by the numbers of their nodes.  Keys and
members are scalars, which are complete.  The origin of a scalar tells values
apart that equal nothing. -/
inductive Shell
  | leaf (value : Document) (origin : Nat)
  | list (items : List Nat)
  | pairs (entries : List (Nat × Nat))
  | set (members : List Document)
  | map (entries : List (Document × Nat))
  deriving Inhabited

/-- The state of construction: the nodes, of which merge keys are taken away
on the way, the values so far, and the collections that are opened and not yet
filled, the last one first. -/
structure Construction where
  nodes : Nodes
  shells : Array (Option Shell)
  opened : List Nat

/-- The value of a key and its origin. -/
structure ShellKey where
  value : Document
  origin : Nat

/-- Two keys of a mapping are the same.  The value that is no number equals
nothing, but is still the same key where it has the same origin. -/
def ShellKey.same (first second : ShellKey) : Bool :=
  match first.value, second.value with
  | .float .nan, .float .nan => first.origin == second.origin
  | value, value' => value.sameKey value'

/-- Puts a value under a key: at the place of the same key, or at the end. -/
def insertShellEntry (key : ShellKey) (value : Nat) :
    List (ShellKey × Nat) → List (ShellKey × Nat)
  | [] => [(key, value)]
  | entry :: rest =>
      if entry.1.same key then (entry.1, value) :: rest
      else entry :: insertShellEntry key value rest

namespace Construction

/-- The state with a value for a node. -/
def setShell (state : Construction) (node : Nat) (shell : Shell) : Construction :=
  { state with shells := state.shells.setIfInBounds node (some shell) }

/-- The state with an opened collection. -/
def openShell (state : Construction) (node : Nat) (shell : Shell) : Construction :=
  { state.setShell node shell with opened := node :: state.opened }

/-- The value of a node as far as it is known. -/
def shell? (state : Construction) (node : Nat) : Option Shell :=
  state.shells.getD node none

/-- The text of a node that is a scalar, or of the value behind the mark of a
value in a mapping. -/
def scalarText (nodes : Nodes) : Nat → Nat → Except Fault String
  | 0, _ => .error .malformed
  | fuel + 1, node =>
      match nodes.content node with
      | .scalar text => .ok text
      | .sequence _ => .error .malformed
      | .mapping entries =>
          match entries.find? fun entry => nodes.tag entry.1 = .value with
          | some entry => scalarText nodes fuel entry.2
          | none => .error .malformed

/-- The value of a scalar node.  A point in time is read from the text of the
node itself, so it cannot stand for a mapping. -/
def scalarValue (nodes : Nodes) (node : Nat) : Except Fault Document := do
  let text ← scalarText nodes (nodes.size + 1) node
  match nodes.tag node, nodes.content node with
  | .timestamp, .mapping _ => throw (.value .timestampOfMapping)
  | tag, _ => Scalar.value tag text

/-- The origin of the value of a scalar node: the node itself, but one for all
that name the value that is no number. -/
def originOf (nodes : Nodes) (node : Nat) : Nat :=
  match nodes.tag node, scalarText nodes (nodes.size + 1) node with
  | .float, .ok text => if Scalar.namesNan text then nodes.size else node
  | _, _ => node

/-- Gives a node its value, or opens it. -/
def start (state : Construction) (node : Nat) : Except Fault Construction :=
  match state.shell? node with
  | some _ => .ok state
  | none =>
      match state.nodes.tag node with
      | .mapping => .ok (state.openShell node (.map []))
      | .sequence => .ok (state.openShell node (.list []))
      | .set => .ok (state.openShell node (.set []))
      | .orderedMap | .pairs => .ok (state.openShell node (.pairs []))
      | .merge | .value | .unknown => .error .malformed
      | _ => do
          let value ← scalarValue state.nodes node
          return state.setShell node (.leaf value (originOf state.nodes node))

/-- Gives the nodes of a list their values, or opens them. -/
def startAll (state : Construction) : List Nat → Except Fault Construction
  | [] => .ok state
  | node :: rest => do
      let state ← state.start node
      state.startAll rest

/-- The key at a node, which must not be a collection. -/
def keyOf (state : Construction) (node : Nat) : Except Fault ShellKey :=
  match state.shell? node with
  | some (.leaf value origin) => .ok ⟨value, origin⟩
  | _ => .error .malformed

/-- Starts keys and values in turn and collects the entries of a mapping. -/
def startEntries (state : Construction) (taken : List (ShellKey × Nat)) :
    List (Nat × Nat) → Except Fault (List (ShellKey × Nat) × Construction)
  | [] => .ok (taken, state)
  | (key, value) :: rest => do
      let state ← state.start key
      let name ← state.keyOf key
      let state ← state.start value
      state.startEntries (insertShellEntry name value taken) rest

/-- The entries of a mapping with its merge keys followed. -/
def fillEntries (state : Construction) (node : Nat) :
    Except Fault (List (Document × Nat) × Construction) :=
  match state.nodes.content node with
  | .mapping _ => do
      let nodes ← state.nodes.flatten node
      let (entries, state) ← { state with nodes }.startEntries [] (nodes.entries node)
      return (entries.map fun entry => (entry.1.value, entry.2), state)
  | _ => .error .malformed

/-- Starts the entries of a sequence of mappings with one entry each. -/
def startPairs (state : Construction) (taken : List (Nat × Nat)) :
    List Nat → Except Fault (List (Nat × Nat) × Construction)
  | [] => .ok (taken.reverse, state)
  | item :: rest =>
      match state.nodes.content item with
      | .mapping [(key, value)] => do
          let state ← state.start key
          let state ← state.start value
          state.startPairs ((key, value) :: taken) rest
      | _ => .error .malformed

/-- Fills an opened collection. -/
def fill (state : Construction) (node : Nat) : Except Fault Construction :=
  match state.nodes.tag node with
  | .sequence =>
      match state.nodes.content node with
      | .sequence items => do
          let state ← state.startAll items
          return state.setShell node (.list items)
      | _ => .error .malformed
  | .orderedMap | .pairs =>
      match state.nodes.content node with
      | .sequence items => do
          let (entries, state) ← state.startPairs [] items
          return state.setShell node (.pairs entries)
      | _ => .error .malformed
  | .set => do
      let (entries, state) ← state.fillEntries node
      return state.setShell node (.set (Document.shownMembers (entries.map (·.1))))
  | _ => do
      let (entries, state) ← state.fillEntries node
      return state.setShell node (.map entries)

/-- Fills the collections of a round. -/
def fillAll (state : Construction) : List Nat → Except Fault Construction
  | [] => .ok state
  | node :: rest => do
      let state ← state.fill node
      state.fillAll rest

/-- Fills collections round after round.  A round fills those that the round
before has opened; each node is opened once. -/
def rounds : Nat → Construction → Except Fault Construction
  | 0, state => .ok state
  | fuel + 1, state =>
      match state.opened with
      | [] => .ok state
      | opened => do
          let state ← { state with opened := [] }.fillAll opened.reverse
          rounds fuel state

/-- The values of all nodes that belong to the document. -/
def ofGraph (graph : Graph) : Except Fault Construction := do
  let size := graph.nodes.size
  let state : Construction :=
    { nodes := graph.nodes, shells := Array.replicate size none, opened := [] }
  rounds (size + 1) (← state.start graph.root)

end Construction

/-- A tree and whether it holds no mark of a collection met again, and the
trees that have been unfolded before. -/
structure Unfolded (α : Type) where
  tree : α
  finished : Bool
  known : Array (Option Document)

/-- Unfolds the values of a list of nodes one after the other. -/
def unfoldEach {β : Type} (unfold : β → Array (Option Document) → Unfolded Document) :
    List β → Array (Option Document) → Unfolded (List Document)
  | [], known => ⟨[], true, known⟩
  | value :: rest, known =>
      let first := unfold value known
      let others := unfoldEach unfold rest first.known
      ⟨first.tree :: others.tree, first.finished && others.finished, others.known⟩

/-- The mark for a collection that is met again. -/
def Shell.again : Shell → Document
  | .leaf value _ => value
  | .list _ | .pairs _ => .again .list
  | .set _ => .again .set
  | .map _ => .again .map

/-- The tree of a value whose parts are unfolded by `below`. -/
def Shell.unfoldWith (below : Nat → Array (Option Document) → Unfolded Document)
    (known : Array (Option Document)) : Shell → Unfolded Document
  | .leaf value _ => ⟨value, true, known⟩
  | .list items =>
      let parts := unfoldEach below items known
      { parts with tree := .list parts.tree }
  | .set members => ⟨.set members, true, known⟩
  | .map entries =>
      let parts := unfoldEach below (entries.map (·.2)) known
      { parts with tree := .map ((entries.map (·.1)).zip parts.tree) }
  | .pairs entries =>
      let keys := unfoldEach below (entries.map (·.1)) known
      let values := unfoldEach below (entries.map (·.2)) keys.known
      { tree := .list ((keys.tree.zip values.tree).map fun entry => .pair entry.1 entry.2)
        finished := keys.finished && values.finished
        known := values.known }

/-- A finished tree is known from now on as that of its node. -/
def Unfolded.remember (unfolded : Unfolded Document) (node : Nat) : Unfolded Document :=
  if unfolded.finished then
    { unfolded with known := unfolded.known.setIfInBounds node (some unfolded.tree) }
  else unfolded

/-- The tree of a node.  At the first two levels a collection is unfolded even
if it has been met; below, a collection inside itself becomes a mark. -/
def unfold (shells : Array (Option Shell)) :
    Nat → Nat → List Nat → Nat → Array (Option Document) → Unfolded Document
  | 0, _, _, _, known => ⟨.null, false, known⟩
  | fuel + 1, level, path, node, known =>
      match known.getD node none with
      | some tree => ⟨tree, true, known⟩
      | none =>
          let shell := (shells.getD node none).getD default
          if path.contains node then ⟨shell.again, false, known⟩
          else
            let inner := if level < 2 then [] else node :: path
            (shell.unfoldWith (unfold shells fuel (level + 1) inner) known).remember node

/-- The value of the document in a source, if it holds one. -/
def Source.value? (source : Source) : Except Fault (Option Document) := do
  match ← Graph.ofSource? source with
  | none => return none
  | some graph => do
      let state ← Construction.ofGraph graph
      let size := state.shells.size
      let unfolded :=
        unfold state.shells (size + 3) 0 [] graph.root (Array.replicate size none)
      return some unfolded.tree

end RelayPool.Yaml
