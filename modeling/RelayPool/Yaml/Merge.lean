import RelayPool.Yaml.Graph

/-!
# Merge keys

A mapping with a merge key takes over the entries of other mappings, which
come before its own.  Of several mappings merged at one key the entries of the
last come first, so that those of the first win.
-/

namespace RelayPool.Yaml

/-- The nodes of a document by their numbers. -/
abbrev Nodes := Array GraphNode

namespace Nodes

/-- The type of a node. -/
def tag (nodes : Nodes) (node : Nat) : Tag :=
  (nodes.getD node default).tag

/-- What a node holds. -/
def content (nodes : Nodes) (node : Nat) : Content :=
  (nodes.getD node default).content

/-- The entries of a mapping. -/
def entries (nodes : Nodes) (node : Nat) : List (Nat × Nat) :=
  match nodes.content node with
  | .mapping entries => entries
  | _ => []

/-- The nodes with other entries for a mapping. -/
def setEntries (nodes : Nodes) (node : Nat) (entries : List (Nat × Nat)) : Nodes :=
  nodes.modify node fun kept => { kept with content := .mapping entries }

/-- The nodes with the keys that are marked as values taken as texts. -/
def plainKeys (nodes : Nodes) (entries : List (Nat × Nat)) : Nodes :=
  entries.foldl (fun changed entry =>
    if changed.tag entry.1 = .value then
      changed.modify entry.1 fun kept => { kept with tag := .text }
    else changed) nodes

/-- The entries before the first merge key, the node merged there, and the
entries behind it. -/
def splitMerge? (nodes : Nodes) :
    List (Nat × Nat) → Option (List (Nat × Nat) × Nat × List (Nat × Nat))
  | [] => none
  | entry :: rest =>
      if nodes.tag entry.1 = .merge then some ([], entry.2, rest)
      else
        (nodes.splitMerge? rest).map fun (before, merged, behind) =>
          (entry :: before, merged, behind)

mutual

/-- Takes over the entries of the mappings merged into a mapping; `taken` are
those taken over already.  Each step takes away a merge key. -/
def flattenWith : Nat → Nat → List (Nat × Nat) → Nodes → Except Fault Nodes
  | 0, _, _, _ => .error .malformed
  | fuel + 1, node, taken, nodes =>
      match nodes.splitMerge? (nodes.entries node) with
      | none =>
          let own := nodes.entries node
          .ok ((nodes.plainKeys own).setEntries node (taken ++ own))
      | some (before, merged, behind) => do
          let nodes := nodes.setEntries node (before ++ behind)
          let (more, nodes) ← mergedEntries fuel merged nodes
          flattenWith fuel node (taken ++ more) nodes

/-- The entries that a merge key takes over from a mapping or from a sequence
of mappings. -/
def mergedEntries : Nat → Nat → Nodes → Except Fault (List (Nat × Nat) × Nodes)
  | 0, _, _ => .error .malformed
  | fuel + 1, merged, nodes =>
      match nodes.content merged with
      | .mapping _ => do
          let nodes ← flattenWith fuel merged [] nodes
          return (nodes.entries merged, nodes)
      | .sequence items => mergedItems fuel items nodes
      | .scalar _ => .error .malformed

/-- The entries of a sequence of mappings, those of the last first. -/
def mergedItems : Nat → List Nat → Nodes → Except Fault (List (Nat × Nat) × Nodes)
  | 0, _, _ => .error .malformed
  | _ + 1, [], nodes => .ok ([], nodes)
  | fuel + 1, item :: rest, nodes =>
      match nodes.content item with
      | .mapping _ => do
          let nodes ← flattenWith fuel item [] nodes
          let entries := nodes.entries item
          let (others, nodes) ← mergedItems fuel rest nodes
          return (others ++ entries, nodes)
      | _ => .error .malformed

end

/-- The number of entries of all mappings. -/
def entryCount (nodes : Nodes) : Nat :=
  nodes.foldl (fun total node =>
    match node.content with
    | .mapping entries => total + entries.length
    | _ => total) 0

/-- The number of items of all sequences. -/
def itemCount (nodes : Nodes) : Nat :=
  nodes.foldl (fun total node =>
    match node.content with
    | .sequence items => total + items.length
    | _ => total) 0

/-- A bound on the depth of taking over entries.  No merge key is taken away
twice, and between two of them at most the items of a sequence are passed. -/
def mergeFuel (nodes : Nodes) : Nat :=
  (nodes.entryCount + 2) * (nodes.itemCount + 4)

/-- Takes over the entries of the mappings merged into a mapping. -/
def flatten (nodes : Nodes) (node : Nat) : Except Fault Nodes :=
  flattenWith nodes.mergeFuel node [] nodes

end Nodes

end RelayPool.Yaml
