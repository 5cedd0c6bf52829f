import RelayPool.Proofs.Log.Outcome
import RelayPool.Yaml.Merge

/-!
# Scalars among merged mappings

Following merge keys gives mappings other entries, and takes the mark of a value
off keys.  Every other scalar stays as it was written.
-/

namespace RelayPool.Yaml.Nodes

open Log

variable {nodes : Nodes} {node other : Nat}

theorem tag_of_getElem? {kept : GraphNode} (found : nodes[node]? = some kept) :
    nodes.tag node = kept.tag := by
  rw [tag, Array.getD_eq_getD_getElem?, found, Option.getD_some]

theorem content_of_getElem? {kept : GraphNode} (found : nodes[node]? = some kept) :
    nodes.content node = kept.content := by
  rw [content, Array.getD_eq_getD_getElem?, found, Option.getD_some]

theorem getElem?_setEntries_of_ne (different : other ≠ node) (entries : List (Nat × Nat)) :
    (nodes.setEntries other entries)[node]? = nodes[node]? := by
  rw [setEntries, Array.getElem?_modify, if_neg different]

section Scalar

variable {tag : Tag} {text : String}

theorem ne_of_mapping {entries : List (Nat × Nat)}
    (scalar : nodes[node]? = some ⟨tag, .scalar text⟩)
    (mapping : nodes.content other = .mapping entries) : other ≠ node := by
  rintro rfl
  rw [content_of_getElem? scalar] at mapping
  cases mapping

theorem getElem?_plainKeys (unmarked : tag ≠ .value) (entries : List (Nat × Nat))
    (scalar : nodes[node]? = some ⟨tag, .scalar text⟩) :
    (nodes.plainKeys entries)[node]? = some ⟨tag, .scalar text⟩ := by
  induction entries generalizing nodes with
  | nil => exact scalar
  | cons entry rest ih =>
      rw [plainKeys, List.foldl_cons]
      apply ih
      split
      · next marked =>
          have different : entry.1 ≠ node := by
            rintro same
            rw [same, tag_of_getElem? scalar] at marked
            exact unmarked marked
          rw [Array.getElem?_modify, if_neg different]
          exact scalar
      · exact scalar

mutual

/-- The scalar is no mapping, so it is never the one that is flattened. -/
theorem getElem?_flattenWith {fuel other : Nat} {taken : List (Nat × Nat)}
    {nodes result : Nodes} (unmarked : tag ≠ .value) (different : other ≠ node)
    (scalar : nodes[node]? = some ⟨tag, .scalar text⟩)
    (flat : flattenWith fuel other taken nodes = .ok result) :
    result[node]? = some ⟨tag, .scalar text⟩ := by
  cases fuel with
  | zero => cases flat
  | succ fuel =>
      rw [flattenWith] at flat
      split at flat
      · cases flat
        rw [getElem?_setEntries_of_ne different]
        exact getElem?_plainKeys unmarked _ scalar
      · next before merged behind _ =>
          obtain ⟨⟨more, merging⟩, followed, flat⟩ := bind_eq_ok_iff.mp flat
          have split : (nodes.setEntries other (before ++ behind))[node]? =
              some ⟨tag, .scalar text⟩ := by
            rw [getElem?_setEntries_of_ne different, scalar]
          exact getElem?_flattenWith unmarked different
            (getElem?_mergedEntries unmarked split followed) flat

theorem getElem?_mergedEntries {fuel merged : Nat} {entries : List (Nat × Nat)}
    {nodes result : Nodes} (unmarked : tag ≠ .value)
    (scalar : nodes[node]? = some ⟨tag, .scalar text⟩)
    (followed : mergedEntries fuel merged nodes = .ok (entries, result)) :
    result[node]? = some ⟨tag, .scalar text⟩ := by
  cases fuel with
  | zero => cases followed
  | succ fuel =>
      rw [mergedEntries] at followed
      split at followed
      · next mapping =>
          obtain ⟨flattened, flat, result⟩ := bind_eq_ok_iff.mp followed
          cases result
          exact getElem?_flattenWith unmarked (ne_of_mapping scalar mapping) scalar flat
      · exact getElem?_mergedItems unmarked scalar followed
      · cases followed

theorem getElem?_mergedItems {fuel : Nat} {items : List Nat} {entries : List (Nat × Nat)}
    {nodes result : Nodes} (unmarked : tag ≠ .value)
    (scalar : nodes[node]? = some ⟨tag, .scalar text⟩)
    (followed : mergedItems fuel items nodes = .ok (entries, result)) :
    result[node]? = some ⟨tag, .scalar text⟩ := by
  cases fuel with
  | zero => cases followed
  | succ fuel =>
      cases items with
      | nil =>
          cases followed
          exact scalar
      | cons item rest =>
          rw [mergedItems] at followed
          split at followed
          · next mapping =>
              obtain ⟨flattened, flat, followed⟩ := bind_eq_ok_iff.mp followed
              obtain ⟨⟨others, merging⟩, later, result⟩ := bind_eq_ok_iff.mp followed
              cases result
              exact getElem?_mergedItems unmarked
                (getElem?_flattenWith unmarked (ne_of_mapping scalar mapping) scalar flat) later
          · cases followed

end

/-- Following the merge keys of a mapping keeps every scalar that is no mark of
a value. -/
theorem getElem?_flatten {result : Nodes} (unmarked : tag ≠ .value) (different : other ≠ node)
    (scalar : nodes[node]? = some ⟨tag, .scalar text⟩)
    (flat : nodes.flatten other = .ok result) : result[node]? = some ⟨tag, .scalar text⟩ :=
  getElem?_flattenWith unmarked different scalar flat

end Scalar

end RelayPool.Yaml.Nodes
