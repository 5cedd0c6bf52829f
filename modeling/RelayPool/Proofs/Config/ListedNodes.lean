import RelayPool.Proofs.Config.Resolution
import RelayPool.Proofs.Text.Trimmed

/-!
# Listed nodes

The nodes that the node list file adds depend on nothing but what is in the
file.  They have a trimmed URI and nothing else, so each of them takes a port.
-/

namespace RelayPool.Config

open Log (Reported)

section Listed

variable {tree again : FileTree} {config : Config} {listed : List Node}

/-- The merged nodes are those of the configuration and those of its node list
file behind them. -/
theorem mergedNodes_eq_ok_iff {nodes : List Node} :
    mergedNodes tree config = .ok nodes ↔
      ∃ listed, (listedNodes tree config).outcome = .ok listed ∧
        config.nodes ++ listed = nodes := by
  by_cases unset : config.nodesFile = ""
  · simp [mergedNodes, listedNodes, unset]
  · cases found : NodeList.readText tree config.nodesFile <;>
      simp [mergedNodes, listedNodes, unset, outcome_read, found, Except.map]

theorem outcome_listedNodes_congr {other : Config}
    (sameFile : other.nodesFile = config.nodesFile)
    (unchanged : again.read config.nodesFile = tree.read config.nodesFile) :
    (listedNodes again other).outcome = (listedNodes tree config).outcome := by
  by_cases unset : config.nodesFile = ""
  · simp [listedNodes, sameFile, unset]
  · simp [listedNodes, sameFile, unset, Reported.outcome_bind, outcome_read,
      NodeList.readText, unchanged]

theorem listed_eq_nil_of_unset (unset : config.nodesFile = "")
    (found : (listedNodes tree config).outcome = .ok listed) : listed = [] := by
  simpa [listedNodes, unset] using found.symm

/-- The nodes of the node list file have a trimmed URI and nothing else. -/
theorem eq_uri_of_mem_listed (found : (listedNodes tree config).outcome = .ok listed)
    {node : Node} (member : node ∈ listed) :
    node = { uri := node.uri } ∧ Text.strip node.uri = node.uri := by
  by_cases unset : config.nodesFile = ""
  · rw [listed_eq_nil_of_unset unset found] at member
    cases member
  · obtain ⟨text, -, rfl⟩ : ∃ text, NodeList.readText tree config.nodesFile = .ok text ∧
        NodeList.nodes text = listed := by
      cases read : NodeList.readText tree config.nodesFile <;>
        simp_all [listedNodes, Reported.outcome_bind, outcome_read, Except.map]
    obtain ⟨uri, written, rfl⟩ := List.mem_map.mp member
    obtain ⟨line, -, rfl⟩ := List.mem_map.mp (List.mem_filter.mp written).1
    refine ⟨rfl, ?_⟩
    rw [Text.strip, String.toList_ofList, Text.trimmed_trimmed]

theorem openPorts_take_of_listed (found : (listedNodes tree config).outcome = .ok listed)
    {number : Nat} (inside : number ≤ listed.length) :
    openPorts (listed.take number) = number := by
  have allOpen : ∀ node ∈ listed.take number, decide (node.port = 0) := by
    intro node member
    rw [(eq_uri_of_mem_listed found (List.mem_of_mem_take member)).1]
    rfl
  rw [openPorts, List.countP_eq_length.mpr allOpen, List.length_take, Nat.min_eq_left inside]

end Listed

end RelayPool.Config
