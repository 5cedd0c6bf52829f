import Mathlib.Tactic.SplitIfs
import RelayPool.Proofs.Config.NodePass
import RelayPool.Proofs.Log.Outcome

/-!
# How resolving ends

Resolving ends at a mode that is not supported, at a node list file that
cannot be read, at an empty list of nodes, at the first node that blocks the
pass over the nodes, or with everything settled.  For each of these ends this
file gives what is left of the configuration and the fault.
-/

namespace RelayPool.Config

open Log (Reported)

/-- The nodes of a configuration, with those of its node list file behind
them. -/
def mergedNodes (tree : FileTree) (config : Config) : Except ReadFault (List Node) :=
  if config.nodesFile = "" then .ok config.nodes
  else
    (NodeList.readText tree config.nodesFile).map fun text =>
      config.nodes ++ NodeList.nodes text

/-- The first automatic port. -/
def firstPort (config : Config) : Int :=
  if config.multiPort.basePort = 0 then 28000 else config.multiPort.basePort

/-- The names that mean a mode. -/
def modeNames : List String := ["", "pool", "multi-port", "multi_port"]

theorem mode?_eq_none_iff (name : String) : mode? name = none ↔ name ∉ modeNames := by
  simp only [mode?, modeNames, poolMode, multiPortMode, List.mem_cons, List.not_mem_nil,
    or_false]
  by_cases pool : name = "" ∨ name = "pool"
  · rcases pool with rfl | rfl <;> simp
  · by_cases multiPort : name = "multi_port" ∨ name = "multi-port"
    · rcases multiPort with rfl | rfl <;> simp
    · simp only [pool, multiPort, ite_false, true_iff]
      rintro (empty | underPool | hyphen | underscore)
      · exact pool (.inl empty)
      · exact pool (.inr underPool)
      · exact multiPort (.inr hyphen)
      · exact multiPort (.inl underscore)

theorem eq_poolMode_or_multiPortMode {name mode : String}
    (supported : mode? name = some mode) : mode = poolMode ∨ mode = multiPortMode := by
  simp only [mode?] at supported
  split_ifs at supported
  · exact .inl (Option.some.inj supported).symm
  · exact .inr (Option.some.inj supported).symm

theorem outcome_read (tree : FileTree) (path : String) :
    (NodeList.read tree path).outcome =
      (NodeList.readText tree path).map NodeList.nodes := by
  cases found : NodeList.readText tree path <;>
    simp [NodeList.read, Reported.outcome_bind, found, Except.map]

/-- Including the nodes of the node list file gives the merged nodes, or fails
as reading the file does. -/
theorem outcome_includeListed (tree : FileTree) (config : Config) :
    (includeListed tree config).outcome =
      match mergedNodes tree config with
      | .ok nodes => .ok { config with nodes }
      | .error fault => .error (.nodeList config.nodesFile fault) := by
  by_cases unset : config.nodesFile = ""
  · simp [includeListed, listedNodes, mergedNodes, unset, Reported.outcome_bind]
  · cases found : NodeList.readText tree config.nodesFile <;>
      simp [includeListed, listedNodes, mergedNodes, unset, Reported.outcome_bind,
        outcome_read, found, Except.map]

theorem mergedNodes_settle (tree : FileTree) (mode : String) (config : Config) :
    mergedNodes tree (settle mode config) = mergedNodes tree config :=
  rfl

/-- The configuration with its sections settled and all its nodes in place. -/
def completed (mode : String) (config : Config) (nodes : List Node) : Config :=
  { settle mode config with nodes }

/-- The configuration with everything settled. -/
def resolvedConfig (mode : String) (config : Config) (nodes : List Node) : Config :=
  { completed mode config nodes with
    nodes :=
      settledNodes (nodeSettings (completed mode config nodes)) 0 (firstPort config) nodes
    logLevel := orText config.logLevel defaultLogLevel }

section Ends

variable {tree : FileTree} {config : Config} {mode : String} {nodes : List Node}

theorem resolve_of_unsupported (unsupported : mode? config.mode = none) :
    resolve tree config = ⟨config, [], some (.unsupportedMode config.mode)⟩ := by
  simp only [resolve, unsupported]

theorem resolve_of_unreadable {fault : ReadFault} (supported : mode? config.mode = some mode)
    (unreadable : mergedNodes tree config = .error fault) :
    resolve tree config =
      ⟨settle mode config, (includeListed tree (settle mode config)).records,
        some (.nodeList config.nodesFile fault)⟩ := by
  have included := outcome_includeListed tree (settle mode config)
  rw [mergedNodes_settle, unreadable] at included
  simp only [resolve, supported, included]
  rfl

theorem resolve_of_merged (supported : mode? config.mode = some mode)
    (merged : mergedNodes tree config = .ok nodes) :
    resolve tree config =
      { resolveNodes (completed mode config nodes) with
        records := (includeListed tree (settle mode config)).records ++
          (resolveNodes (completed mode config nodes)).records } := by
  have included := outcome_includeListed tree (settle mode config)
  rw [mergedNodes_settle, merged] at included
  simp only [resolve, supported, included]
  rfl

theorem resolveNodes_of_empty : resolveNodes (completed mode config []) =
    ⟨completed mode config [], [], some .noNodes⟩ :=
  rfl

theorem resolveNodes_of_nonempty (nonempty : config.nodes ≠ []) :
    resolveNodes config =
      let pass :=
        settleNodes (nodeSettings config) 0 config.multiPort.basePort config.nodes
      ⟨{ config with
          nodes := pass.nodes
          logLevel :=
            if pass.fault = none then orText config.logLevel defaultLogLevel
            else config.logLevel },
        pass.records, pass.fault⟩ := by
  have present : config.nodes.isEmpty = false := by simpa using nonempty
  simp only [resolveNodes, present, Bool.false_eq_true, ite_false]
  split
  · next fault failed => simp [failed]
  · next ends => simp [ends]

theorem resolveNodes_of_clear (nonempty : nodes ≠ [])
    (clear : ∀ place, ¬ BlockedAt (firstPort config) nodes place) :
    resolveNodes (completed mode config nodes) =
      ⟨resolvedConfig mode config nodes,
        nodeRecords 0 (resolvedConfig mode config nodes).nodes, none⟩ := by
  have pass : settleNodes _ 0 (completed mode config nodes).multiPort.basePort
      (completed mode config nodes).nodes = _ :=
    settleNodes_of_clear (nodeSettings (completed mode config nodes)) 0 clear
  rw [resolveNodes_of_nonempty nonempty, pass]
  rfl

theorem resolveNodes_of_firstBlocked {place : Nat} {node : Node}
    (first : FirstBlocked (firstPort config) nodes place)
    (found : nodes[place]? = some node) :
    resolveNodes (completed mode config nodes) =
      let settings := nodeSettings (completed mode config nodes)
      let before := settledNodes settings 0 (firstPort config) (nodes.take place)
      ⟨{ completed mode config nodes with
          nodes := before ++ stoppedNode place node :: nodes.drop (place + 1) },
        nodeRecords 0 before, some (stopFault settings place node)⟩ := by
  have nonempty : (completed mode config nodes).nodes ≠ [] :=
    List.ne_nil_of_mem (List.mem_of_getElem? found)
  have pass : settleNodes _ 0 (completed mode config nodes).multiPort.basePort
      (completed mode config nodes).nodes = _ :=
    settleNodes_of_firstBlocked (nodeSettings (completed mode config nodes)) 0 first found
  rw [resolveNodes_of_nonempty nonempty, pass, Nat.zero_add]
  rfl

end Ends

end RelayPool.Config
