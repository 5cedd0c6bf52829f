import RelayPool.Proofs.Config.NodeNames
import RelayPool.Proofs.Config.PassPorts
import RelayPool.Proofs.Config.ResolvedTwice
import RelayPool.Proofs.Config.SettledSettings

/-!
# Corrected configurations

A configuration with a missing URI can be given the URI where the fault left it, and
resolved again.  The nodes before it keep what the first run gave them, ports included,
and the second run hands out ports from the base port on again.  So the nodes from the
corrected one on have the ports that they would have if no node before them had taken
one.
-/

namespace RelayPool.Config

/-- A configuration with another URI for the node at a place. -/
def withUri (config : Config) (place : Nat) (uri : String) : Config :=
  { config with nodes := config.nodes.modify place fun node => { node with uri } }

/-- The same configuration, or the same fault. -/
def SameOutcome (first second : Resolution) : Prop :=
  first.fault = second.fault ∧ (second.fault = none → first.config = second.config)

instance (first second : Resolution) : Decidable (SameOutcome first second) :=
  inferInstanceAs (Decidable (_ ∧ _))

/-- Resolved configurations that are the same but for the ports that `raw` leaves open
from `place` on, which in `again` are lower by the number of those before `place`, and
for the names before it, which in `again` are trimmed where that leaves something. -/
structure SameButPorts (raw : List Node) (place : Nat) (once again : Config) : Prop where
  frame : again = { once with nodes := again.nodes }
  length_eq : again.nodes.length = once.nodes.length
  before : ∀ index < place, again.nodes[index]? = once.nodes[index]?.map withTrimmedName
  behind :
    ∀ index, place ≤ index → ∀ node final : Node, raw[index]? = some node →
      once.nodes[index]? = some final →
        again.nodes[index]? =
          some { final with
            port :=
              if node.port = 0 then final.port - openPorts (raw.take place) else final.port }

/-- How a second run on what a missing URI at `place` left ends, next to a single run on
the nodes `raw`, which have that URI. -/
inductive RetryEnd (raw : List Node) (place : Nat) (once again : Resolution) : Prop
  | missingUri (index : Nat) (stops : once.fault = some (.missingUri index))
      (stopsToo : again.fault = some (.missingUri index))
  | noPortLeft (index : Nat) (base : Int) (stops : once.fault = some (.noPortLeft index base))
      (none_taken : openPorts (raw.take place) = 0) (stopsToo : again.fault = once.fault)
  | portsLeft (index : Nat) (base : Int) (stops : once.fault = some (.noPortLeft index base))
      (taken : 0 < openPorts (raw.take place))
      (farther :
        ∀ fault, again.fault = some fault →
          ∃ later, index < later ∧ fault.place? = some later)
  | resolved (ends : once.fault = none) (endsToo : again.fault = none)
      (same : SameButPorts raw place once.config again.config)

section Passes

variable {tree : FileTree} {config : Config} {mode : String} {front rest : List Node}
  {node : Node}

/-- The nodes that a run settles first. -/
def settledFront (mode : String) (config : Config) (front : List Node) : List Node :=
  settledNodes (nodeSettings (settle mode config)) 0 (firstPort config) front

/-- A run that leaves the nodes `before`, and behind them what the pass over `rest` from
`port` on leaves. -/
structure EndsAfter (mode : String) (config : Config) (before : List Node) (port : Int)
    (rest : List Node) (run : Resolution) : Prop where
  fault_eq :
    run.fault =
      (settleNodes (nodeSettings (settle mode config)) before.length port rest).fault
  config_eq :
    run.config =
      let pass := settleNodes (nodeSettings (settle mode config)) before.length port rest
      { settle mode config with
        nodes := before ++ pass.nodes
        logLevel :=
          if pass.fault = none then orText config.logLevel defaultLogLevel
          else config.logLevel }

/-- Resolving a configuration without a node list file settles its own nodes, the first
ones as long as nothing blocks them. -/
theorem endsAfter_resolve (tree : FileTree) (supported : mode? config.mode = some mode)
    (unset : config.nodesFile = "") (nodes_eq : config.nodes = front ++ node :: rest)
    (clear : ∀ index, ¬ BlockedAt (firstPort config) front index) :
    EndsAfter mode config (settledFront mode config front)
      (firstPort config + openPorts front) (node :: rest) (resolve tree config) := by
  have merged : mergedNodes tree config = .ok config.nodes := by simp [mergedNodes, unset]
  have whole : completed mode config config.nodes = settle mode config := rfl
  have nonempty : (settle mode config).nodes ≠ [] := by
    change config.nodes ≠ []
    simp [nodes_eq]
  have length_eq : (settledFront mode config front).length = front.length :=
    length_settledNodes _ _ _ _
  have passes : settleNodes (nodeSettings (settle mode config)) 0 _ (front ++ node :: rest) = _ :=
    settleNodes_append clear
  rw [← nodes_eq, Nat.zero_add, ← length_eq] at passes
  rw [resolve_of_merged supported merged, whole, resolveNodes_of_nonempty nonempty,
    show settleNodes _ 0 (settle mode config).multiPort.basePort (settle mode config).nodes = _
      from passes]
  constructor <;> rfl

end Passes

section Runs

variable {tree later : FileTree} {config : Config} {mode uri : String} {place : Nat}
  {front rest : List Node} {node : Node}

theorem nodes_withUri (nodes_eq : config.nodes = front ++ node :: rest) :
    (withUri config front.length uri).nodes = front ++ { node with uri } :: rest := by
  have inside : front.length < (front ++ node :: rest).length := by simp
  rw [withUri, nodes_eq, List.modify_eq_take_cons_drop inside]
  simp

theorem exists_parts_of_missingUri (unset : config.nodesFile = "")
    (failed : (resolve tree config).fault = some (.missingUri place)) :
    ∃ mode front node rest,
      mode? config.mode = some mode ∧ config.nodes = front ++ node :: rest ∧
        front.length = place ∧ (∀ index, ¬ BlockedAt (firstPort config) front index) ∧
        (resolve tree config).config =
          { settle mode config with
            nodes := settledFront mode config front ++ trimmedNode node :: rest } := by
  cases (fault_eq_some_iff_firstFault tree config _).mp failed with
  | @missingUri nodes _ node known merged first found blank =>
      obtain ⟨mode, supported⟩ := exists_mode_of_mem known
      obtain rfl : config.nodes = nodes := by simpa [mergedNodes, unset] using merged
      obtain ⟨inside, stands⟩ := List.getElem?_eq_some_iff.mp found
      refine ⟨mode, config.nodes.take place, node, config.nodes.drop (place + 1), supported,
        ?_, ?_, clear_take_of_firstBlocked first, ?_⟩
      · rw [← stands, ← List.drop_eq_getElem_cons inside, List.take_append_drop]
      · rw [List.length_take, Nat.min_eq_left (Nat.le_of_lt inside)]
      · rw [resolve_of_firstBlocked supported merged first found, stoppedNode_of_blank blank]
        rfl

theorem resolved_of_mem_settledFront (inRange : PortsInRange config)
    (portsInRange : ∀ node ∈ front, IsPort node.port)
    (clear : ∀ index, ¬ BlockedAt (firstPort config) front index) :
    ∀ final ∈ settledFront mode config front, final.Resolved := by
  intro final member
  obtain ⟨index, found⟩ := List.mem_iff_getElem?.mp member
  rw [settledFront, getElem?_settledNodes, Option.map_eq_some_iff] at found
  obtain ⟨node, stood, rfl⟩ := found
  rw [Nat.zero_add]
  exact resolved_of_settledFrom inRange (portsInRange node (List.mem_of_getElem? stood))
    (fun blocked => clear index ⟨node, stood, blocked⟩)
    (settledFrom_settledNode mode config front index node)

theorem settledNodes_settledFront
    (resolved : ∀ final ∈ settledFront mode config front, final.Resolved) (port : Int) :
    settledNodes (nodeSettings (settle mode config)) 0 port (settledFront mode config front) =
      (settledFront mode config front).map withTrimmedName := by
  refine settledNodes_of_settled ?_ 0 port
  intro final member
  have final_resolved := resolved final member
  obtain ⟨index, next, node, -, rfl⟩ := exists_eq_settledNode_of_mem member
  exact settledNode_of_resolved final_resolved (credentialsOf_settledNode _ _ _ _)
    eq_name_of_strip_settledNode

theorem endsAfter_resolve_again (later : FileTree) (supported : mode? config.mode = some mode)
    (unset : config.nodesFile = "")
    (resolved : ∀ final ∈ settledFront mode config front, final.Resolved) :
    EndsAfter mode config ((settledFront mode config front).map withTrimmedName)
      (firstPort config) ({ node with uri } :: rest)
      (resolve later
        (withUri
          { settle mode config with
            nodes := settledFront mode config front ++ trimmedNode node :: rest }
          (settledFront mode config front).length uri)) := by
  let left : Config :=
    { settle mode config with
      nodes := settledFront mode config front ++ trimmedNode node :: rest }
  let again : Config := withUri left (settledFront mode config front).length uri
  have settled : settle mode again = { settle mode config with nodes := again.nodes } := by
    change { settle mode (settle mode config) with nodes := again.nodes } = _
    rw [settle_settle]
  have settings_eq : nodeSettings (settle mode again) = nodeSettings (settle mode config) := by
    rw [settled]
    rfl
  have firstPort_eq : firstPort again = firstPort config := by
    change (settle mode again).multiPort.basePort = (settle mode config).multiPort.basePort
    rw [settled]
  have front_eq : settledFront mode again (settledFront mode config front) =
      (settledFront mode config front).map withTrimmedName := by
    rw [settledFront, settings_eq, firstPort_eq, settledNodes_settledFront resolved]
  have nodes_eq : again.nodes =
      settledFront mode config front ++ { trimmedNode node with uri } :: rest :=
    nodes_withUri rfl
  have runs : EndsAfter mode again _ _ _ (resolve later again) :=
    endsAfter_resolve later (mode?_of_supported supported) unset nodes_eq
      (clear_of_resolved resolved)
  -- The settled nodes come with their ports, so the next one is still the first.
  rw [front_eq, firstPort_eq, openPorts_of_resolved resolved, Int.natCast_zero,
    Int.add_zero] at runs
  -- The fault has trimmed the corrected node's name, which a pass does anyway.
  have passes (index : Nat) (port : Int) :
      settleNodes (nodeSettings (settle mode config)) index port
          ({ trimmedNode node with uri } :: rest) =
        settleNodes (nodeSettings (settle mode config)) index port ({ node with uri } :: rest) :=
    settleNodes_cons_congr (Text.strip_strip node.name) rfl
  constructor
  · rw [runs.fault_eq, settings_eq, passes]
  · rw [runs.config_eq, settings_eq, passes, settled]
    rfl

end Runs

/-- A single run on the nodes `raw`, of which it settles the first ones as `before`, and a
second run that keeps these and passes over the others from the first port on. -/
structure TwoRuns (mode : String) (config : Config) (raw before : List Node)
    (once again : Resolution) : Prop where
  within :
    openPorts (raw.take before.length) = 0 ∨
      firstPort config + openPorts (raw.take before.length) ≤ maxPort + 1
  single :
    EndsAfter mode config before (firstPort config + openPorts (raw.take before.length))
      (raw.drop before.length) once
  second :
    EndsAfter mode config (before.map withTrimmedName) (firstPort config)
      (raw.drop before.length) again

theorem firstPort_le_add (config : Config) (nodes : List Node) :
    firstPort config ≤ firstPort config + openPorts nodes := by
  omega

namespace TwoRuns

variable {config : Config} {mode : String} {raw before : List Node} {once again : Resolution}

theorem sameButPorts (runs : TwoRuns mode config raw before once again)
    (ends : once.fault = none) (endsToo : again.fault = none) :
    SameButPorts raw before.length once.config again.config := by
  have onceClear := fault_settleNodes_eq_none_iff.mp (runs.single.fault_eq.symm.trans ends)
  have againClear := fault_settleNodes_eq_none_iff.mp (runs.second.fault_eq.symm.trans endsToo)
  rw [runs.single.config_eq, runs.second.config_eq, settleNodes_of_clear _ _ onceClear,
    settleNodes_of_clear _ _ againClear, List.length_map]
  constructor
  case frame => rfl
  case length_eq => simp
  case before =>
    intro index inside
    have insideToo : index < (before.map withTrimmedName).length := by
      rwa [List.length_map]
    rw [List.getElem?_append_left insideToo, List.getElem?_map, List.getElem?_append_left inside]
  case behind =>
    intro index outside node final given stands
    obtain ⟨offset, rfl⟩ := Nat.exists_eq_add_of_le outside
    rw [← List.getElem?_drop] at given
    rw [List.getElem?_append_right outside, Nat.add_sub_cancel_left, getElem?_settledNodes,
      given, Option.map_some, Option.some.injEq] at stands
    rw [List.getElem?_append_right (by simp), List.length_map, Nat.add_sub_cancel_left,
      getElem?_settledNodes, given, Option.map_some, ← stands]
    by_cases portOpen : node.port = 0
    · simp only [settledNode, orPort, portOpen, ite_true, Option.some.injEq, Node.mk.injEq,
        true_and, and_true]
      omega
    · simp only [settledNode, orPort, portOpen, ite_false]

theorem retryEnd (runs : TwoRuns mode config raw before once again) :
    RetryEnd raw before.length once again := by
  have onceFault := runs.single.fault_eq
  have againFault := runs.second.fault_eq
  have le := firstPort_le_add config (raw.take before.length)
  rw [List.length_map] at againFault
  cases ends : once.fault with
  | none =>
      have clear := fault_settleNodes_eq_none_iff.mp (onceFault.symm.trans ends)
      have endsToo := againFault.trans (fault_settleNodes_eq_none_iff.mpr (clear_of_le le clear))
      exact .resolved ends endsToo (runs.sameButPorts ends endsToo)
  | some fault =>
      have stops := onceFault.symm.trans ends
      obtain ⟨place, -, named⟩ := exists_place_of_fault stops
      cases fault with
      | missingUri index =>
          exact .missingUri index ends (againFault.trans (missingUri_of_le le stops))
      | noPortLeft index base =>
          by_cases untaken : openPorts (raw.take before.length) = 0
          · refine .noPortLeft index base ends untaken ?_
            rw [onceFault, againFault, untaken, Int.natCast_zero, Int.add_zero]
          · refine .portsLeft index base ends (Nat.pos_of_ne_zero untaken) fun fault failed => ?_
            have lt : firstPort config < firstPort config + openPorts (raw.take before.length) := by
              omega
            exact behind_noPortLeft lt (runs.within.resolve_left untaken) stops
              (againFault.symm.trans failed)
      | unsupportedMode _ => cases named
      | nodeList _ _ => cases named
      | noNodes => cases named

theorem sameOutcome_iff (runs : TwoRuns mode config raw before once again)
    (trimmed : ∀ node ∈ before, Text.strip node.name = node.name) :
    SameOutcome again once ↔
      (∃ index, once.fault = some (.missingUri index)) ∨
        openPorts (raw.take before.length) = 0 ∨ openPorts (raw.drop before.length) = 0 := by
  have names_kept : before.map withTrimmedName = before := by
    refine (List.map_congr_left fun node member => ?_).trans (List.map_id before)
    exact withTrimmedName_eq_self (trimmed node member)
  have ended := runs.retryEnd
  obtain ⟨-, single, second⟩ := runs
  rw [names_kept] at second
  constructor
  · rintro ⟨fault_eq, config_eq⟩
    cases ended with
    | missingUri index stops _ => exact .inl ⟨index, stops⟩
    | noPortLeft _ _ _ none_taken _ => exact .inr (.inl none_taken)
    | portsLeft index _ stops _ farther =>
        -- The same fault would be about the same node.
        obtain ⟨later, lt, named⟩ := farther _ (fault_eq.trans stops)
        obtain rfl := Option.some.inj named
        exact absurd lt (Nat.lt_irrefl index)
    | resolved ends endsToo _ =>
        -- The nodes behind are settled alike from both ports.
        have onceClear := fault_settleNodes_eq_none_iff.mp (single.fault_eq.symm.trans ends)
        have againClear := fault_settleNodes_eq_none_iff.mp (second.fault_eq.symm.trans endsToo)
        have nodes_eq := congrArg Config.nodes (config_eq ends)
        rw [single.config_eq, second.config_eq, settleNodes_of_clear _ _ onceClear,
          settleNodes_of_clear _ _ againClear] at nodes_eq
        rcases eq_or_given_of_settledNodes_eq (List.append_cancel_left nodes_eq) with
          ports_eq | given
        · exact .inr (.inl (by omega))
        · exact .inr (.inr given)
  · rintro (⟨index, stops⟩ | untaken)
    · have stopsToo := missingUri_of_le (firstPort_le_add _ _) (single.fault_eq.symm.trans stops)
      refine ⟨?_, fun ends => ?_⟩
      · rw [second.fault_eq, stopsToo, stops]
      · rw [stops] at ends
        cases ends
    · -- The passes are the same, from the same port or from no port at all.
      have passes_eq :
          settleNodes (nodeSettings (settle mode config)) before.length
              (firstPort config + openPorts (raw.take before.length)) (raw.drop before.length) =
            settleNodes (nodeSettings (settle mode config)) before.length (firstPort config)
              (raw.drop before.length) := by
        rcases untaken with none_before | none_behind
        · rw [none_before, Int.natCast_zero, Int.add_zero]
        · exact settleNodes_eq_of_given none_behind
      refine ⟨?_, fun _ => ?_⟩
      · rw [second.fault_eq, single.fault_eq, passes_eq]
      · rw [second.config_eq, single.config_eq, passes_eq]

end TwoRuns

section Retry

variable {config : Config} {place : Nat}

theorem exists_twoRuns (tree later : FileTree) (uri : String) (unset : config.nodesFile = "")
    (inRange : PortsInRange config)
    (failed : (resolve tree config).fault = some (.missingUri place)) :
    let raw := (withUri config place uri).nodes
    ∃ mode, (settledFront mode config (raw.take place)).length = place ∧
      TwoRuns mode config raw (settledFront mode config (raw.take place))
        (resolve later (withUri config place uri))
        (resolve later (withUri (resolve tree config).config place uri)) := by
  -- The nodes before `place` did not block the first run, and the URI is behind them.
  obtain ⟨mode, front, node, rest, supported, nodes_eq, rfl, clear, left_eq⟩ :=
    exists_parts_of_missingUri unset failed
  have raw_eq : (withUri config front.length uri).nodes = front ++ { node with uri } :: rest :=
    nodes_withUri nodes_eq
  have length_eq : (settledFront mode config front).length = front.length :=
    length_settledNodes _ _ _ _
  have portsInRange : ∀ node ∈ front, IsPort node.port := fun node member =>
    inRange.nodes node (nodes_eq ▸ List.mem_append_left _ member)
  have resolved : ∀ final ∈ settledFront mode config front, final.Resolved :=
    resolved_of_mem_settledFront inRange portsInRange clear
  simp only [raw_eq, List.take_left]
  refine ⟨mode, length_eq, ?_, ?_, ?_⟩
  · rw [length_eq, List.take_left]
    exact (clear_iff.mp clear).2
  · rw [length_eq, List.take_left, List.drop_left]
    have single : EndsAfter mode (withUri config front.length uri) _ _ _ _ :=
      endsAfter_resolve later supported unset raw_eq clear
    exact ⟨single.fault_eq, single.config_eq⟩
  · rw [length_eq, List.drop_left, left_eq, ← length_eq]
    exact endsAfter_resolve_again later supported unset resolved

end Retry

/-- Where a missing URI is put in place and the configuration is resolved again, the run
ends as a single one would, but for lower ports from the corrected node on, and it gets
farther where a single run has no port left.  The outcome is the same exactly when a
single run finds another missing URI, or no node before the corrected one takes a port,
or none from it on. -/
theorem retryEnd_of_missingUri (tree later : FileTree) (uri : String) {config : Config}
    {place : Nat} (unset : config.nodesFile = "") (inRange : PortsInRange config)
    (failed : (resolve tree config).fault = some (.missingUri place)) :
    let raw := (withUri config place uri).nodes
    let once := resolve later (withUri config place uri)
    let again := resolve later (withUri (resolve tree config).config place uri)
    RetryEnd raw place once again ∧
      ((∀ node ∈ raw.take place, NamedTidily node) →
        (SameOutcome again once ↔
          (∃ index, once.fault = some (.missingUri index)) ∨
            openPorts (raw.take place) = 0 ∨ openPorts (raw.drop place) = 0)) := by
  intro raw once again
  obtain ⟨mode, length_eq, runs⟩ := exists_twoRuns tree later uri unset inRange failed
  have ended := runs.retryEnd
  have same_iff := runs.sameOutcome_iff
  rw [length_eq] at ended same_iff
  refine ⟨ended, fun tidily => same_iff fun final member => ?_⟩
  obtain ⟨index, port, node, stood, rfl⟩ := exists_eq_settledNode_of_mem member
  exact strip_name_settledNode (tidily node stood)

/-- A pool whose second node has no URI, behind a node that takes the base port. -/
def unfinishedPool : Config :=
  { nodes := [{ uri := "a" }, { uri := " " }, { uri := "c", port := 7 }, { uri := "d" }] }

/-- A pool whose second node has no URI, behind a node that comes with its port. -/
def portedPool : Config :=
  { nodes := [{ uri := "a", port := 7 }, { uri := " " }, { uri := "c" }] }

theorem retryEnd_of_missingUri_pools :
    (resolve .empty unfinishedPool).fault = some (.missingUri 1) ∧
      (∃ final : Node,
        (resolve .empty
          (withUri (resolve .empty unfinishedPool).config 1 "b")).config.nodes[3]? = some final ∧
          final.port = 28001) ∧
      (resolve .empty portedPool).fault = some (.missingUri 1) ∧
      SameOutcome (resolve .empty (withUri (resolve .empty portedPool).config 1 "b"))
        (resolve .empty (withUri portedPool 1 "b")) := by
  have inRange : PortsInRange unfinishedPool :=
    ⟨⟨by decide, by decide⟩, ⟨by decide, by decide⟩, by simp [unfinishedPool, IsPort, maxPort]⟩
  have failed : (resolve .empty unfinishedPool).fault = some (.missingUri 1) := by
    decide +kernel
  have portedInRange : PortsInRange portedPool :=
    ⟨⟨by decide, by decide⟩, ⟨by decide, by decide⟩, by simp [portedPool, IsPort, maxPort]⟩
  have portedFailed : (resolve .empty portedPool).fault = some (.missingUri 1) := by
    decide +kernel
  refine ⟨failed, ?_, portedFailed, ?_⟩
  · have ends : (resolve .empty (withUri unfinishedPool 1 "b")).fault = none := by
      decide +kernel
    have given : (withUri unfinishedPool 1 "b").nodes[3]? = some { uri := "d" } := by
      decide +kernel
    have stands : (resolve .empty (withUri unfinishedPool 1 "b")).config.nodes[3]? =
        some { name := "node-3", uri := "d", port := 28002 } := by decide +kernel
    cases (retryEnd_of_missingUri .empty .empty "b" rfl inRange failed).1 with
    | resolved _ _ same =>
        exact ⟨_, same.behind 3 (by decide) _ _ given stands, by decide +kernel⟩
    | missingUri _ stops _ => rw [ends] at stops; cases stops
    | noPortLeft _ _ stops _ _ => rw [ends] at stops; cases stops
    | portsLeft _ _ stops _ _ => rw [ends] at stops; cases stops
  · have tidily : ∀ node ∈ (withUri portedPool 1 "b").nodes.take 1, NamedTidily node := by
      intro node member
      obtain rfl := List.mem_singleton.mp member
      exact fun _ => by decide +kernel
    have same_iff := (retryEnd_of_missingUri .empty .empty "b" rfl portedInRange portedFailed).2
    exact (same_iff tidily).mpr (.inr (.inl (by decide)))

/-- The base port is handed out twice: the first run gave it to the first node, and the
second run gives it to the corrected one. -/
theorem not_sameOutcome_unfinishedPool :
    unfinishedPool.nodesFile = "" ∧ PortsInRange unfinishedPool ∧ Text.strip "b" ≠ "" ∧
      (resolve .empty unfinishedPool).fault = some (.missingUri 1) ∧
      ((resolve .empty (withUri unfinishedPool 1 "b")).config.nodes.map (·.port)) =
        [28000, 28001, 7, 28002] ∧
      ((resolve .empty (withUri (resolve .empty unfinishedPool).config 1 "b")).config.nodes.map
        (·.port)) = [28000, 28000, 7, 28001] ∧
      ¬ SameOutcome (resolve .empty (withUri (resolve .empty unfinishedPool).config 1 "b"))
        (resolve .empty (withUri unfinishedPool 1 "b")) := by
  refine ⟨rfl, ⟨⟨by decide, by decide⟩, ⟨by decide, by decide⟩, ?_⟩, by decide +kernel,
    by decide +kernel, by decide +kernel, by decide +kernel, by decide +kernel⟩
  simp [unfinishedPool, IsPort, maxPort]

end RelayPool.Config
