import RelayPool.Proofs.Config.PortAssignment
import RelayPool.Proofs.Config.Resolved

/-!
# Resolving twice

What a run has resolved, another run leaves as it is.  Two things are not
final: a name that came from a URI may have white space around it, which
another run takes away unless nothing else is in the name; and the nodes of the
node list file are read and appended once more.
-/

namespace RelayPool.Config

section Nodes

/-- A node whose name has lost the white space around it, unless nothing would
be left. -/
def withTrimmedName (node : Node) : Node :=
  { node with name := orText (Text.strip node.name) node.name }

theorem withTrimmedName_withTrimmedName (node : Node) :
    withTrimmedName (withTrimmedName node) = withTrimmedName node := by
  by_cases blank : Text.strip node.name = "" <;> simp [withTrimmedName, orText, blank]

theorem withTrimmedName_eq_self {node : Node} (trimmed : Text.strip node.name = node.name) :
    withTrimmedName node = node := by
  simp [withTrimmedName, orText, trimmed]

theorem strip_nodeNumber_ne_empty (index : Nat) :
    Text.strip ("node-" ++ toString index) ≠ "" := by
  intro blank
  have letter := (Text.strip_eq_empty_iff _).mp blank 'n' (by simp)
  exact absurd letter (by decide)

/-- A name that is nothing but white space came from the URI. -/
theorem eq_name_of_strip_nodeName {index : Nat} {name uri : String}
    (blank : Text.strip (nodeName index (Text.strip name) uri) = "") :
    Uri.name uri = nodeName index (Text.strip name) uri := by
  by_cases own : Text.strip name = ""
  · by_cases carried : Uri.name uri = ""
    · simp only [nodeName, orText, own, carried, ite_true] at blank
      exact absurd blank (strip_nodeNumber_ne_empty index)
    · simp [nodeName, orText, own, carried]
  · simp [nodeName, orText, own] at blank

theorem eq_name_of_strip_settledNode {settings : NodeSettings} {index : Nat} {port : Int}
    {node : Node} (blank : Text.strip (settledNode settings index port node).name = "") :
    Uri.name (settledNode settings index port node).uri =
      (settledNode settings index port node).name := by
  simp only [settledNode] at blank ⊢
  exact eq_name_of_strip_nodeName blank

theorem credentialsOf_settledNode (settings : NodeSettings) (index : Nat) (port : Int)
    (node : Node) :
    settings.credentialsOf (settledNode settings index port node) =
      settings.credentialsOf node := by
  obtain ⟨basePort, shared⟩ := settings
  by_cases unnamed : node.username = ""
  · cases shared with
    | none => simp [settledNode, NodeSettings.credentialsOf, unnamed]
    | some pair => simp [settledNode, NodeSettings.credentialsOf, unnamed]
  · simp [settledNode, NodeSettings.credentialsOf, unnamed]

/-- Settling a node once more that has its credentials, and a name that its URI
gives again if it is blank, trims the name. -/
theorem settledNode_of_resolved {settings : NodeSettings} {node : Node}
    (resolved : node.Resolved)
    (credentials_eq : settings.credentialsOf node = (node.username, node.password))
    (name_eq_of_blank : Text.strip node.name = "" → Uri.name node.uri = node.name)
    (index : Nat) (port : Int) :
    settledNode settings index port node = withTrimmedName node := by
  have given : node.port ≠ 0 := by
    have bindable := resolved.port_bindable.1
    omega
  -- A name that trimming would empty is found in the URI once more.
  have name_eq : nodeName index (Text.strip node.name) node.uri =
      orText (Text.strip node.name) node.name := by
    by_cases blank : Text.strip node.name = ""
    · simp [nodeName, orText, blank, name_eq_of_blank blank, resolved.name_ne_empty]
    · simp [nodeName, orText, blank]
  simp only [settledNode, credentials_eq, resolved.uri_trimmed, name_eq, orPort, given,
    ite_false, withTrimmedName]

theorem settledNodes_of_settled {settings : NodeSettings} {nodes : List Node}
    (settled :
      ∀ node ∈ nodes, ∀ index port, settledNode settings index port node = withTrimmedName node)
    (index : Nat) (port : Int) :
    settledNodes settings index port nodes = nodes.map withTrimmedName := by
  refine List.ext_getElem? fun place => ?_
  rw [getElem?_settledNodes, List.getElem?_map]
  cases found : nodes[place]? with
  | none => simp only [Option.map_none]
  | some node => simp only [Option.map_some, settled node (List.mem_of_getElem? found)]

theorem openPorts_of_resolved {nodes : List Node} (resolved : ∀ node ∈ nodes, node.Resolved) :
    openPorts nodes = 0 := by
  rw [openPorts, List.countP_eq_zero]
  intro node member
  have bindable := (resolved node member).port_bindable.1
  simp only [decide_eq_true_eq]
  omega

theorem clear_of_resolved {port : Int} {nodes : List Node}
    (resolved : ∀ node ∈ nodes, node.Resolved) (index : Nat) :
    ¬ BlockedAt port nodes index := by
  refine clear_iff.mpr ⟨fun node member => ?_, .inl (openPorts_of_resolved resolved)⟩ index
  rw [(resolved node member).uri_trimmed]
  exact (resolved node member).uri_ne_empty

end Nodes

/-- A resolved configuration in which every node has the credentials that it
inherits, and a name that is nothing but white space is the one in the node's
URI. -/
structure Stable (config : Config) : Prop where
  resolved : config.Resolved
  credentials_eq :
    ∀ node ∈ config.nodes,
      (nodeSettings config).credentialsOf node = (node.username, node.password)
  name_eq_of_blank :
    ∀ node ∈ config.nodes, Text.strip node.name = "" → Uri.name node.uri = node.name

section Runs

variable {tree : FileTree} {config : Config}

theorem portsInRange_of_resolved (resolved : config.Resolved) : PortsInRange config where
  listener := isPort_of_isBindable resolved.listenerPort_bindable
  multiPort := isPort_of_isBindable resolved.basePort_bindable
  nodes node member := isPort_of_isBindable (resolved.nodes_resolved node member).port_bindable

theorem stable_of_resolve (inRange : PortsInRange config)
    (success : (resolve tree config).fault = none) : (resolve tree config).config.Stable := by
  obtain ⟨mode, raw, resolvable⟩ := exists_resolvable_of_success success
  have resolved := resolved_of_resolve inRange success
  rw [(resolve_of_resolvable resolvable).1] at resolved ⊢
  refine ⟨resolved, ?_, ?_⟩
  · intro final member
    obtain ⟨place, port, node, -, rfl⟩ := exists_eq_settledNode_of_mem member
    exact credentialsOf_settledNode (nodeSettings (completed mode config raw)) _ _ node
  · intro final member
    obtain ⟨place, port, node, -, rfl⟩ := exists_eq_settledNode_of_mem member
    exact eq_name_of_strip_settledNode

theorem mode?_of_resolved (resolved : config.Resolved) :
    mode? config.mode = some config.mode := by
  rcases resolved.mode_known with known | known <;> rw [known] <;> decide

/-- The mode and the sections of a resolved configuration are settled. -/
theorem settle_of_resolved (resolved : config.Resolved) :
    settle config.mode config = config := by
  have listener : settleListener config.listener = config.listener := by
    have port := resolved.listenerPort_bindable.1
    simp only [settleListener, orText, orPort, resolved.listenerAddress_ne_empty, ite_false]
    rw [if_neg (by omega)]
  have multiPort : settleMultiPort config.multiPort = config.multiPort := by
    have port := resolved.basePort_bindable.1
    simp only [settleMultiPort, orText, orPort, resolved.multiPortAddress_ne_empty, ite_false]
    rw [if_neg (by omega)]
  have pool : settlePool config.pool = config.pool := by
    have threshold := resolved.failureThreshold_pos
    have duration := resolved.blacklistDuration_pos
    simp only [settlePool, orText, resolved.poolMode_ne_empty, ite_false]
    rw [if_neg (by omega), if_neg (by omega)]
  have management : settleManagement config.management = config.management := by
    obtain ⟨enabled, settled⟩ := Option.ne_none_iff_exists'.mp resolved.enabled_settled
    simp only [settleManagement, orText, resolved.listen_ne_empty,
      resolved.probeTarget_ne_empty, ite_false, settled, Option.getD_some]
    rw [← settled]
  rw [settle, listener, multiPort, pool, management]

theorem firstPort_of_resolved (resolved : config.Resolved) :
    firstPort config = config.multiPort.basePort := by
  have port := resolved.basePort_bindable.1
  rw [firstPort, if_neg (by omega)]

/-- Settling a node of a stable configuration once more trims its name. -/
theorem settledNode_of_stable (stable : config.Stable) {node : Node}
    (member : node ∈ config.nodes) (index : Nat) (port : Int) :
    settledNode (nodeSettings config) index port node = withTrimmedName node :=
  settledNode_of_resolved (stable.resolved.nodes_resolved node member)
    (stable.credentials_eq node member) (stable.name_eq_of_blank node member) index port

theorem openPorts_of_stable (stable : config.Stable) : openPorts config.nodes = 0 :=
  openPorts_of_resolved stable.resolved.nodes_resolved

theorem settledNodes_of_stable (stable : config.Stable) (index : Nat) (port : Int) :
    settledNodes (nodeSettings config) index port config.nodes =
      config.nodes.map withTrimmedName :=
  settledNodes_of_settled (fun _ member => settledNode_of_stable stable member) index port

/-- A run on a stable configuration trims the names and appends the nodes of the
node list file, which take the ports from the base port on. -/
theorem resolve_of_stable (stable : config.Stable) {listed : List Node}
    (found : (listedNodes tree config).outcome = .ok listed)
    (present : ∀ node ∈ listed, Text.strip node.uri ≠ "")
    (suffice : PortsSuffice config.multiPort.basePort listed) :
    (resolve tree config).fault = none ∧
      (resolve tree config).config =
        { config with
          nodes :=
            config.nodes.map withTrimmedName ++
              settledNodes (nodeSettings config) config.nodes.length
                config.multiPort.basePort listed } := by
  have resolved := stable.resolved
  have clear : ∀ place,
      ¬ BlockedAt (firstPort config) (config.nodes ++ listed) place := by
    refine clear_iff.mpr ⟨?_, ?_⟩
    · intro node member
      rcases List.mem_append.mp member with settled | fromList
      · have final := resolved.nodes_resolved node settled
        rw [final.uri_trimmed]
        exact final.uri_ne_empty
      · exact present node fromList
    · have none_open := openPorts_of_stable stable
      rw [firstPort_of_resolved resolved, PortsSuffice, openPorts, List.countP_append]
      rw [openPorts] at none_open
      rw [none_open, Nat.zero_add]
      exact suffice
  have resolvable : Resolvable tree config config.mode (config.nodes ++ listed) :=
    ⟨mode?_of_resolved resolved, mergedNodes_eq_ok_iff.mpr ⟨listed, found, rfl⟩,
      fun empty => resolved.nodes_ne_nil (List.append_eq_nil_iff.mp empty).1, clear⟩
  have settled : completed config.mode config (config.nodes ++ listed) =
      { config with nodes := config.nodes ++ listed } := by
    rw [completed, settle_of_resolved resolved]
  have nodes_eq :
      settledNodes (nodeSettings config) 0 (firstPort config) (config.nodes ++ listed) =
        config.nodes.map withTrimmedName ++
          settledNodes (nodeSettings config) config.nodes.length config.multiPort.basePort
            listed := by
    rw [firstPort_of_resolved resolved, settledNodes_append, settledNodes_of_stable stable,
      openPorts_of_stable stable, Int.natCast_zero, Int.add_zero, Nat.zero_add]
  have level : orText config.logLevel defaultLogLevel = config.logLevel := by
    rw [orText, if_neg resolved.logLevel_ne_empty]
  refine ⟨(resolve_of_resolvable resolvable).2, ?_⟩
  rw [(resolve_of_resolvable resolvable).1, resolvedConfig, settled, level, ← nodes_eq]
  rfl

end Runs

/-- What a run makes of a node of the node list file when it appends the file
to a configuration that was resolved before: `place` counts all nodes, and
`number` those of the file. -/
structure Appended (resolved : Config) (place number : Nat) (node final : Node) : Prop where
  uri_eq : final.uri = node.uri
  name_eq : final.name = firstText [Uri.name node.uri, "node-" ++ toString place]
  port_eq : final.port = resolved.multiPort.basePort + number
  credentials_eq :
    (final.username, final.password) =
      if resolved.mode = multiPortMode then
        (resolved.multiPort.username, resolved.multiPort.password)
      else ("", "")

/-- How a run that follows another one changes the configuration `first` that
the other one has resolved, `listed` being the nodes of the node list file. -/
structure ResolvedAgain (first second : Config) (listed : List Node) : Prop where
  frame : second = { first with nodes := second.nodes }
  length_eq : second.nodes.length = first.nodes.length + listed.length
  kept :
    ∀ (place : Nat) (node : Node), first.nodes[place]? = some node →
      second.nodes[place]? =
        some { node with
          name := if Text.strip node.name = "" then node.name else Text.strip node.name }
  appended :
    ∀ (number : Nat) (node : Node), listed[number]? = some node →
      ∃ final, second.nodes[first.nodes.length + number]? = some final ∧
        Appended first (first.nodes.length + number) number node final

section Listed

variable {tree : FileTree} {config : Config} {listed : List Node}

/-- The nodes of the node list file can be settled from the base port on when
they could be settled behind others. -/
theorem suffice_of_clear_append {port : Int} {nodes : List Node}
    (clear : ∀ place, ¬ BlockedAt port (nodes ++ listed) place) :
    (∀ node ∈ listed, Text.strip node.uri ≠ "") ∧ PortsSuffice port listed := by
  obtain ⟨present, suffice⟩ := clear_iff.mp clear
  refine ⟨fun node member => present node (List.mem_append_right nodes member), ?_⟩
  simp only [PortsSuffice, openPorts, List.countP_append] at suffice ⊢
  omega

theorem appended_settledNode (found : (listedNodes tree config).outcome = .ok listed)
    {first : Config} {place number : Nat} {node : Node} (member : listed[number]? = some node) :
    Appended first place number node
      (settledNode (nodeSettings first) place
        (first.multiPort.basePort + openPorts (listed.take number)) node) := by
  have inside : number < listed.length := (List.getElem?_eq_some_iff.mp member).1
  obtain ⟨plain, trimmed⟩ := eq_uri_of_mem_listed found (List.mem_of_getElem? member)
  rw [openPorts_take_of_listed found (Nat.le_of_lt inside), plain]
  refine ⟨trimmed, ?_, rfl, ?_⟩
  · have unnamed : Text.strip "" = "" := by decide
    simp only [settledNode, nodeName_eq_firstText, trimmed, unnamed]
    simp [firstText]
  · by_cases eachPort : first.mode = multiPortMode <;>
      simp [settledNode, NodeSettings.credentialsOf, nodeSettings, eachPort]

theorem resolvedAgain_trimmed_append
    (found : (listedNodes tree config).outcome = .ok listed) (first : Config) :
    ResolvedAgain first
      { first with
        nodes :=
          first.nodes.map withTrimmedName ++
            settledNodes (nodeSettings first) first.nodes.length first.multiPort.basePort
              listed }
      listed where
  frame := rfl
  length_eq := by rw [List.length_append, List.length_map, length_settledNodes]
  kept place node stood := by
    have inside : place < (first.nodes.map withTrimmedName).length := by
      rw [List.length_map]
      exact (List.getElem?_eq_some_iff.mp stood).1
    rw [List.getElem?_append_left inside, List.getElem?_map, stood]
    rfl
  appended number node member := by
    refine ⟨_, ?_, appended_settledNode found member⟩
    rw [List.getElem?_append_right (by simp), List.length_map, Nat.add_sub_cancel_left,
      getElem?_settledNodes, member, Option.map_some]

/-- Without a node list file, a run on a stable configuration whose names are
trimmed changes nothing. -/
theorem resolve_of_trimmed (stable : config.Stable) (unset : config.nodesFile = "")
    (trimmed : config.nodes.map withTrimmedName = config.nodes) :
    (resolve tree config).fault = none ∧ (resolve tree config).config = config := by
  have nothing : (listedNodes tree config).outcome = .ok [] := by simp [listedNodes, unset]
  obtain ⟨succeeds, result⟩ := resolve_of_stable stable nothing (by simp) (.inl rfl)
  refine ⟨succeeds, ?_⟩
  rw [result, settledNodes_nil, List.append_nil, trimmed]

end Listed

/-- A second run, with the node list file unchanged, succeeds as the first one
did.  It keeps all but the names of the nodes, which it trims, and appends the
nodes of the node list file once more.  Without such a file a third run changes
nothing. -/
theorem resolvedAgain_of_resolve (tree again : FileTree) {config : Config}
    (inRange : PortsInRange config) (success : (resolve tree config).fault = none)
    (unchanged : again.read config.nodesFile = tree.read config.nodesFile) :
    let first := (resolve tree config).config
    let second := (resolve again first).config
    (resolve again first).fault = none ∧
      (∃ listed, (listedNodes tree config).outcome = .ok listed ∧
        ResolvedAgain first second listed) ∧
      (config.nodesFile = "" →
        second.nodes.length = first.nodes.length ∧
          ∀ later : FileTree,
            (resolve later second).fault = none ∧ (resolve later second).config = second) := by
  intro first second
  obtain ⟨mode, raw, resolvable⟩ := exists_resolvable_of_success success
  obtain ⟨listed, found, rfl⟩ := mergedNodes_eq_ok_iff.mp resolvable.merged
  have first_eq : first = resolvedConfig mode config (config.nodes ++ listed) :=
    (resolve_of_resolvable resolvable).1
  have basePort : first.multiPort.basePort = firstPort config := by
    rw [first_eq]
    rfl
  have nodesFile : first.nodesFile = config.nodesFile := by
    rw [first_eq]
    rfl
  have stable : first.Stable := stable_of_resolve inRange success
  obtain ⟨present, suffice⟩ := suffice_of_clear_append resolvable.clear
  rw [← basePort] at suffice
  have listedAgain := (outcome_listedNodes_congr nodesFile unchanged).trans found
  obtain ⟨succeeds, second_eq⟩ := resolve_of_stable stable listedAgain present suffice
  have again_eq : ResolvedAgain first second listed := by
    rw [show second = _ from second_eq]
    exact resolvedAgain_trimmed_append found first
  refine ⟨succeeds, ⟨listed, found, again_eq⟩, fun unset => ?_⟩
  have nothing := listed_eq_nil_of_unset unset found
  have stableAgain : second.Stable :=
    stable_of_resolve (portsInRange_of_resolved stable.resolved) succeeds
  have nodes_eq : second.nodes = first.nodes.map withTrimmedName := by
    rw [show second = _ from second_eq, nothing, settledNodes_nil, List.append_nil]
  refine ⟨by rw [nodes_eq, List.length_map], fun later => resolve_of_trimmed stableAgain ?_ ?_⟩
  · rw [again_eq.frame]
    exact nodesFile.trans unset
  · rw [nodes_eq, List.map_map]
    exact List.map_congr_left fun node _ => withTrimmedName_withTrimmedName node

/-- A pool with a node list file and a node whose URI carries a name with white
space around it. -/
def listedPool : Config :=
  { nodesFile := "n", nodes := [{ uri := "s://h:1#%20Rome%20" }] }

theorem resolvedAgain_of_resolve_listedPool :
    (resolve lastPortTree listedPool).fault = none ∧
      (∃ listed,
        ResolvedAgain (resolve lastPortTree listedPool).config
          (resolve (lastPortTree.remove "c.yaml")
            (resolve lastPortTree listedPool).config).config listed ∧
          listed = [{ uri := "s://h:2#Oslo" }]) ∧
      ((resolve (lastPortTree.remove "c.yaml")
        (resolve lastPortTree listedPool).config).config.nodes.map
          fun node => (node.name, node.port)) =
        [("Rome", 28000), ("Oslo", 28001), ("Oslo", 28000)] ∧
      mixedPool.nodesFile = "" ∧
      (resolve .empty (resolve .empty (resolve .empty mixedPool).config).config).config =
        (resolve .empty (resolve .empty mixedPool).config).config := by
  have inRange : PortsInRange listedPool :=
    ⟨⟨by decide, by decide⟩, ⟨by decide, by decide⟩, by simp [listedPool, IsPort, maxPort]⟩
  have success : (resolve lastPortTree listedPool).fault = none := by decide +kernel
  obtain ⟨-, ⟨listed, found, again⟩, -⟩ :=
    resolvedAgain_of_resolve lastPortTree (lastPortTree.remove "c.yaml") inRange success
      (by decide +kernel)
  have contents : (listedNodes lastPortTree listedPool).outcome.toOption =
      some [{ uri := "s://h:2#Oslo" }] := by decide +kernel
  rw [found] at contents
  have mixedInRange : PortsInRange mixedPool :=
    ⟨⟨by decide, by decide⟩, ⟨by decide, by decide⟩, by simp [mixedPool, IsPort, maxPort]⟩
  have mixedSuccess : (resolve .empty mixedPool).fault = none := by decide +kernel
  obtain ⟨-, -, third⟩ :=
    resolvedAgain_of_resolve .empty .empty mixedInRange mixedSuccess rfl
  exact ⟨success, ⟨listed, again, Option.some.inj contents⟩, by decide +kernel, rfl,
    ((third rfl).2 .empty).2⟩

end RelayPool.Config
