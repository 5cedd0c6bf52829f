import RelayPool.Proofs.Config.ResolveFaults

/-!
# Resolved nodes

What becomes of each node when a configuration is resolved, as a formula in the
node itself, its place, and the nodes before it.  Only the port looks at those
other nodes, and only at how many of them had an open port.
-/

namespace RelayPool.Config

/-- The first of some texts that is not empty. -/
def firstText (texts : List String) : String :=
  (texts.find? fun text => text ≠ "").getD ""

theorem nodeName_eq_firstText (index : Nat) (name uri : String) :
    nodeName index name uri =
      firstText [name, Uri.name uri, "node-" ++ toString index] := by
  simp only [nodeName, orText, firstText, List.find?_cons, List.find?_nil]
  by_cases ownName : name = ""
  · by_cases uriName : Uri.name uri = "" <;> simp [ownName, uriName]
  · simp [ownName]

/-- How a node of a resolved configuration comes from the node that stood at
its place among the merged nodes `raw`. -/
structure SettledFrom (config resolved : Config) (raw : List Node) (index : Nat)
    (node final : Node) : Prop where
  uri_eq : final.uri = Text.strip node.uri
  name_eq :
    final.name =
      firstText [Text.strip node.name, Uri.name (Text.strip node.uri),
        "node-" ++ toString index]
  port_eq :
    final.port =
      if node.port ≠ 0 then node.port
      else firstPort config + openPorts (raw.take index)
  credentials_eq :
    (final.username, final.password) =
      if resolved.mode = multiPortMode ∧ node.username = "" then
        (config.multiPort.username, config.multiPort.password)
      else (node.username, node.password)

theorem credentialsOf_completed (mode : String) (config : Config) (raw : List Node)
    (node : Node) :
    (nodeSettings (completed mode config raw)).credentialsOf node =
      if mode = multiPortMode ∧ node.username = "" then
        (config.multiPort.username, config.multiPort.password)
      else (node.username, node.password) := by
  simp only [NodeSettings.credentialsOf, nodeSettings, completed, settle, settleMultiPort]
  by_cases eachPort : mode = multiPortMode <;> by_cases unnamed : node.username = "" <;>
    simp [eachPort, unnamed]

theorem settledFrom_settledNode (mode : String) (config : Config) (raw : List Node)
    (index : Nat) (node : Node) :
    SettledFrom config (resolvedConfig mode config raw) raw index node
      (settledNode (nodeSettings (completed mode config raw)) index
        (firstPort config + openPorts (raw.take index)) node) where
  uri_eq := rfl
  name_eq := nodeName_eq_firstText index _ _
  port_eq := by
    by_cases portOpen : node.port = 0 <;> simp [settledNode, orPort, portOpen]
  credentials_eq := credentialsOf_completed mode config raw node

/-- Resolving keeps the merged nodes in their order and settles each of them:
the URI is trimmed, the name is the first that is not empty of its own, the one
in its URI and its number, an open port is the next one that no node before it
took, and credentials are inherited in multi-port mode only. -/
theorem settledFrom_of_resolve (tree : FileTree) (config : Config)
    (success : (resolve tree config).fault = none) :
    ∃ raw, mergedNodes tree config = .ok raw ∧
      (resolve tree config).config.nodes.length = raw.length ∧
      ∀ index node, raw[index]? = some node →
        ∃ final, (resolve tree config).config.nodes[index]? = some final ∧
          SettledFrom config (resolve tree config).config raw index node final := by
  obtain ⟨mode, raw, resolvable⟩ := exists_resolvable_of_success success
  rw [(resolve_of_resolvable resolvable).1]
  refine ⟨raw, resolvable.merged, length_settledNodes _ _ _ _, ?_⟩
  intro index node found
  refine ⟨_, ?_, settledFrom_settledNode mode config raw index node⟩
  rw [resolvedConfig, getElem?_settledNodes, found, Nat.zero_add]
  rfl

/-- A pool with a port for every node: one node that has all it needs, and one
that takes its name, its port and its credentials from elsewhere. -/
def mixedPool : Config :=
  { mode := "multi_port"
    multiPort := { username := "u", password := "p" }
    nodes :=
      [{ name := "own", uri := "s://h:1", port := 700, username := "a" },
        { uri := " s://h:2#Oslo%2B1 ", password := "q" }] }

theorem settledFrom_of_resolve_mixedPool :
    (resolve .empty mixedPool).fault = none ∧
      ∃ final, (resolve .empty mixedPool).config.nodes[1]? = some final ∧
        final.uri = "s://h:2#Oslo%2B1" ∧ final.name = "Oslo 1" ∧ final.port = 28000 ∧
          (final.username, final.password) = ("u", "p") := by
  have success : (resolve .empty mixedPool).fault = none := by decide +kernel
  obtain ⟨raw, merged, -, each⟩ := settledFrom_of_resolve .empty mixedPool success
  obtain rfl : mixedPool.nodes = raw := Except.ok.inj merged
  obtain ⟨final, found, settled⟩ := each 1 _ rfl
  refine ⟨success, final, found, settled.uri_eq.trans ?_, settled.name_eq.trans ?_,
    settled.port_eq.trans ?_, settled.credentials_eq.trans ?_⟩ <;> decide +kernel

end RelayPool.Config
