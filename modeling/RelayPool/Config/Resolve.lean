import RelayPool.Config.Basic
import RelayPool.NodeList
import RelayPool.Number.Text
import RelayPool.Uri.Basic

/-!
# Resolved configurations

Resolving a configuration settles its mode, fills the open settings of its
sections, appends the nodes of the node list file and gives every node a name,
a port and, with a port for every node, credentials.  Resolving stops at the
first fault, and what was settled before it stays settled.
-/

namespace RelayPool.Config

open Log (Reported Record)

/-- Why a configuration cannot be resolved. -/
inductive ResolveFault
  | unsupportedMode (mode : String)
  | nodeList (path : String) (fault : ReadFault)
  | noNodes
  | missingUri (index : Nat)
  | noPortLeft (index : Nat) (basePort : Int)
  deriving DecidableEq, Repr

/-- The sentence that reports a fault. -/
def ResolveFault.message : ResolveFault → String
  | .unsupportedMode mode =>
      "unsupported mode " ++ Text.quoted mode ++ " (use 'pool' or 'multi-port')"
  | .nodeList path fault =>
      "load nodes from file " ++ Text.quoted path ++ ": " ++ fault.message
  | .noNodes =>
      "config.nodes cannot be empty (configure nodes in config or use nodes_file)"
  | .missingUri index => "node " ++ toString index ++ " is missing uri"
  | .noPortLeft index basePort =>
      "node " ++ toString index ++ ": no port left to assign (base port " ++
        Number.intText basePort ++ ")"

/-- The mode that a name means; the mode with a port for every node may be
written with an underscore, and no name means the pool. -/
def mode? (name : String) : Option String :=
  if name = "" ∨ name = poolMode then some poolMode
  else if name = "multi_port" ∨ name = multiPortMode then some multiPortMode
  else none

/-- A text, or another one in place of the empty text. -/
def orText (text default : String) : String :=
  if text = "" then default else text

/-- A port, or another one in place of zero. -/
def orPort (port default : Int) : Int :=
  if port = 0 then default else port

/-- A listener with nothing open but its credentials. -/
def settleListener (listener : Listener) : Listener :=
  { listener with
    address := orText listener.address defaultAddress
    port := orPort listener.port defaultListenerPort }

/-- A pool with nothing open: what is not positive is replaced. -/
def settlePool (pool : Pool) : Pool :=
  { mode := orText pool.mode defaultPoolMode
    failureThreshold :=
      if pool.failureThreshold ≤ 0 then defaultFailureThreshold
      else pool.failureThreshold
    blacklistDuration :=
      if pool.blacklistDuration.microseconds ≤ 0 then defaultBlacklistDuration
      else pool.blacklistDuration }

/-- The nodes' own ports with nothing open but their credentials. -/
def settleMultiPort (multiPort : MultiPort) : MultiPort :=
  { multiPort with
    address := orText multiPort.address defaultAddress
    basePort := orPort multiPort.basePort defaultBasePort }

/-- A management endpoint with nothing open. -/
def settleManagement (management : Management) : Management :=
  { enabled := some (management.enabled.getD true)
    listen := orText management.listen defaultManagementListen
    probeTarget := orText management.probeTarget defaultProbeTarget }

/-- The configuration with its mode and sections settled. -/
def settle (mode : String) (config : Config) : Config :=
  { config with
    mode
    listener := settleListener config.listener
    multiPort := settleMultiPort config.multiPort
    pool := settlePool config.pool
    management := settleManagement config.management }

/-- The nodes that the node list file adds. -/
def listedNodes (tree : FileTree) (config : Config) :
    Reported ResolveFault (List Node) :=
  if config.nodesFile = "" then pure []
  else do
    let nodes ←
      (NodeList.read tree config.nodesFile).mapFault (.nodeList config.nodesFile)
    Reported.report .config .info
      ("Loaded " ++ toString nodes.length ++ " nodes from " ++ config.nodesFile ++
        " (" ++ toString config.nodes.length ++ " inline)")
    return nodes

/-- Appends the nodes of the node list file. -/
def includeListed (tree : FileTree) (config : Config) :
    Reported ResolveFault Config := do
  let nodes ← listedNodes tree config
  return { config with nodes := config.nodes ++ nodes }

/-- The name of a node: its own, else the one in its URI, else its number. -/
def nodeName (index : Nat) (name uri : String) : String :=
  orText name (orText (Uri.name uri) ("node-" ++ toString index))

/-- What the nodes of a configuration share: the first automatic port, and the
credentials of nodes without a user name where each has a port. -/
structure NodeSettings where
  basePort : Int
  credentials : Option (String × String)
  deriving DecidableEq, Repr

/-- A node with the credentials that it inherits.  They are inherited as a
pair. -/
def NodeSettings.withCredentials (settings : NodeSettings) (node : Node) : Node :=
  match settings.credentials with
  | some (username, password) =>
      if node.username = "" then { node with username, password } else node
  | none => node

/-- A node that is settled, with the next automatic port, or the fault at a
node and the node as the fault leaves it. -/
inductive NodeStep
  | settled (node : Node) (nextPort : Int)
  | stopped (node : Node) (fault : ResolveFault)
  deriving DecidableEq, Repr

/-- Settles the node with the given index, `port` being the next automatic
port. -/
def settleNode (settings : NodeSettings) (index : Nat) (port : Int) (node : Node) :
    NodeStep :=
  let trimmed : Node :=
    { node with name := Text.strip node.name, uri := Text.strip node.uri }
  if trimmed.uri = "" then .stopped trimmed (.missingUri index)
  else
    let named := { trimmed with name := nodeName index trimmed.name trimmed.uri }
    if named.port ≠ 0 then .settled (settings.withCredentials named) port
    else if maxPort < port then .stopped named (.noPortLeft index settings.basePort)
    else .settled (settings.withCredentials { named with port }) (port + 1)

/-- The record of a settled node. -/
def nodeRecord (index : Nat) (node : Node) : Record :=
  ⟨.config, .debug, "Node " ++ toString index ++ ": name=" ++ Text.quoted node.name ++
    " port=" ++ Number.intText node.port⟩

/-- Nodes as far as they are settled, the records made for them, and the fault
that ended the settling. -/
structure NodePass where
  nodes : List Node
  records : List Record
  fault : Option ResolveFault
  deriving DecidableEq, Repr

/-- Settles nodes from the one with the given index on. -/
def settleNodes (settings : NodeSettings) (index : Nat) (port : Int) :
    List Node → NodePass
  | [] => ⟨[], [], none⟩
  | node :: rest =>
      match settleNode settings index port node with
      | .stopped left fault => ⟨left :: rest, [], some fault⟩
      | .settled final next =>
          let pass := settleNodes settings (index + 1) next rest
          ⟨final :: pass.nodes, nodeRecord index final :: pass.records, pass.fault⟩

/-- What the nodes of a settled configuration share. -/
def nodeSettings (config : Config) : NodeSettings :=
  { basePort := config.multiPort.basePort
    credentials :=
      if config.mode = multiPortMode then
        some (config.multiPort.username, config.multiPort.password)
      else none }

/-- The state that resolving leaves, the records made, and the fault that
ended it early. -/
structure Resolution where
  config : Config
  records : List Record
  fault : Option ResolveFault
  deriving DecidableEq, Repr

/-- Settles the nodes and the log level of a configuration whose sections are
settled and whose nodes are all there. -/
def resolveNodes (config : Config) : Resolution :=
  if config.nodes.isEmpty then ⟨config, [], some .noNodes⟩
  else
    let pass :=
      settleNodes (nodeSettings config) 0 config.multiPort.basePort config.nodes
    match pass.fault with
    | some fault => ⟨{ config with nodes := pass.nodes }, pass.records, some fault⟩
    | none =>
        ⟨{ config with
            nodes := pass.nodes
            logLevel := orText config.logLevel defaultLogLevel },
          pass.records, none⟩

/-- Resolves a configuration. -/
def resolve (tree : FileTree) (config : Config) : Resolution :=
  match mode? config.mode with
  | none => ⟨config, [], some (.unsupportedMode config.mode)⟩
  | some mode =>
      let settled := settle mode config
      let included := includeListed tree settled
      match included.outcome with
      | .error fault => ⟨settled, included.records, some fault⟩
      | .ok complete =>
          let resolution := resolveNodes complete
          { resolution with records := included.records ++ resolution.records }

end RelayPool.Config
