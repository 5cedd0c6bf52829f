import RelayPool.Node
import RelayPool.Time.Span

/-!
# Configurations

The settings of a relay pool: the listener that clients use, the addresses of
the nodes' own ports, how the pool schedules nodes, the management endpoint
and the nodes themselves.  An empty text, a zero and an absent truth value
stand for a setting that is still open.
-/

namespace RelayPool

/-- The listener that serves clients in pool mode. -/
structure Listener where
  address : String := ""
  port : Int := 0
  username : String := ""
  password : String := ""
  deriving DecidableEq, Repr, Inhabited

/-- The address and credentials of the nodes' own ports.  Automatic ports
start at `basePort` in every mode. -/
structure MultiPort where
  address : String := ""
  basePort : Int := 0
  username : String := ""
  password : String := ""
  deriving DecidableEq, Repr, Inhabited

/-- How nodes are scheduled, and for how long a node rests after
`failureThreshold` failures in a row. -/
structure Pool where
  mode : String := ""
  failureThreshold : Int := 0
  blacklistDuration : TimeSpan := .zero
  deriving DecidableEq, Repr, Inhabited

/-- The management endpoint. -/
structure Management where
  enabled : Option Bool := none
  listen : String := ""
  probeTarget : String := ""
  deriving DecidableEq, Repr, Inhabited

/-- All settings.  `source` is the path of the file they were loaded from. -/
structure Config where
  mode : String := ""
  listener : Listener := {}
  multiPort : MultiPort := {}
  pool : Pool := {}
  management : Management := {}
  nodes : List Node := []
  nodesFile : String := ""
  logLevel : String := ""
  source : Option String := none
  deriving DecidableEq, Repr, Inhabited

namespace Config

/-- The mode with one listener for all nodes. -/
def poolMode : String := "pool"

/-- The mode with a port for every node. -/
def multiPortMode : String := "multi-port"

/-- The greatest port. -/
def maxPort : Int := 65535

/-- Where ports are bound when no address is given. -/
def defaultAddress : String := "0.0.0.0"

/-- The port of the listener when none is given. -/
def defaultListenerPort : Int := 2323

/-- The scheduling when none is given. -/
def defaultPoolMode : String := "sequential"

/-- The failures after which a node rests when no positive count is given. -/
def defaultFailureThreshold : Int := 3

/-- The rest of a node when no positive one is given. -/
def defaultBlacklistDuration : TimeSpan := .ofHours 24

/-- The first automatic port when none is given. -/
def defaultBasePort : Int := 28000

/-- Where the management endpoint listens when no address is given. -/
def defaultManagementListen : String := "127.0.0.1:9090"

/-- What nodes are probed with when no target is given. -/
def defaultProbeTarget : String := "www.apple.com:80"

/-- The log level when none is given. -/
def defaultLogLevel : String := "info"

/-- The management endpoint runs unless it is switched off. -/
def managementEnabled (config : Config) : Bool :=
  config.management.enabled.getD true

end Config

end RelayPool
