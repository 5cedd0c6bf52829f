/-!
# Nodes

One relay endpoint of the pool.
-/

namespace RelayPool

/-- A node by its address.  A port of zero is still to be assigned, and an
empty name is still to be derived. -/
structure Node where
  name : String := ""
  uri : String := ""
  port : Int := 0
  username : String := ""
  password : String := ""
  deriving DecidableEq, Repr, Inhabited

end RelayPool
