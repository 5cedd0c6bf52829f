import RelayPool.Proofs.Config.PortAssignment

/-!
# Passes from different ports

The next automatic port is all that a pass carries from node to node, so behind nodes
that do not block it a pass goes on as one of its own.  From a smaller port a pass gets
as far or farther: it finds the same missing URIs, and it runs out of ports later, if
at all.
-/

namespace RelayPool.Config

/-- The place of the node that a fault is about. -/
def ResolveFault.place? : ResolveFault → Option Nat
  | .missingUri place => some place
  | .noPortLeft place _ => some place
  | .unsupportedMode _ => none
  | .nodeList _ _ => none
  | .noNodes => none

section Pass

variable {settings : NodeSettings} {index place : Nat} {port other : Int} {node : Node}
  {nodes first second : List Node}

theorem fault_settleNodes_eq_none_iff :
    (settleNodes settings index port nodes).fault = none ↔
      ∀ place, ¬ BlockedAt port nodes place := by
  constructor
  · intro ends place blocked
    obtain ⟨first, firstBlocked⟩ := exists_firstBlocked blocked
    obtain ⟨node, found, -⟩ := firstBlocked.1
    rw [settleNodes_of_firstBlocked settings index firstBlocked found] at ends
    cases ends
  · intro clear
    rw [settleNodes_of_clear settings index clear]

theorem settleNodes_cons_of_blocked (blocked : Blocked port node) :
    (settleNodes settings index port (node :: nodes)).fault =
      some (stopFault settings index node) := by
  rw [settleNodes, settleNode_of_blocked blocked]

theorem settleNodes_cons_of_not_blocked (free : ¬ Blocked port node) :
    settleNodes settings index port (node :: nodes) =
      let rest := settleNodes settings (index + 1) (port + openPorts [node]) nodes
      let settled := settledNode settings index port node
      ⟨settled :: rest.nodes, nodeRecord index settled :: rest.records, rest.fault⟩ := by
  rw [settleNodes, settleNode_of_not_blocked free]

/-- Behind nodes that do not block it, a pass goes on as one of its own. -/
theorem settleNodes_append (clear : ∀ place, ¬ BlockedAt port first place) :
    settleNodes settings index port (first ++ second) =
      let before := settledNodes settings index port first
      let rest := settleNodes settings (index + first.length) (port + openPorts first) second
      ⟨before ++ rest.nodes, nodeRecords index before ++ rest.records, rest.fault⟩ := by
  induction first generalizing index port with
  | nil => simp
  | cons node others ih =>
      obtain ⟨free, othersClear⟩ := clear_cons_iff.mp clear
      rw [List.cons_append, settleNodes_cons_of_not_blocked free, ih othersClear,
        settledNodes_cons, openPorts_cons node others, List.length_cons]
      simp only [nodeRecords_cons, List.cons_append, Int.natCast_add, Int.add_assoc,
        Nat.add_assoc, Nat.add_comm 1]

theorem settleNodes_cons_congr {other : Node}
    (name_eq : Text.strip node.name = Text.strip other.name)
    (same : node = { other with name := node.name }) :
    settleNodes settings index port (node :: nodes) =
      settleNodes settings index port (other :: nodes) := by
  rw [same]
  simp only [settleNodes, settleNode, name_eq]

theorem exists_place_of_fault {fault : ResolveFault}
    (failed : (settleNodes settings index port nodes).fault = some fault) :
    ∃ place, index ≤ place ∧ fault.place? = some place := by
  induction nodes generalizing index port with
  | nil => cases failed
  | cons node rest ih =>
      by_cases blocked : Blocked port node
      · rw [settleNodes_cons_of_blocked blocked] at failed
        obtain rfl := Option.some.inj failed
        refine ⟨index, Nat.le_refl index, ?_⟩
        by_cases missing : Text.strip node.uri = "" <;>
          simp [stopFault, missing, ResolveFault.place?]
      · rw [settleNodes_cons_of_not_blocked blocked] at failed
        obtain ⟨place, behind, named⟩ := ih failed
        exact ⟨place, by omega, named⟩

theorem Blocked.mono (le : port ≤ other) (blocked : Blocked port node) : Blocked other node :=
  blocked.imp_right fun ⟨portOpen, exhausted⟩ => ⟨portOpen, by omega⟩

theorem clear_of_le (le : port ≤ other) (clear : ∀ place, ¬ BlockedAt other nodes place) :
    ∀ place, ¬ BlockedAt port nodes place := by
  rintro place ⟨node, found, blocked⟩
  exact clear place ⟨node, found, blocked.mono (by omega)⟩

/-- A missing URI that a pass finds is found from every smaller port. -/
theorem missingUri_of_le (le : port ≤ other)
    (missing : (settleNodes settings index other nodes).fault = some (.missingUri place)) :
    (settleNodes settings index port nodes).fault = some (.missingUri place) := by
  induction nodes generalizing index port other with
  | nil => cases missing
  | cons node rest ih =>
      by_cases blocked : Blocked other node
      · rw [settleNodes_cons_of_blocked blocked] at missing
        have blank : Text.strip node.uri = "" := by
          by_contra present
          simp [stopFault, present] at missing
        rw [settleNodes_cons_of_blocked (.inl blank), missing]
      · have free : ¬ Blocked port node := fun blockedToo => blocked (blockedToo.mono le)
        rw [settleNodes_cons_of_not_blocked blocked] at missing
        rw [settleNodes_cons_of_not_blocked free]
        exact ih (by omega) missing

/-- A pass that runs out of ports gets farther from a smaller port. -/
theorem behind_noPortLeft {base : Int} (lt : port < other) (within : other ≤ maxPort + 1)
    (exhausted : (settleNodes settings index other nodes).fault =
      some (.noPortLeft place base))
    {fault : ResolveFault}
    (failed : (settleNodes settings index port nodes).fault = some fault) :
    ∃ later, place < later ∧ fault.place? = some later := by
  induction nodes generalizing index port other with
  | nil => cases exhausted
  | cons node rest ih =>
      by_cases blocked : Blocked other node
      · rw [settleNodes_cons_of_blocked blocked] at exhausted
        have present : Text.strip node.uri ≠ "" := by
          intro blank
          simp [stopFault, blank] at exhausted
        obtain rfl : index = place := by
          simp only [stopFault, present, ite_false, Option.some.injEq,
            ResolveFault.noPortLeft.injEq] at exhausted
          exact exhausted.1
        -- The next port is the one behind the greatest here, so a smaller one is left.
        have free : ¬ Blocked port node := by
          rintro (blank | ⟨-, exhaustedToo⟩)
          · exact present blank
          · omega
        rw [settleNodes_cons_of_not_blocked free] at failed
        exact exists_place_of_fault failed
      · have free : ¬ Blocked port node := fun blockedToo => blocked (blockedToo.mono (Int.le_of_lt lt))
        rw [settleNodes_cons_of_not_blocked blocked] at exhausted
        rw [settleNodes_cons_of_not_blocked free] at failed
        refine ih (by omega) ?_ exhausted failed
        by_cases portOpen : node.port = 0
        · have available : ¬ maxPort < other := fun beyond => blocked (.inr ⟨portOpen, beyond⟩)
          rw [openPorts_singleton_of_eq portOpen]
          omega
        · rw [openPorts_singleton_of_ne portOpen]
          omega

end Pass

section Ports

variable {settings : NodeSettings} {index : Nat} {port other : Int} {nodes : List Node}

theorem settleNodes_eq_of_given (given : openPorts nodes = 0) :
    settleNodes settings index port nodes = settleNodes settings index other nodes := by
  induction nodes generalizing index port other with
  | nil => rfl
  | cons node rest ih =>
      rw [openPorts_cons, Nat.add_eq_zero_iff] at given
      have ownPort : node.port ≠ 0 := fun portOpen => by
        rw [openPorts_singleton_of_eq portOpen] at given
        cases given.1
      have later : settleNodes settings (index + 1) port rest =
          settleNodes settings (index + 1) other rest := ih given.2
      simp only [settleNodes, settleNode, ownPort, ne_eq, not_false_eq_true, ite_true]
      by_cases missing : Text.strip node.uri = "" <;>
        simp only [missing, ite_true, ite_false, later]

theorem eq_or_given_of_settledNodes_eq
    (same : settledNodes settings index port nodes = settledNodes settings index other nodes) :
    port = other ∨ openPorts nodes = 0 := by
  -- The first node that takes a port shows which port the pass began with.
  have assigned := congrArg (assignedPorts nodes) same
  rw [assignedPorts_settledNodes, assignedPorts_settledNodes] at assigned
  cases count : openPorts nodes with
  | zero => exact .inr rfl
  | succ more =>
      rw [count, Nat.add_comm, consecutivePorts_one_add, consecutivePorts_one_add] at assigned
      exact .inl (List.cons.inj assigned).1

end Ports

end RelayPool.Config
