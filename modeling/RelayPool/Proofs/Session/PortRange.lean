import RelayPool.Proofs.Config.PortRange
import RelayPool.Proofs.Session.Trace

/-!
# Ports in a session

A session that starts with nothing configured only ever holds ports that are in
range, as long as none is assigned past the checks.  Resolving may end halfway,
be taken up again on what it left and be mixed with other steps.  As the ports
are in range, they can be shown wherever the records and faults of resolving
name them, so resolving fails with nothing but faults of the configuration.
-/

namespace RelayPool.Session

open Config (FaultKind IsPort LoadFault PortsInRange)

/-- The kinds of faults that callers tell apart. -/
def StepFault.kind : StepFault → FaultKind
  | .decode fault => (LoadFault.decode fault).kind
  | .load fault => fault.kind
  | .resolve fault => (LoadFault.resolve fault).kind
  | .tooManyDigits | .noNodeToRemove | .noNodeToChange => .foreign

/-- A step that assigns nothing, and adds no node whose port is out of range. -/
def Step.Checked : Step → Prop
  | .assign _ | .changeNode _ _ => False
  | .addNode node => IsPort node.port
  | _ => True

/-- A step that resolves the configuration, or includes the nodes of its node
list file. -/
def Step.Resolves : Step → Prop
  | .resolve | .includeListed => True
  | _ => False

section Steps

variable {session : Session} {next : Step}

/-- A checked step keeps the ports in range, whether it fails or not. -/
theorem portsInRange_step (inRange : PortsInRange session.config) (checked : next.Checked) :
    PortsInRange (session.step next).session.config := by
  cases next with
  | renew => exact Config.portsInRange_empty
  | decode document =>
      rw [step_decode]
      exact holds_replacing _ inRange fun _ => Config.portsInRange_of_ofDocument
  | load path =>
      rw [step_load]
      exact holds_replacing _ inRange fun _ => Config.portsInRange_of_load
  | write path entry => exact inRange
  | remove path => exact inRange
  | assign change => exact checked.elim
  | addNode node =>
      refine inRange.withNodes ?_
      intro member isNode
      rcases List.mem_append.mp isNode with earlier | added
      · exact inRange.nodes member earlier
      · obtain rfl := List.mem_singleton.mp added
        exact checked
  | removeNode index =>
      rw [step_removeNode, config_withNodes]
      refine inRange.withNodes ?_
      cases position? session.config.nodes.length index with
      | none => exact inRange.nodes
      | some place =>
          exact fun node kept => inRange.nodes node (List.mem_of_mem_eraseIdx kept)
  | changeNode index change => exact checked.elim
  | resolve => exact inRange.resolve session.tree
  | includeListed =>
      rw [step_includeListed]
      exact holds_replacing _ inRange fun _ => inRange.includeListed
  | summarize => rwa [session_step_summarize]
  | askEnabled => exact inRange

theorem kind_of_resolves {fault : StepFault} (resolves : next.Resolves)
    (failed : (session.step next).outcome = .error fault) : fault.kind = .configuration := by
  cases next with
  | resolve =>
      obtain ⟨cause, -, rfl⟩ := outcome_step_resolve_eq_error_iff.mp failed
      rfl
  | includeListed =>
      rw [step_includeListed] at failed
      obtain ⟨cause, -, rfl⟩ := exists_fault_of_replacing failed
      rfl
  | _ => exact resolves.elim

end Steps

/-- Along every run of checked steps all ports are in range and can be shown,
and resolving fails with nothing but faults of the configuration. -/
theorem portsInRange_of_run (tree : FileTree) (steps : List Step)
    (checked : ∀ next ∈ steps, next.Checked) :
    PortsInRange (start tree).config ∧
      ∀ next report, (next, report) ∈ (start tree).trace steps →
        PortsInRange report.session.config ∧
          (∀ port ∈ report.session.config.ports,
            Number.intText? port = some (Number.intText port)) ∧
          (next.Resolves →
            ∀ fault, report.outcome = .error fault → fault.kind = .configuration) := by
  have initially : PortsInRange (start tree).config := Config.portsInRange_empty
  have allowed : ∀ taken ∈ (start tree).trace steps, taken.1.Checked :=
    fun taken member => checked taken.1 (List.of_mem_zip member).1
  refine ⟨initially, fun next report member => ?_⟩
  obtain ⟨before, inRange, rfl⟩ :=
    @holds_before_of_mem_trace (fun session => PortsInRange session.config)
      (fun next _ => next.Checked) portsInRange_step _ _ initially allowed next report member
  have after := portsInRange_step inRange (allowed _ member)
  refine ⟨after, fun port isPort => ?_, fun resolves fault => kind_of_resolves resolves⟩
  exact Config.intText?_of_isPort (Config.portsInRange_iff.mp after port isPort)

/-- The last port is left for the first of two nodes, and the other one blocks
resolving until it is removed. -/
def lastPortSteps : List Step :=
  [.decode (.map
      [(.text "multi_port", .map [(.text "base_port", .int 65535)]),
        (.text "nodes",
          .list [.map [(.text "uri", .text "a")], .map [(.text "uri", .text "b")]])]),
    .resolve, .removeNode 1, .addNode { uri := " c ", port := 7 }, .resolve,
    .load "absent", .addNode { uri := " " }, .resolve]

theorem portsInRange_of_run_lastPortSteps :
    let taken := (start .empty).trace lastPortSteps
    (∀ next ∈ lastPortSteps, next.Checked) ∧
      taken.map (·.2.outcome.isOk) = [true, false, true, true, true, false, true, false] ∧
      taken.map (·.2.session.config.ports) =
        [[0, 65535, 0, 0], [2323, 65535, 65535, 0], [2323, 65535, 65535],
          [2323, 65535, 65535, 7], [2323, 65535, 65535, 7], [2323, 65535, 65535, 7],
          [2323, 65535, 65535, 7, 0], [2323, 65535, 65535, 7, 0]] ∧
      ∀ next report, (next, report) ∈ taken →
        PortsInRange report.session.config ∧
          (next.Resolves →
            ∀ fault, report.outcome = .error fault → fault.kind = .configuration) := by
  have checked : ∀ next ∈ lastPortSteps, next.Checked := by
    simp [lastPortSteps, Step.Checked, IsPort, Config.maxPort]
  refine ⟨checked, by decide +kernel, by decide +kernel, fun next report member => ?_⟩
  obtain ⟨inRange, -, kind⟩ :=
    (portsInRange_of_run .empty lastPortSteps checked).2 next report member
  exact ⟨inRange, kind⟩

end RelayPool.Session
