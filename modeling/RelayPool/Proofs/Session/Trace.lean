import RelayPool.Session

/-!
# Runs of a session

A run takes its steps whether they fail or not.  So what holds at every point
of a run follows from what one step keeps, and a step that fails is a step like
any other.
-/

namespace RelayPool.Session

open Log (Reported)

section Steps

variable {ε : Type} {session : Session} {Holds : Config → Prop}

/-- What holds of the configuration and of a result that takes its place holds
after the step. -/
theorem holds_replacing (wrap : ε → StepFault) {result : Reported ε Config}
    (kept : Holds session.config)
    (replaced : ∀ config, result.outcome = .ok config → Holds config) :
    Holds (session.replacing wrap result).session.config := by
  unfold replacing
  split
  · next config succeeded => exact replaced config succeeded
  · exact kept

theorem exists_fault_of_replacing {wrap : ε → StepFault} {result : Reported ε Config}
    {fault : StepFault} (failed : (session.replacing wrap result).outcome = .error fault) :
    ∃ cause, result.outcome = .error cause ∧ wrap cause = fault := by
  unfold replacing at failed
  split at failed
  · cases failed
  · next cause found => exact ⟨cause, found, Except.error.inj failed⟩

theorem step_decode (session : Session) (document : Document) :
    session.step (.decode document) =
      session.replacing .decode (Config.ofDocument document) :=
  rfl

theorem step_load (session : Session) (path : String) :
    session.step (.load path) = session.replacing .load (Config.load session.tree path) :=
  rfl

theorem step_includeListed (session : Session) :
    session.step .includeListed =
      session.replacing .resolve (session.config.includeListed session.tree) :=
  rfl

theorem step_removeNode (session : Session) (index : Int) :
    session.step (.removeNode index) =
      session.withNodes .noNodeToRemove
        ((position? session.config.nodes.length index).map session.config.nodes.eraseIdx) :=
  rfl

theorem step_changeNode (session : Session) (index : Nat) (change : Node → Node) :
    session.step (.changeNode index change) =
      session.withNodes .noNodeToChange
        ((position? session.config.nodes.length index).map fun place =>
          session.config.nodes.modify place change) :=
  rfl

/-- A step on the nodes leaves all else as it was. -/
theorem config_withNodes (session : Session) (fault : StepFault) (nodes : Option (List Node)) :
    (session.withNodes fault nodes).session.config =
      { session.config with nodes := nodes.getD session.config.nodes } := by
  cases nodes <;> rfl

theorem config_step_resolve (session : Session) :
    (session.step .resolve).session.config = (session.config.resolve session.tree).config :=
  rfl

theorem outcome_step_resolve_eq_error_iff {fault : StepFault} :
    (session.step .resolve).outcome = .error fault ↔
      ∃ cause, (session.config.resolve session.tree).fault = some cause ∧
        .resolve cause = fault := by
  delta step
  dsimp only
  cases (session.config.resolve session.tree).fault <;> simp

theorem session_step_summarize (session : Session) :
    (session.step .summarize).session = session := by
  delta step
  dsimp only
  generalize session.config.summary? = shown
  cases shown <;> rfl

end Steps

/-- The steps of a run, each with its report. -/
def trace (session : Session) (steps : List Step) : List (Step × StepReport) :=
  steps.zip (session.run steps)

@[simp]
theorem trace_nil (session : Session) : session.trace [] = [] :=
  rfl

@[simp]
theorem trace_cons (session : Session) (next : Step) (rest : List Step) :
    session.trace (next :: rest) =
      (next, session.step next) :: (session.step next).session.trace rest :=
  rfl

/-- The beginning of a run is a run. -/
theorem take_trace (session : Session) (steps : List Step) (number : Nat) :
    (session.trace steps).take number = session.trace (steps.take number) := by
  induction steps generalizing session number with
  | nil => simp
  | cons next rest ih =>
      cases number with
      | zero => rfl
      | succ number => rw [trace_cons, List.take_succ_cons, List.take_succ_cons, trace_cons, ih]

/-- What every allowed step keeps holds before each step of a run of such
steps. -/
theorem holds_before_of_mem_trace {Holds : Session → Prop} {Allowed : Step → StepReport → Prop}
    (keeps : ∀ {session next}, Holds session → Allowed next (session.step next) →
      Holds (session.step next).session)
    {session : Session} {steps : List Step} (initially : Holds session)
    (allowed : ∀ taken ∈ session.trace steps, Allowed taken.1 taken.2) :
    ∀ next report, (next, report) ∈ session.trace steps →
      ∃ before, Holds before ∧ before.step next = report := by
  induction steps generalizing session with
  | nil => simp
  | cons first rest ih =>
      rw [trace_cons] at allowed ⊢
      obtain ⟨firstAllowed, restAllowed⟩ := List.forall_mem_cons.mp allowed
      intro next report member
      rcases List.mem_cons.mp member with isFirst | later
      · cases isFirst
        exact ⟨session, initially, rfl⟩
      · exact ih (keeps initially firstAllowed) restAllowed next report later

end RelayPool.Session
