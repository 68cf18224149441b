import OfflineSite.Worker.Basic

namespace OfflineSite.Worker

/-- Where an activation stands, with the stores it still has to look at and those it deleted. -/
inductive Activation where
  | starting
  | listing
  | deleting (names deleted : List String)
  | claiming (deleted : List String)
  | ending (deleted : List String)
  | ended (deleted : List String)
  deriving Repr, DecidableEq

namespace Activation

/-- The next step. A store that is gone when its turn comes was deleted by someone else. -/
def step (worker : Worker) (state : State) : Activation → Turn Activation
  | starting => ⟨listing, { state with phase := .activating }, [.activating worker.version]⟩
  | listing => .quiet (deleting (state.storage.keys.filter (· != worker.version)) []) state
  | deleting [] deleted => .quiet (claiming deleted) state
  | deleting (name :: names) deleted =>
    if state.storage.contains name then
      ⟨deleting names (deleted ++ [name]), { state with storage := state.storage.delete name },
        [.storeDeleted name]⟩
    else .quiet (deleting names deleted) state
  | claiming deleted => .quiet (ending deleted) { state with controlsClients := true }
  | ending deleted => .quiet (ended deleted) { state with phase := .activated }
  | ended deleted => .quiet (ended deleted) state

/-- How many kinds of steps are still to come. -/
def rank : Activation → Nat
  | starting => 5
  | listing => 4
  | deleting _ _ => 3
  | claiming _ => 2
  | ending _ => 1
  | ended _ => 0

/-- How many stores are still to be looked at. -/
def pending : Activation → Nat
  | deleting names _ => names.length
  | _ => 0

/-- The stores that an activation deleted, once it has ended. -/
def result? : Activation → Option (List String)
  | ended deleted => some deleted
  | _ => none

/-- Every step leads to a later kind of step, or leaves fewer stores to look at. -/
theorem step_lt (worker : Worker) (state : State) {activation : Activation}
    (unfinished : activation.result? = none) :
    Prod.Lex (· < ·) (· < ·)
      ((activation.step worker state).next.rank, (activation.step worker state).next.pending)
      (activation.rank, activation.pending) := by
  cases activation with
  | ended deleted => simp [result?] at unfinished
  | deleting names deleted =>
    cases names with
    | nil => exact Prod.Lex.left _ _ (by simp [step, rank, Turn.quiet])
    | cons name names =>
      by_cases present : state.storage.contains name
      · simp only [step, present, if_true]
        exact Prod.Lex.right _ (Nat.lt_succ_self _)
      · simp only [step, present, if_false, Bool.false_eq_true]
        exact Prod.Lex.right _ (Nat.lt_succ_self _)
  | _ => exact Prod.Lex.left _ _ (by simp [step, rank, Turn.quiet])

/-- Takes the steps that are left with nothing in between. The stores deleted are the result. -/
def run (worker : Worker) (state : State) (activation : Activation) : Turn (List String) :=
  match _unfinished : activation.result? with
  | some deleted => .quiet deleted state
  | none =>
    (run worker (activation.step worker state).state (activation.step worker state).next).after
      (activation.step worker state).notices
  termination_by (activation.rank, activation.pending)
  decreasing_by exact step_lt worker state ‹_›

end Activation

/-- Activates the worker. -/
def activate (worker : Worker) (state : State) : Turn (List String) :=
  Activation.starting.run worker state

end OfflineSite.Worker
