import OfflineSite.Proofs.Cache.Storage
import OfflineSite.Worker.Activation

namespace OfflineSite.Worker

open Cache (Key Storage)
open Cache.Storage (Changes)

variable {deletes : String → Prop} {puts : Key → FetchResponse → Prop} {worker : Worker}

namespace Activation

/-- The stores that an activation is still to look at. -/
def targets : Activation → List String
  | deleting names _ => names
  | _ => []

theorem mem_targets_step {state : State} {activation : Activation} {name : String}
    (listed : name ∈ (activation.step worker state).next.targets) :
    name ∈ activation.targets ∨ name ≠ worker.version := by
  cases activation with
  | listing =>
    have other := (List.mem_filter.mp listed).2
    exact Or.inr (by simpa using other)
  | deleting names deleted =>
    cases names with
    | nil => cases listed
    | cons first rest =>
      simp only [step] at listed
      split at listed <;> exact Or.inl (List.mem_cons_of_mem first listed)
  | _ => cases listed

theorem step_changes (state : State) {activation : Activation}
    (may : ∀ name ∈ activation.targets, deletes name) :
    Changes worker.version deletes puts state.storage
      (activation.step worker state).state.storage := by
  cases activation with
  | deleting names deleted =>
    cases names with
    | nil => exact .refl _
    | cons name names =>
      simp only [step]
      split
      · exact .delete state.storage (may name (List.mem_cons_self ..))
      · exact .refl _
  | _ => exact .refl _

/-- What every step keeps holds at the end. -/
theorem run_induction (worker : Worker) {motive : State → Activation → Prop}
    (step : ∀ state activation, motive state activation →
      motive (activation.step worker state).state (activation.step worker state).next)
    {state : State} {activation : Activation} (start : motive state activation) :
    motive (activation.run worker state).state (ended (activation.run worker state).next) := by
  induction state, activation using run.induct worker with
  | case1 state activation deleted finished =>
    have atEnd : activation = ended deleted := by
      cases activation <;> simp_all [result?]
    subst atEnd
    rw [run]
    exact start
  | case2 state activation unfinished ih =>
    have further := ih (step state activation start)
    rw [run]
    split
    · next finished => simp [unfinished] at finished
    · exact further

theorem run_changes (others : ∀ name, name ≠ worker.version → deletes name) (state : State)
    {activation : Activation} (may : ∀ name ∈ activation.targets, deletes name) :
    Changes worker.version deletes puts state.storage
      (activation.run worker state).state.storage := by
  refine (run_induction worker (motive := fun later activation =>
    Changes worker.version deletes puts state.storage later.storage ∧
      ∀ name ∈ activation.targets, deletes name) ?_ ⟨.refl _, may⟩).1
  intro later activation ⟨changes, may⟩
  refine ⟨changes.trans (step_changes later may), fun name listed => ?_⟩
  exact (mem_targets_step listed).elim (may name) (others name)

theorem run_step {state : State} {activation : Activation}
    (unfinished : activation.result? = none) :
    activation.run worker state =
      ((activation.step worker state).next.run worker (activation.step worker state).state).after
        (activation.step worker state).notices := by
  rw [run]
  split
  · next finished => simp [unfinished] at finished
  · rfl

theorem run_ended (worker : Worker) (state : State) (deleted : List String) :
    (ended deleted).run worker state = .quiet deleted state := by
  rw [run]
  rfl

/-- With nothing in between, the stores listed are deleted one by one. -/
theorem run_deleting (worker : Worker) (state : State) (names deleted : List String)
    (distinct : names.Nodup) (present : ∀ name ∈ names, state.storage.contains name) :
    (deleting names deleted).run worker state =
      ⟨deleted ++ names,
        { state with
          phase := .activated
          controlsClients := true
          storage := names.foldl Storage.delete state.storage },
        names.map .storeDeleted⟩ := by
  induction names generalizing state deleted with
  | nil =>
    rw [run_step rfl, run_step rfl, run_step rfl]
    simp [step, run_ended, Turn.quiet, Turn.after]
  | cons name names ih =>
    obtain ⟨first, rest⟩ := List.nodup_cons.mp distinct
    have here : state.storage.contains name := present name (List.mem_cons_self ..)
    rw [run_step rfl]
    simp only [step, here, if_true]
    rw [ih _ _ rest]
    · simp [Turn.after]
    · intro other member
      have different : name ≠ other := fun same => first (same ▸ member)
      have there := present other (List.mem_cons_of_mem name member)
      rw [Storage.contains_eq_isSome] at there ⊢
      rwa [Storage.find?_delete, if_neg different]

end Activation

theorem activate_changes (others : ∀ name, name ≠ worker.version → deletes name)
    (state : State) :
    Changes worker.version deletes puts state.storage (worker.activate state).state.storage :=
  Activation.run_changes others state fun _ listed => by cases listed

/-- The stores that an activation deletes. -/
def outdated (worker : Worker) (storage : Storage) : List String :=
  storage.keys.filter (· != worker.version)

theorem activate_eq (worker : Worker) (state : State) :
    worker.activate state =
      ⟨worker.outdated state.storage,
        { state with
          phase := .activated
          controlsClients := true
          storage := (worker.outdated state.storage).foldl Storage.delete state.storage },
        .activating worker.version :: (worker.outdated state.storage).map .storeDeleted⟩ := by
  have distinct := state.storage.nodup_keys.filter (· != worker.version)
  have present : ∀ name ∈ worker.outdated state.storage, state.storage.contains name := by
    intro name member
    rw [Storage.contains_eq_isSome]
    exact Storage.mem_keys.mp (List.mem_filter.mp member).1
  rw [activate, Activation.run_step rfl, Activation.run_step rfl]
  simp only [Activation.step, Turn.quiet]
  rw [Activation.run_deleting worker { state with phase := .activating } _ _ distinct present]
  simp [Turn.after, outdated]

/-- After an activation there is no store but the current one. -/
theorem find?_activate (worker : Worker) (state : State) (name : String) :
    (worker.activate state).state.storage.find? name =
      if name = worker.version then state.storage.find? name else none := by
  rw [activate_eq, Storage.find?_foldl_delete]
  by_cases current : name = worker.version
  · simp [outdated, current]
  · cases found : state.storage.find? name with
    | none => simp [current]
    | some handle =>
      have listed : name ∈ worker.outdated state.storage := by
        simp [outdated, current, Storage.mem_keys, found]
      simp [listed, current]

end OfflineSite.Worker
