import OfflineSite.Proofs.Worker.Run

namespace OfflineSite.Worker

open Cache (Handle Storage)

variable {worker : Worker} {state : State}

theorem installed_of_skips (skips : state.skipsWaiting = true) :
    (worker.installed state).phase = .activated ∧
      (worker.installed state).skipsWaiting = true ∧
      (worker.installed state).controlsClients = true := by
  rw [installed, if_pos skips, activate_eq]
  exact ⟨rfl, skips, rfl⟩

theorem installed_of_waits (waits : state.skipsWaiting = false) :
    worker.installed state = { state with phase := .installed } := by
  rw [installed, if_neg (by simp [waits])]

theorem skipsWaiting_installed (worker : Worker) (state : State) :
    (worker.installed state).skipsWaiting = state.skipsWaiting := by
  cases skips : state.skipsWaiting with
  | true => exact (installed_of_skips skips).2.1
  | false =>
    rw [installed_of_waits skips]
    exact skips

theorem phase_installed_ne (worker : Worker) (state : State) :
    (worker.installed state).phase ≠ .redundant := by
  cases skips : state.skipsWaiting with
  | true => simp [(installed_of_skips skips).1]
  | false => simp [installed_of_waits skips]

/-- A worker that skips waiting from now on is activated if it waits. -/
theorem handle_skipWaiting (worker : Worker) (state : State) :
    (worker.handle .skipWaiting state).state =
      if state.phase = .installed then (worker.activate { state with skipsWaiting := true }).state
      else { state with skipsWaiting := true } := by
  have marked : worker.handle .skipWaiting state =
      Handling.look worker { state with skipsWaiting := true } := rfl
  rw [marked, Handling.look]
  by_cases waits : state.phase = .installed
  · rw [if_pos waits, if_pos waits]
    rfl
  · rw [if_neg waits, if_neg waits]
    rfl

/-- The operations by which the host takes a worker into use. -/
def Operation.Enlists : Operation → Prop
  | .install | .activate => True
  | _ => False

namespace Installation

/-- An installation that awaits answers goes on to its end once it has them. -/
theorem warming_cases (worker : Worker) (state : State) (store : Handle) (slots : List Slot) :
    (warming store slots).run worker state = .quiet (warming store slots) state ∨
      ∃ report, ((warming store slots).run worker state).next = ended report ∧
        ((warming store slots).run worker state).state = worker.installed state := by
  cases waiting : slots.any Slot.isWaiting with
  | true => exact Or.inl (run_of_waiting waiting)
  | false => exact Or.inr ⟨_, run_returned worker state store waiting⟩

theorem starting_cases (worker : Worker) (state : State) :
    (starting.run worker state).state = begun worker state ∧
        (∃ store slots, (starting.run worker state).next = warming store slots) ∨
      (starting.run worker state).state = worker.installed (begun worker state) ∧
        ∃ report, (starting.run worker state).next = ended report := by
  simp only [run_starting]
  rcases warming_cases worker (begun worker state) _ _ with waits | ⟨report, ends, after⟩
  · left
    exact ⟨congrArg (·.state) waits, _, _, congrArg (·.next) waits⟩
  · exact Or.inr ⟨after, report, ends⟩

/-- An answer neither ends an installation nor makes it go on. -/
theorem rests_receive (position : Nat) (answer : Except Failure FetchResponse) (now : Timestamp)
    (state : State) (stage : Installation) :
    (stage.receive position answer now state).next.rests = stage.rests ∧
      (stage.receive position answer now state).next.result? = stage.result? := by
  rcases receive_cases position answer now state stage with ⟨_, idle⟩ |
    ⟨_, _, _, _, _, rfl, _, _, settled, _⟩
  · rw [idle]
    exact ⟨rfl, rfl⟩
  · rw [settled]
    exact ⟨rfl, rfl⟩

theorem eq_warming_of_rests {stage : Installation} (rests : stage.rests)
    (unfinished : stage.result? = none) : ∃ store slots, stage = warming store slots := by
  cases stage with
  | warming store slots => exact ⟨store, slots, rfl⟩
  | ended report => cases unfinished
  | _ => cases rests

end Installation

namespace System

variable {system : System} {operation : Operation} {number : Nat}

/-- All installations await answers or have ended. -/
def Rests (system : System) : Prop :=
  ∀ number stage, system.task? number = some (.installation stage) → stage.rests

/-- Whether a task is an installation that has not ended. -/
def Installing (system : System) (number : Nat) : Prop :=
  ∃ stage, system.task? number = some (.installation stage) ∧ stage.result? = none

/-- An installation that is there after an operation has begun with it, or was there before: as it
is, or as it was before an answer, or before it went on. -/
theorem installation_cases {stage : Installation}
    (there : (system.perform worker operation).task? number = some (.installation stage)) :
    (∃ before, system.task? number = some (.installation before) ∧
        (stage = before ∨
          (∃ position answer now,
            stage = (before.receive position answer now system.state).next) ∨
          stage = (before.run worker system.state).next)) ∨
      operation = .install ∧ number = system.next ∧
        stage = (Installation.starting.run worker system.state).next := by
  generalize same : Task.installation stage = task at there
  cases becomes_of_task? there with
  | kept old => exact Or.inl ⟨stage, same ▸ old, Or.inl rfl⟩
  | @answered _ position answer now task _ old _ =>
    cases task with
    | installation before =>
      exact Or.inl ⟨before, old, Or.inr (Or.inl ⟨_, _, _, Task.installation.inj same⟩)⟩
    | _ => cases same
  | @proceeded _ task old =>
    cases task with
    | installation before =>
      exact Or.inl ⟨before, old, Or.inr (Or.inr (Task.installation.inj same))⟩
    | _ => cases same
  | installation => exact Or.inr ⟨rfl, rfl, Task.installation.inj same⟩
  | _ => cases same

theorem Rests.perform (rests : system.Rests) (operation : Operation) :
    (system.perform worker operation).Rests := by
  intro number stage there
  rcases installation_cases there with ⟨before, old, rfl | ⟨position, answer, now, rfl⟩ | rfl⟩ |
    ⟨_, _, rfl⟩
  · exact rests number stage old
  · rw [(before.rests_receive position answer now system.state).1]
    exact rests number before old
  · exact before.rests_run worker system.state
  · exact Installation.rests_run worker system.state .starting

theorem Rests.after (rests : system.Rests) (operations : List Operation) :
    (system.after worker operations).Rests := by
  induction operations generalizing system with
  | nil => exact rests
  | cons operation rest ih => exact ih (rests.perform operation)

theorem rests_initial (storage : Storage) : (initial storage).Rests :=
  fun _ _ there => by cases there

/-- An installation that has not ended was there before, or it begins. -/
theorem installing_of_perform (installing : (system.perform worker operation).Installing number) :
    system.Installing number ∨ operation = .install ∧ number = system.next := by
  obtain ⟨stage, there, unfinished⟩ := installing
  rcases installation_cases there with ⟨before, old, rfl | ⟨position, answer, now, rfl⟩ | rfl⟩ |
    ⟨begins, new, _⟩
  · exact Or.inl ⟨stage, old, unfinished⟩
  · rw [(before.rests_receive position answer now system.state).2] at unfinished
    exact Or.inl ⟨before, old, unfinished⟩
  · refine Or.inl ⟨before, old, ?_⟩
    cases before with
    | ended report => rwa [Installation.run] at unfinished
    | _ => rfl
  · exact Or.inr ⟨begins, new⟩

/-- An installation goes on being under way where its own steps leave it so. -/
theorem Installing.advance {other : Nat} {step : State → Task → Turn Task}
    (installing : system.Installing number)
    (leaves : ∀ stage, system.task? other = some (.installation stage) → stage.result? = none →
      ∃ further, (step system.state (.installation stage)).next = .installation further ∧
        further.result? = none) :
    (system.advance other step).1.Installing number := by
  obtain ⟨stage, there, unfinished⟩ := installing
  by_cases same : other = number
  · subst same
    obtain ⟨further, next, still⟩ := leaves stage there unfinished
    exact ⟨further, (task?_advance_self there).trans (congrArg some next), still⟩
  · exact ⟨stage, (task?_advance_of_ne same).trans there, unfinished⟩

theorem Installing.answer (installing : system.Installing number) (worker : Worker)
    (other position : Nat) (answer : Except Failure FetchResponse) (now : Timestamp) :
    (system.perform worker (.answer other position answer now)).Installing number := by
  simp only [perform]
  split
  · refine installing.advance fun stage _ unfinished => ⟨_, rfl, ?_⟩
    exact (Installation.rests_receive position answer now system.state stage).2.trans unfinished
  · exact installing

/-- A task that goes on changes nothing, or it is an installation and ends. -/
theorem Rests.proceed_cases (rests : system.Rests) (worker : Worker) (number : Nat) :
    (system.perform worker (.proceed number)).state = system.state ∧
        (∀ other, system.Installing other →
          (system.perform worker (.proceed number)).Installing other) ∨
      system.Installing number ∧ ¬ (system.perform worker (.proceed number)).Installing number ∧
        (system.perform worker (.proceed number)).state = worker.installed system.state := by
  by_cases installing : system.Installing number
  · obtain ⟨stage, present, unfinished⟩ := installing
    obtain ⟨store, slots, rfl⟩ :=
      Installation.eq_warming_of_rests (rests number stage present) unfinished
    have state : (system.perform worker (.proceed number)).state =
        ((Installation.warming store slots).run worker system.state).state := state_advance present
    rw [state]
    rcases Installation.warming_cases worker system.state store slots with waits |
      ⟨report, ends, after⟩
    · refine Or.inl ⟨congrArg (·.state) waits, fun other installing => ?_⟩
      refine installing.advance fun stage there _ => ?_
      obtain rfl := Task.installation.inj (Option.some.inj (present.symm.trans there))
      have same : (Task.proceed worker system.state
          (.installation (.warming store slots))).next = .installation (.warming store slots) := by
        rw [Task.proceed, waits]
        rfl
      exact ⟨_, same, unfinished⟩
    · refine Or.inr ⟨⟨_, present, unfinished⟩, ?_, after⟩
      rintro ⟨stage, there, still⟩
      have further := (task?_advance_self present).symm.trans there
      simp only [Task.proceed, Turn.map, ends] at further
      obtain rfl := Task.installation.inj (Option.some.inj further)
      cases still
  · have idle (stage : Installation) (there : system.task? number = some (.installation stage)) :
        ∃ report, stage = .ended report := by
      cases finished : stage.result? with
      | none => exact absurd ⟨stage, there, finished⟩ installing
      | some report => cases stage <;> cases finished; exact ⟨_, rfl⟩
    refine Or.inl ⟨?_, fun other underWay => ?_⟩
    · cases present : system.task? number with
      | none => simp only [System.perform, System.proceed, System.advance, present]
      | some task =>
        refine (state_advance present).trans ?_
        cases task with
        | installation stage =>
          obtain ⟨report, rfl⟩ := idle stage present
          rw [Task.proceed, Installation.run]
          rfl
        | _ => rfl
    · refine underWay.advance fun stage there unfinished => ?_
      exact absurd ⟨stage, there, unfinished⟩ installing

theorem task?_install (worker : Worker) (system : System) :
    (system.perform worker .install).task? system.next =
      some (.installation (Installation.starting.run worker system.state).next) := by
  simp [perform, install, task?, add, next]

theorem exists_storage_answer (worker : Worker) (system : System) (number position : Nat)
    (answer : Except Failure FetchResponse) (now : Timestamp) :
    ∃ storage, (system.perform worker (.answer number position answer now)).state =
      { system.state with storage } := by
  simp only [perform]
  split
  · next request underWay =>
    obtain ⟨task, present, _⟩ := Option.bind_eq_some_iff.mp underWay
    rw [receive, state_advance present]
    exact task.exists_storage_receive worker position answer now system.state
  · exact ⟨_, rfl⟩

theorem exists_storage_fetch (worker : Worker) (system : System) (request : FetchRequest) :
    ∃ storage, (system.perform worker (.fetch request)).state = { system.state with storage } := by
  rw [state_fetch]
  exact Exchange.exists_storage_start worker request system.state

/-- A message that cannot be read changes nothing. -/
theorem perform_rawMessage_error {raw : ByteArray} {cause : Json.Failure}
    (unread : ControlMessage.parse raw = .error cause) (worker : Worker) (system : System) :
    system.perform worker (.rawMessage raw) = system := by
  simp only [perform, act, handleRaw, unread]

theorem perform_rawMessage_ok {raw : ByteArray} {message : ControlMessage}
    (read : ControlMessage.parse raw = .ok message) (worker : Worker) (system : System) :
    system.perform worker (.rawMessage raw) = system.perform worker (.message message) := by
  simp only [perform, act, handleRaw, read]

/-- A worker that does not wait to be activated is taken into use by the host, or by an
installation that ends; and out of use by the host. -/
theorem Rests.marks_perform (rests : system.Rests) (awake : system.state.phase ≠ .installed)
    (idle : ¬ operation.Enlists)
    (still : ∀ number, system.Installing number →
      (system.perform worker operation).Installing number) :
    operation = .retire ∨
      (system.perform worker operation).state.phase = system.state.phase ∧
        (system.perform worker operation).state.controlsClients =
          system.state.controlsClients := by
  have told (message : ControlMessage) :
      (system.perform worker (.message message)).state.phase = system.state.phase ∧
        (system.perform worker (.message message)).state.controlsClients =
          system.state.controlsClients := by
    cases message with
    | skipWaiting =>
      have state := handle_skipWaiting worker system.state
      rw [if_neg awake] at state
      simp only [System.perform, act, state]
      exact ⟨trivial, trivial⟩
    | clearCache => exact ⟨rfl, rfl⟩
  cases operation with
  | install => exact absurd trivial idle
  | activate => exact absurd trivial idle
  | fetch request =>
    obtain ⟨storage, state⟩ := exists_storage_fetch worker system request
    rw [state]
    exact Or.inr ⟨rfl, rfl⟩
  | message message => exact Or.inr (told message)
  | rawMessage raw =>
    cases read : ControlMessage.parse raw with
    | ok message =>
      rw [perform_rawMessage_ok read]
      exact Or.inr (told message)
    | error cause =>
      rw [perform_rawMessage_error read]
      exact Or.inr ⟨rfl, rfl⟩
  | settle => exact Or.inr ⟨rfl, rfl⟩
  | retire => exact Or.inl rfl
  | answer number position answer now =>
    obtain ⟨storage, state⟩ := exists_storage_answer worker system number position answer now
    rw [state]
    exact Or.inr ⟨rfl, rfl⟩
  | proceed number =>
    rcases rests.proceed_cases worker number with ⟨same, _⟩ | ⟨installing, ended, _⟩
    · rw [same]
      exact Or.inr ⟨rfl, rfl⟩
    · exact absurd (still number installing) ended

end System

end OfflineSite.Worker
