import OfflineSite.Proofs.Worker.Overlap

namespace OfflineSite.Worker

variable {worker : Worker}

/-- A message that will see to it that the worker is activated, if it waits. -/
def Handling.Heeds : Handling → Prop
  | looking => True
  | activating stage => stage = .starting
  | _ => False

theorem Handling.step_ne_clearing (worker : Worker) (state : State) (handling : Handling) :
    (handling.step worker state).next ≠ .clearing := by
  cases handling with
  | looking =>
    simp only [step, Turn.quiet]
    split <;> simp
  | activating stage => cases stage <;> simp [step, Turn.quiet, Turn.map]
  | _ => simp [step, Turn.quiet]

/-- Within an installation or a message, an activation that is under way is what takes the step. -/
theorem Handling.step_activating (worker : Worker) (state : State) {activation : Activation}
    (unfinished : activation.result? = none) :
    (activating activation).step worker state = (activation.step worker state).map activating := by
  cases activation with
  | ended deleted => cases unfinished
  | _ => rfl

theorem Installation.step_activating (worker : Worker) (state : State) (report : InstallReport)
    {activation : Activation} (unfinished : activation.result? = none) :
    (activating report activation).step worker state =
      (activation.step worker state).map (activating report) := by
  cases activation with
  | ended deleted => cases unfinished
  | _ => rfl

namespace Interleaving

variable {begun : Bool} {now later : Interleaving} {stage following : Installation} {number : Nat}
  {handling : Handling}

/-- What an interleaving becomes when its one installation takes a step. -/
structure StageStep (worker : Worker) (now later : Interleaving) (stage : Installation) : Prop where
  tasks : later.system.tasks = [.installation (stage.step worker now.state).next]
  state : later.state = (stage.step worker now.state).state
  threads : later.threads = now.threads
  stages : later.activation? =
    Function.update now.activation? (.task 0) (stage.step worker now.state).next.activation?
  under : now.activation? (.task 0) = stage.activation?

/-- What an interleaving becomes when the handling of a message takes a step. -/
structure HandlingStep (worker : Worker) (now later : Interleaving) (number : Nat)
    (handling : Handling) : Prop where
  present : now.threads[number]? = some (.handling handling)
  tasks : later.system.tasks = now.system.tasks
  state : later.state = (handling.step worker now.state).state
  threads : later.threads = now.threads.set number (.handling (handling.step worker now.state).next)
  stages : later.activation? = Function.update now.activation? (.thread number)
    (Thread.handling (handling.step worker now.state).next).activation?

theorem stageStep (worker : Worker) (alone : now.system.tasks = [.installation stage]) :
    StageStep worker now (now.next worker (.step (.task 0))) stage := by
  have present : now.system.task? 0 = some (.installation stage) := by
    rw [System.task?, alone]
    rfl
  refine ⟨?_, next_task present, rfl, activation?_step_task present, ?_⟩
  · have tasks : (now.next worker (.step (.task 0))).system.tasks = now.system.tasks.set 0
        ((Task.installation stage).step worker now.state).next := System.tasks_advance present
    rw [alone] at tasks
    exact tasks
  · rw [activation?, present]
    rfl

theorem handlingStep (worker : Worker)
    (present : now.threads[number]? = some (.handling handling)) :
    HandlingStep worker now (now.next worker (.step (.thread number))) number handling := by
  refine ⟨present, ?_, next_thread present, ?_, activation?_step_thread present⟩
  · simp only [next, present]
  · simp only [next, present]
    rfl

theorem StageStep.idle (step : StageStep worker now later stage)
    (outside : stage.activation? = none)
    (stays : (stage.step worker now.state).next.activation? = none) :
    later.activation? = now.activation? := by
  rw [step.stages, stays, ← outside, ← step.under, Function.update_eq_self]

theorem HandlingStep.under (step : HandlingStep worker now later number handling) :
    now.activation? (.thread number) = (Thread.handling handling).activation? := by
  rw [activation?, step.present]
  rfl

theorem HandlingStep.idle (step : HandlingStep worker now later number handling)
    (outside : (Thread.handling handling).activation? = none)
    (stays : (Thread.handling (handling.step worker now.state).next).activation? = none) :
    later.activation? = now.activation? := by
  rw [step.stages, stays, ← outside, ← step.under, Function.update_eq_self]

theorem HandlingStep.lt_length (step : HandlingStep worker now later number handling) :
    number < now.threads.length :=
  (List.getElem?_eq_some_iff.mp step.present).1

theorem HandlingStep.placed (step : HandlingStep worker now later number handling) :
    later.threads[number]? = some (.handling (handling.step worker now.state).next) := by
  rw [step.threads, List.getElem?_set_self step.lt_length]

/-- The state of an interleaving of one installation with messages to skip waiting. -/
structure Waking (worker : Worker) (begun : Bool) (now : Interleaving) (stage : Installation) :
    Prop where
  tasks : now.system.tasks = if begun then [.installation stage] else []
  unbegun (unbegun : begun = false) : stage = .starting
  messages {number : Nat} {thread : Thread} (present : now.threads[number]? = some thread) :
    ∃ handling, thread = .handling handling ∧ handling ≠ .clearing
  coherent : Coherent now.state now.activation?
  filling (early : 3 ≤ stage.rank) : now.state.phase = .parsed ∨ now.state.phase = .installing
  filled (late : stage.rank < 3) : now.state.phase = .installed ∨ now.state.phase = .activating ∨
    now.state.phase = .activated
  /-- A mark that the installation did not see is seen to by a message. -/
  heeded (waiting : now.state.phase = .installed) (marked : now.state.skipsWaiting = true)
    (ended : stage.rank = 0) :
    ∃ (number : Nat) (handling : Handling),
      now.threads[number]? = some (.handling handling) ∧ handling.Heeds
  unmarked (unmarked : now.state.skipsWaiting = false) :
    now.state.phase ≠ .activated ∧
      (stage.rank ≤ 4 → worker.config.skipWaitingOnInstall = false) ∧
      (∀ place, now.activation? place = none) ∧
      ∀ (number : Nat) thread, now.threads[number]? = some thread → thread = .handling .marking
  reason (marked : now.state.skipsWaiting = true) :
    worker.config.skipWaitingOnInstall = true ∨ now.threads ≠ []

namespace Waking

theorem of_same (waking : Waking worker begun now stage) (state : later.state = now.state)
    (tasks : later.system.tasks = now.system.tasks) (threads : later.threads = now.threads) :
    Waking worker begun later stage := by
  obtain ⟨⟨⟨laterState, laterTasks⟩, _⟩, laterThreads⟩ := later
  obtain ⟨⟨⟨_, _⟩, _⟩, _⟩ := now
  obtain rfl : laterState = _ := state
  obtain rfl : laterTasks = _ := tasks
  obtain rfl : laterThreads = _ := threads
  exact ⟨waking.tasks, waking.unbegun, waking.messages, waking.coherent, waking.filling,
    waking.filled, waking.heeded, waking.unmarked, waking.reason⟩

/-- There is no activation while the store is being filled. -/
theorem vacant (waking : Waking worker begun now stage) (early : 3 ≤ stage.rank) (place : Place) :
    now.activation? place = none := by
  cases there : now.activation? place with
  | none => rfl
  | some activation =>
    have late := waking.coherent.late there
    rcases waking.filling early with phase | phase <;> simp [phase] at late

theorem unclaimed (waking : Waking worker begun now stage) (early : 3 ≤ stage.rank) :
    now.state.controlsClients = false := by
  have phase := waking.filling early
  refine waking.coherent.unclaimed ?_ ?_ <;> rcases phase with phase | phase <;> simp [phase]

theorem marked (waking : Waking worker begun now stage) {place : Place} {activation : Activation}
    (there : now.activation? place = some activation) : now.state.skipsWaiting = true := by
  cases mark : now.state.skipsWaiting with
  | true => rfl
  | false =>
    have none := (waking.unmarked mark).2.2.1 place
    exact absurd (none.symm.trans there) (by simp)

theorem marked_of_ne (waking : Waking worker begun now stage)
    (present : now.threads[number]? = some (.handling handling)) (stepped : handling ≠ .marking) :
    now.state.skipsWaiting = true := by
  cases mark : now.state.skipsWaiting with
  | true => rfl
  | false =>
    have marking := (waking.unmarked mark).2.2.2 number _ present
    exact absurd (Thread.handling.inj marking) stepped

/-- Once there is a mark, a message that goes on leaves what is known as it was if it keeps the
phase, or has the worker activating or activated. -/
theorem of_handling (waking : Waking worker begun now stage)
    (step : HandlingStep worker now later number handling)
    (mark : later.state.skipsWaiting = true) (coherent : Coherent later.state later.activation?)
    (phase : later.state.phase = now.state.phase ∨ stage.rank < 3 ∧
      (later.state.phase = .activating ∨ later.state.phase = .activated))
    (heeded : later.state.phase = .installed → stage.rank = 0 →
      ∃ (number : Nat) (handling : Handling),
        later.threads[number]? = some (.handling handling) ∧ handling.Heeds) :
    Waking worker begun later stage where
  tasks := step.tasks.trans waking.tasks
  unbegun := waking.unbegun
  messages found := by
    rw [step.threads, List.getElem?_set] at found
    split at found
    · rw [if_pos step.lt_length] at found
      exact ⟨_, (Option.some.inj found).symm, handling.step_ne_clearing worker now.state⟩
    · exact waking.messages found
  coherent := coherent
  filling early := by
    rcases phase with same | ⟨late, _⟩
    · rw [same]
      exact waking.filling early
    · omega
  filled late := by
    rcases phase with same | ⟨_, active⟩
    · rw [same]
      exact waking.filled late
    · exact Or.inr active
  heeded waiting _ ended := heeded waiting ended
  unmarked unmarked := by
    rw [mark] at unmarked
    cases unmarked
  reason _ := by
    have bound := step.lt_length
    right
    rw [step.threads]
    exact List.ne_nil_of_length_pos (by rw [List.length_set]; omega)

theorem handling_marking (waking : Waking worker begun now stage)
    (step : HandlingStep worker now later number .marking) : Waking worker begun later stage := by
  have same : later.state = { now.state with skipsWaiting := true } := step.state
  refine waking.of_handling step (by rw [same]) ?_ (Or.inl (by rw [same]))
    fun _ _ => ⟨number, _, step.placed, trivial⟩
  rw [step.idle rfl rfl, same]
  exact waking.coherent.of_eq rfl rfl

theorem handling_looking (waking : Waking worker begun now stage)
    (step : HandlingStep worker now later number .looking) : Waking worker begun later stage := by
  have same : later.state = now.state := step.state
  have mark : later.state.skipsWaiting = true := same ▸ waking.marked_of_ne step.present (by simp)
  by_cases waiting : now.state.phase = .installed
  · have begins : (Handling.looking.step worker now.state).next = .activating .starting := by
      simp only [Handling.step, Turn.quiet, waiting, if_true]
    have placed := step.placed
    rw [begins] at placed
    refine waking.of_handling step mark ?_ (Or.inl (by rw [same]))
      fun _ _ => ⟨number, _, placed, rfl⟩
    rw [same, step.stages, begins]
    exact waking.coherent.begin step.under (Or.inl waiting)
  · have ends : (Handling.looking.step worker now.state).next = .ended := by
      simp only [Handling.step, Turn.quiet, waiting, if_false]
    refine waking.of_handling step mark ?_ (Or.inl (by rw [same]))
      fun waits => absurd (same ▸ waits) waiting
    rw [same, step.idle rfl (by rw [ends]; rfl)]
    exact waking.coherent

theorem handling_activating {activation : Activation} (waking : Waking worker begun now stage)
    (step : HandlingStep worker now later number (.activating activation)) :
    Waking worker begun later stage := by
  have mark := waking.marked_of_ne step.present (by simp)
  cases finished : activation.result? with
  | some deleted =>
    obtain ⟨deleted, rfl⟩ := Activation.eq_ended finished
    have same : later.state = now.state := step.state
    refine waking.of_handling step (same ▸ mark) ?_ (Or.inl (by rw [same])) fun waits => ?_
    · rw [same, step.stages]
      exact waking.coherent.leave step.under
    · have starting := waking.coherent.waits (same ▸ waits) step.under
      cases starting
  | none =>
    have taken := Handling.step_activating worker now.state finished
    have same : later.state = (activation.step worker now.state).state := by
      rw [step.state, taken]
      rfl
    have phases := waking.coherent.phase_step worker step.under
    rw [← same] at phases
    refine waking.of_handling step ?_ ?_ (Or.inr ⟨?_, phases⟩) fun waits => ?_
    · rw [same, activation.skipsWaiting_step]
      exact mark
    · rw [same, step.stages, taken]
      exact waking.coherent.step step.under finished
    · by_contra early
      have none := waking.vacant (Nat.le_of_not_lt early) (.thread number)
      exact absurd (none.symm.trans step.under) (by simp [Thread.activation?])
    · simp [waits] at phases

theorem handling_ended (waking : Waking worker begun now stage)
    (step : HandlingStep worker now later number .ended) : Waking worker begun later stage := by
  have same : later.state = now.state := step.state
  have mark := waking.marked_of_ne step.present (by simp)
  refine waking.of_handling step (same ▸ mark) ?_ (Or.inl (by rw [same])) fun waits ended => ?_
  · rw [same, step.idle rfl rfl]
    exact waking.coherent
  · obtain ⟨other, handling, found, heeds⟩ := waking.heeded (same ▸ waits) mark ended
    refine ⟨other, handling, ?_, heeds⟩
    rw [step.threads, List.getElem?_set_ne, found]
    rintro rfl
    obtain rfl := Thread.handling.inj (Option.some.inj (step.present.symm.trans found))
    exact heeds

theorem step_thread (waking : Waking worker begun now stage) (number : Nat) :
    Waking worker begun (now.next worker (.step (.thread number))) stage := by
  cases present : now.threads[number]? with
  | none =>
    have idle : now.next worker (.step (.thread number)) = now := by simp only [next, present]
    rwa [idle]
  | some thread =>
    obtain ⟨handling, rfl, notClearing⟩ := waking.messages present
    have step := handlingStep worker present
    cases handling with
    | marking => exact waking.handling_marking step
    | looking => exact waking.handling_looking step
    | activating activation => exact waking.handling_activating step
    | clearing => exact absurd rfl notClearing
    | ended => exact waking.handling_ended step

theorem of_stage (waking : Waking worker true now stage) (step : StageStep worker now later stage)
    (next : (stage.step worker now.state).next = following)
    (coherent : Coherent later.state later.activation?)
    (filling : 3 ≤ following.rank → later.state.phase = .parsed ∨ later.state.phase = .installing)
    (filled : following.rank < 3 → later.state.phase = .installed ∨
      later.state.phase = .activating ∨ later.state.phase = .activated)
    (heeded : later.state.phase = .installed → later.state.skipsWaiting = true →
      following.rank = 0 → ∃ (number : Nat) (handling : Handling),
        later.threads[number]? = some (.handling handling) ∧ handling.Heeds)
    (unmarked : later.state.skipsWaiting = false → now.state.skipsWaiting = false ∧
      later.state.phase ≠ .activated ∧
      (following.rank ≤ 4 → worker.config.skipWaitingOnInstall = false) ∧
      later.activation? = now.activation?)
    (reason : later.state.skipsWaiting = true → now.state.skipsWaiting = true ∨
      worker.config.skipWaitingOnInstall = true) :
    Waking worker true later following where
  tasks := next ▸ step.tasks
  unbegun unbegun := by cases unbegun
  messages found := waking.messages (step.threads ▸ found)
  coherent := coherent
  filling := filling
  filled := filled
  heeded := heeded
  unmarked waits := by
    obtain ⟨before, notYet, config, same⟩ := unmarked waits
    obtain ⟨_, _, none, marking⟩ := waking.unmarked before
    exact ⟨notYet, config, same ▸ none, fun number thread found =>
      marking number thread (step.threads ▸ found)⟩
  reason marked := by
    rw [step.threads]
    exact (reason marked).elim waking.reason Or.inl

theorem stage_starting (waking : Waking worker true now .starting)
    (step : StageStep worker now later .starting) : Waking worker true later .marking := by
  have same : later.state = { now.state with phase := .installing } := step.state
  have idle := step.idle rfl rfl
  have early : 3 ≤ Installation.starting.rank := by decide
  refine waking.of_stage step rfl ?_ (fun _ => Or.inr (by rw [same]))
    (fun late => absurd late (by decide)) (fun _ _ ended => absurd ended (by decide))
    (fun waits => ?_) fun marked => ?_
  · rw [idle, same]
    exact .of_vacant (waking.vacant early) (by simp) (by simp) (waking.unclaimed early)
  · rw [same] at waits ⊢
    exact ⟨waits, by simp, fun late => absurd late (by decide), idle⟩
  · rw [same] at marked
    exact Or.inl marked

theorem stage_marking (waking : Waking worker true now .marking)
    (step : StageStep worker now later .marking) : Waking worker true later .opening := by
  have same : later.state = { now.state with
      skipsWaiting := now.state.skipsWaiting || worker.config.skipWaitingOnInstall } := step.state
  have idle := step.idle rfl rfl
  refine waking.of_stage step rfl ?_ (fun _ => ?_) (fun late => absurd late (by decide))
    (fun _ _ ended => absurd ended (by decide)) (fun waits => ?_) fun marked => ?_
  · rw [idle, same]
    exact waking.coherent.of_eq rfl rfl
  · rw [same]
    exact waking.filling (by decide)
  · rw [same] at waits ⊢
    obtain ⟨before, config⟩ := Bool.or_eq_false_iff.mp waits
    exact ⟨before, (waking.unmarked before).1, fun _ => config, idle⟩
  · rw [same] at marked
    exact Bool.or_eq_true_iff.mp marked

theorem stage_opening (waking : Waking worker true now .opening)
    (step : StageStep worker now later .opening) :
    ∃ following, Waking worker true later following := by
  have same : later.state = (worker.openCurrent now.state).2 := step.state
  have idle := step.idle rfl rfl
  refine ⟨_, waking.of_stage step rfl ?_ (fun _ => ?_) (fun late => absurd late (Nat.lt_irrefl 3))
    (fun _ _ ended => by cases ended) (fun waits => ?_) fun marked => ?_⟩
  · rw [idle, same]
    exact waking.coherent.of_eq rfl rfl
  · rw [same]
    exact waking.filling (by decide)
  · rw [same] at waits ⊢
    obtain ⟨notYet, config, _⟩ := waking.unmarked waits
    exact ⟨waits, notYet, fun _ => config (by decide), idle⟩
  · rw [same] at marked
    exact Or.inl marked

theorem stage_warming {store : Cache.Handle} {slots : List Slot}
    (waking : Waking worker true now (.warming store slots))
    (step : StageStep worker now later (.warming store slots)) :
    ∃ following, Waking worker true later following := by
  by_cases awaited : slots.any Slot.isWaiting
  · have stays : (Installation.warming store slots).step worker now.state =
        .quiet (.warming store slots) now.state := by
      simp only [Installation.step, awaited, if_true]
    obtain ⟨tasks, state, threads, _, _⟩ := step
    rw [stays] at tasks state
    exact ⟨_, waking.of_same state (tasks.trans waking.tasks.symm) threads⟩
  · have waits : (Installation.warming store slots).step worker now.state =
        ⟨.looking (.ofSlots slots), { now.state with phase := .installed },
          (InstallReport.ofSlots slots).notices worker⟩ := by
      simp only [Installation.step, awaited, Bool.false_eq_true, if_false]
    have same : later.state = { now.state with phase := .installed } := by
      rw [step.state, waits]
    have idle := step.idle rfl (by rw [waits]; rfl)
    have early : 3 ≤ (Installation.warming store slots).rank := Nat.le_refl 3
    refine ⟨.looking (.ofSlots slots), waking.of_stage step (by rw [waits]) ?_ (fun late => ?_)
      (fun _ => Or.inl (by rw [same])) (fun _ _ ended => by cases ended) (fun unmarked => ?_)
      fun marked => ?_⟩
    · rw [idle, same]
      exact .of_vacant (waking.vacant early) (by simp) (by simp) (waking.unclaimed early)
    · exact absurd late (by simp [Installation.rank])
    · rw [same] at unmarked ⊢
      obtain ⟨_, config, _⟩ := waking.unmarked unmarked
      exact ⟨unmarked, by simp, fun _ => config (by simp [Installation.rank]), idle⟩
    · rw [same] at marked
      exact Or.inl marked

theorem stage_looking {report : InstallReport} (waking : Waking worker true now (.looking report))
    (step : StageStep worker now later (.looking report)) :
    ∃ following, Waking worker true later following := by
  have late := waking.filled (by simp [Installation.rank])
  cases mark : now.state.skipsWaiting with
  | true =>
    have goesOn : (Installation.looking report).step worker now.state =
        .quiet (.activating report .starting) now.state := by
      simp only [Installation.step, mark, if_true]
    have same : later.state = now.state := by
      rw [step.state, goesOn]
      rfl
    refine ⟨.activating report .starting, waking.of_stage step (by rw [goesOn]; rfl) ?_
      (fun early => ?_) (fun _ => same ▸ late) (fun _ _ ended => by cases ended)
      (fun unmarked => ?_) fun _ => Or.inl mark⟩
    · rw [same, step.stages, goesOn]
      exact waking.coherent.begin step.under late
    · exact absurd early (by simp [Installation.rank])
    · rw [same, mark] at unmarked
      cases unmarked
  | false =>
    have ends : (Installation.looking report).step worker now.state =
        ⟨.ended report, now.state, [.waiting worker.version]⟩ := by
      simp only [Installation.step, mark, Bool.false_eq_true, if_false]
    have same : later.state = now.state := by rw [step.state, ends]
    have idle := step.idle rfl (by rw [ends]; rfl)
    refine ⟨.ended report, waking.of_stage step (by rw [ends]) ?_ (fun early => ?_)
      (fun _ => same ▸ late) (fun _ marked => ?_) (fun _ => ?_) fun marked => ?_⟩
    · rw [same, idle]
      exact waking.coherent
    · exact absurd early (by simp [Installation.rank])
    · rw [same, mark] at marked
      cases marked
    · obtain ⟨notYet, config, _⟩ := waking.unmarked mark
      exact ⟨mark, same ▸ notYet, fun _ => config (by simp [Installation.rank]), idle⟩
    · rw [same, mark] at marked
      cases marked

theorem stage_activating {report : InstallReport} {activation : Activation}
    (waking : Waking worker true now (.activating report activation))
    (step : StageStep worker now later (.activating report activation)) :
    ∃ following, Waking worker true later following := by
  have late := waking.filled (by simp [Installation.rank])
  have mark := waking.marked step.under
  cases finished : activation.result? with
  | some deleted =>
    obtain ⟨deleted, rfl⟩ := Activation.eq_ended finished
    have same : later.state = now.state := step.state
    refine ⟨.ended report, waking.of_stage step rfl ?_ (fun early => ?_) (fun _ => same ▸ late)
      (fun waits => ?_) (fun unmarked => ?_) fun _ => Or.inl mark⟩
    · rw [same, step.stages]
      exact waking.coherent.leave step.under
    · exact absurd early (by simp [Installation.rank])
    · have starting := waking.coherent.waits (same ▸ waits) step.under
      cases starting
    · rw [same, mark] at unmarked
      cases unmarked
  | none =>
    have taken := Installation.step_activating worker now.state report finished
    have same : later.state = (activation.step worker now.state).state := by
      rw [step.state, taken]
      rfl
    have phases := waking.coherent.phase_step worker step.under
    rw [← same] at phases
    refine ⟨.activating report (activation.step worker now.state).next,
      waking.of_stage step (by rw [taken]; rfl) ?_ (fun early => ?_) (fun _ => Or.inr phases)
      (fun waits => ?_) (fun unmarked => ?_) fun _ => Or.inl mark⟩
    · rw [same, step.stages, taken]
      exact waking.coherent.step step.under finished
    · exact absurd early (by simp [Installation.rank])
    · simp [waits] at phases
    · rw [same, activation.skipsWaiting_step, mark] at unmarked
      cases unmarked

theorem only (waking : Waking worker begun now stage) {task : Task}
    (present : now.system.task? number = some task) :
    begun = true ∧ number = 0 ∧ task = .installation stage := by
  rw [System.task?, waking.tasks] at present
  cases begun with
  | false => cases present
  | true =>
    obtain ⟨bound, same⟩ := List.getElem?_eq_some_iff.mp present
    obtain rfl : number = 0 := by simpa using bound
    exact ⟨rfl, rfl, same.symm⟩

theorem step_task (waking : Waking worker begun now stage) (number : Nat) :
    ∃ following, Waking worker begun (now.next worker (.step (.task number))) following := by
  cases present : now.system.task? number with
  | none =>
    have idle : (now.system.advance number (Task.step worker)).1 = now.system := by
      simp only [System.advance, present]
    exact ⟨stage, waking.of_same (congrArg (·.state) idle) (congrArg (·.tasks) idle) rfl⟩
  | some task =>
    obtain ⟨rfl, rfl, rfl⟩ := waking.only present
    have step := stageStep worker waking.tasks
    cases stage with
    | starting => exact ⟨_, waking.stage_starting step⟩
    | marking => exact ⟨_, waking.stage_marking step⟩
    | opening => exact waking.stage_opening step
    | warming store slots => exact waking.stage_warming step
    | looking report => exact waking.stage_looking step
    | activating report activation => exact waking.stage_activating step
    | ended report =>
      exact ⟨_, waking.of_same step.state (step.tasks.trans waking.tasks.symm) step.threads⟩

end Waking

end Interleaving

end OfflineSite.Worker
