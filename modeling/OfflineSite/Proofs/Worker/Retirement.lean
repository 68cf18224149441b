import OfflineSite.Proofs.Worker.Conservation
import OfflineSite.Proofs.Worker.Phases

namespace OfflineSite.Worker

open Cache (Handle Storage)

variable {worker : Worker}

namespace System

variable {system : System} {operation : Operation} {request : FetchRequest}

/-- A request is only passed on. It is handed to the network as it is; what the network answers, at
whatever time, is the reply; and the worker keeps nothing of either. -/
structure PassesOn (worker : Worker) (system : System) (request : FetchRequest) : Prop where
  events : system.events worker (.fetch request) = [.asked ⟨system.next, 0, request⟩]
  kept : (system.perform worker (.fetch request)).state = system.state
  replied (between : List Operation)
    (unanswered : ∀ answer now, .answer system.next 0 answer now ∉ between)
    (answer : Except Failure FetchResponse) (now : Timestamp) :
    let later := (system.perform worker (.fetch request)).after worker between
    later.events worker (.answer system.next 0 answer now) =
        [.answered request answer, .replied request (answer.map (⟨.network, ·⟩))] ∧
      (later.perform worker (.answer system.next 0 answer now)).state = later.state

/-- The worker is out of use, and passes every request on. -/
structure OutOfService (worker : Worker) (system : System) : Prop where
  phase : system.state.phase = .redundant
  controls : system.state.controlsClients = false
  passesOn (request : FetchRequest) : system.PassesOn worker request

/-- A request that is passed on awaits the network's answer, and only that. -/
theorem task?_passing_perform {number : Nat}
    (passing : system.task? number = some (.exchange (.passing request)))
    (unanswered : ∀ answer now, operation ≠ .answer number 0 answer now) :
    (system.perform worker operation).task? number = some (.exchange (.passing request)) := by
  obtain ⟨bound, _⟩ := List.getElem?_eq_some_iff.mp passing
  have still : number < (system.perform worker operation).next :=
    Nat.lt_of_lt_of_le bound (next_le_perform worker system operation)
  obtain ⟨task, there⟩ : ∃ task, (system.perform worker operation).task? number = some task :=
    ⟨_, List.getElem?_eq_getElem still⟩
  rw [there]
  cases becomes_of_task? there with
  | kept old => exact old.symm.trans passing
  | @answered _ position answer now before other old asked =>
    obtain rfl := Option.some.inj (old.symm.trans passing)
    obtain ⟨rfl, _⟩ := Prod.mk.inj (List.mem_singleton.mp (Task.mem_calls_of_lookup asked))
    exact absurd rfl (unanswered answer now)
  | proceeded old =>
    obtain rfl := Option.some.inj (old.symm.trans passing)
    rfl
  | refresh _ => exact absurd bound (Nat.not_lt_of_le (Nat.le_succ _))
  | _ => exact absurd bound (Nat.lt_irrefl _)

theorem task?_passing_after {number : Nat} {between : List Operation}
    (passing : system.task? number = some (.exchange (.passing request)))
    (unanswered : ∀ answer now, .answer number 0 answer now ∉ between) :
    (system.after worker between).task? number = some (.exchange (.passing request)) := by
  induction between generalizing system with
  | nil => exact passing
  | cons operation rest ih =>
    refine ih (task?_passing_perform passing fun answer now same => ?_)
      fun answer now member => unanswered answer now (List.mem_cons_of_mem _ member)
    exact unanswered answer now (same ▸ List.mem_cons_self)

/-- What answers a request that is passed on is the reply to it. -/
theorem answer_of_passing {number : Nat}
    (passing : system.task? number = some (.exchange (.passing request)))
    (answer : Except Failure FetchResponse) (now : Timestamp) :
    system.events worker (.answer number 0 answer now) =
        [.answered request answer, .replied request (answer.map (⟨.network, ·⟩))] ∧
      (system.perform worker (.answer number 0 answer now)).state = system.state := by
  have underWay : system.call? number 0 = some request := by
    rw [call?, passing]
    rfl
  have performed : system.perform worker (.answer number 0 answer now) =
      (system.receive worker number 0 answer now).1 := by
    simp only [perform, underWay]
  have received : (system.perform worker (.answer number 0 answer now)).task? number =
      some (.exchange (.ended (answer.map (⟨.network, ·⟩)))) := by
    rw [performed]
    exact task?_advance_self passing
  have nothing : system.asked worker (.answer number 0 answer now) = [] :=
    newCalls_answer worker system number 0 answer now
  refine ⟨?_, ?_⟩
  · simp only [events, underWay, replies, received, nothing]
    rfl
  · rw [performed]
    exact state_advance passing

theorem passesOn_of_phase (idle : system.state.phase ≠ .activated) (request : FetchRequest) :
    system.PassesOn worker request := by
  have passes : Exchange.start worker request system.state =
      .quiet (.passing request, none) system.state := by
    rw [Exchange.start, if_pos (Or.inl idle)]
  have taken : (system.perform worker (.fetch request)).task? system.next =
      some (.exchange (.passing request)) := by
    rw [task?_fetch, passes]
    rfl
  have asked : system.asked worker (.fetch request) = [⟨system.next, 0, request⟩] := by
    have added : system.perform worker (.fetch request) =
        system.add (.exchange (.passing request)) := by
      simp only [perform, fetch, passes, Turn.quiet]
    have unknown : system.call? system.next 0 = none := call?_eq_none (Nat.le_refl _) 0
    rw [System.asked, added, calls_add, List.filter_append,
      List.filter_eq_nil_iff.mpr fun call underWay => not_isNone_call?_of_mem underWay]
    simp [Task.calls, Exchange.call?, unknown]
  refine ⟨?_, ?_, fun between unanswered answer now => ?_⟩
  · simp only [events, replies, taken, asked]
    rfl
  · rw [state_fetch, passes]
    rfl
  · exact answer_of_passing (task?_passing_after taken unanswered) answer now

/-- Out of use a worker stays, as long as no installation ends. -/
theorem redundant_perform (rests : system.Rests) (redundant : system.state.phase = .redundant)
    (uncontrolled : system.state.controlsClients = false) (idle : ¬ operation.Enlists)
    (still : ∀ number, system.Installing number →
      (system.perform worker operation).Installing number) :
    (system.perform worker operation).state.phase = .redundant ∧
      (system.perform worker operation).state.controlsClients = false := by
  rcases rests.marks_perform (by simp [redundant]) idle still with rfl | ⟨phase, controls⟩
  · exact ⟨rfl, rfl⟩
  · exact ⟨phase.trans redundant, controls.trans uncontrolled⟩

theorem installing_of_after {later : List Operation}
    (idle : ∀ operation ∈ later, ¬ operation.Enlists) {number : Nat}
    (installing : (system.after worker later).Installing number) : system.Installing number := by
  induction later generalizing system with
  | nil => exact installing
  | cons operation rest ih =>
    have before : (system.perform worker operation).Installing number :=
      ih (fun other member => idle other (List.mem_cons_of_mem _ member)) installing
    refine (installing_of_perform before).resolve_right ?_
    rintro ⟨rfl, _⟩
    exact idle _ List.mem_cons_self trivial

theorem outOfService_after {later : List Operation} (rests : system.Rests)
    (redundant : system.state.phase = .redundant)
    (uncontrolled : system.state.controlsClients = false)
    (idle : ∀ operation ∈ later, ¬ operation.Enlists)
    (still : ∀ number, system.Installing number →
      (system.after worker later).Installing number) :
    (system.after worker later).OutOfService worker := by
  induction later generalizing system with
  | nil =>
    have unused : system.state.phase ≠ .activated := by simp [redundant]
    exact ⟨redundant, uncontrolled, passesOn_of_phase unused⟩
  | cons operation rest ih =>
    have further : ∀ other ∈ rest, ¬ other.Enlists :=
      fun other member => idle other (List.mem_cons_of_mem _ member)
    have kept (number : Nat) (installing : system.Installing number) :
        (system.perform worker operation).Installing number :=
      installing_of_after further (still number installing)
    obtain ⟨phase, controls⟩ := redundant_perform rests redundant uncontrolled
      (idle operation List.mem_cons_self) kept
    refine ih (rests.perform operation) phase controls further fun number installing => ?_
    have before := (installing_of_perform installing).resolve_right
    refine still number (before ?_)
    rintro ⟨rfl, _⟩
    exact idle _ List.mem_cons_self trivial

/-- An answer that an installation awaits leaves it with fewer to await. -/
theorem exists_answered (worker : Worker) {number : Nat} {store : Handle} {slots : List Slot}
    (warming : system.task? number = some (.installation (.warming store slots)))
    (waiting : slots.any Slot.isWaiting) :
    ∃ position answer now left,
      (system.perform worker (.answer number position answer now)).task? number =
        some (.installation (.warming store left)) ∧
      (Installation.warming store left).awaited.length <
        (Installation.warming store slots).awaited.length := by
  obtain ⟨position, asked, member⟩ := Installation.exists_call_of_isWaiting store waiting
  have known : (⟨number, position, asked⟩ : Call) ∈ system.calls :=
    mem_calls.mpr ⟨_, warming, member⟩
  obtain ⟨request, underWay⟩ : ∃ request, system.call? number position = some request :=
    Option.ne_none_iff_exists'.mp fun none => not_isNone_call?_of_mem known (by simp [none])
  let answer : Except Failure FetchResponse := .error (.network "offline")
  obtain ⟨task, there, called, received⟩ := task?_answer worker underWay answer default
  obtain rfl := Option.some.inj (there.symm.trans warming)
  have fewer := (Task.awaited_receive worker answer default system.state called).length_eq
  rcases Installation.receive_cases position answer default system.state (.warming store slots) with
    ⟨none, _⟩ | ⟨_, _, slot, _, _, same, _, _, settled, _⟩
  · exact absurd member (none asked)
  · cases same
    simp only [Task.receive, settled, Turn.quiet, Turn.map, List.length_cons] at received fewer
    refine ⟨position, answer, default, _, received, ?_⟩
    exact Nat.lt_of_lt_of_eq (Nat.lt_succ_self _) fewer.symm

/-- The answers that an installation awaits may all come. -/
theorem exists_returned (worker : Worker) (system : System) {number : Nat} (store : Handle)
    (slots : List Slot)
    (warming : system.task? number = some (.installation (.warming store slots))) :
    ∃ answers : List Operation, (∀ operation ∈ answers, ¬ operation.Enlists) ∧
      ∃ settled : List Slot, settled.any Slot.isWaiting = false ∧
        (system.after worker answers).task? number =
          some (.installation (.warming store settled)) := by
  cases waiting : slots.any Slot.isWaiting with
  | false => exact ⟨[], by simp, slots, waiting, warming⟩
  | true =>
    -- The recursion is on the answers awaited; the one given here leaves fewer of them.
    obtain ⟨position, answer, now, left, further, fewer⟩ := exists_answered worker warming waiting
    obtain ⟨answers, idle, settled, returned, there⟩ := exists_returned worker _ store left further
    refine ⟨.answer number position answer now :: answers, ?_, settled, returned, there⟩
    intro operation member
    rcases List.mem_cons.mp member with rfl | later
    · exact id
    · exact idle operation later
  termination_by (Installation.warming store slots).awaited.length
  decreasing_by exact fewer

/-- An installation that is under way can take its worker into use. -/
theorem Rests.exists_phase_ne (rests : system.Rests) {number : Nat}
    (installing : system.Installing number) (worker : Worker) :
    ∃ later : List Operation, (∀ operation ∈ later, ¬ operation.Enlists) ∧
      (system.after worker later).state.phase ≠ .redundant := by
  obtain ⟨stage, there, unfinished⟩ := installing
  obtain ⟨store, slots, rfl⟩ :=
    Installation.eq_warming_of_rests (rests number stage there) unfinished
  obtain ⟨answers, idle, settled, returned, further⟩ :=
    exists_returned worker system store slots there
  refine ⟨answers ++ [.proceed number], ?_, ?_⟩
  · intro operation member
    rcases List.mem_append.mp member with early | last
    · exact idle operation early
    · rw [List.mem_singleton.mp last]
      exact id
  · have ended : (system.after worker (answers ++ [.proceed number])).state =
        worker.installed (system.after worker answers).state := by
      rw [after_append]
      refine (state_advance further).trans ?_
      exact (Installation.run_returned worker _ store returned).2
    rw [ended]
    exact phase_installed_ne worker _

end System

/-- A retired worker that is not installed or activated again stays out of use for good exactly when
no installation of it was under way. Where one was, the worker is out of use as long as every such
installation goes on; the end of one may take it back into use. -/
theorem retirement_final_iff (worker : Worker) (storage : Storage) (past : List Operation) :
    let retired := (System.initial storage).after worker (past ++ [.retire])
    ((∀ later : List Operation, (∀ operation ∈ later, ¬ operation.Enlists) →
          (retired.after worker later).OutOfService worker) ↔
        ∀ number, ¬ retired.Installing number) ∧
      ∀ later : List Operation, (∀ operation ∈ later, ¬ operation.Enlists) →
        (∀ number, retired.Installing number → (retired.after worker later).Installing number) →
        (retired.after worker later).OutOfService worker := by
  intro retired
  have rests : retired.Rests := (System.rests_initial storage).after _
  have same : retired = ((System.initial storage).after worker past).perform worker .retire :=
    System.after_append worker _ past [.retire]
  have redundant : retired.state.phase = .redundant := by rw [same]; rfl
  have uncontrolled : retired.state.controlsClients = false := by rw [same]; rfl
  refine ⟨⟨fun final number installing => ?_, fun none later idle => ?_⟩,
    fun later idle still => ?_⟩
  · -- The installation is given its answers and goes on: no operation of the host is needed.
    obtain ⟨later, idle, enlisted⟩ := rests.exists_phase_ne installing worker
    exact enlisted (final later idle).phase
  · exact System.outOfService_after rests redundant uncontrolled idle
      fun number installing => absurd installing (none number)
  · exact System.outOfService_after rests redundant uncontrolled idle still

namespace Recalled

open Errands (page given)

def site : Worker :=
  ⟨{ version := "v1", precache := ["/page"], skipWaitingOnInstall := true }, page⟩

def later : List Operation := [.answer 0 0 given default, .proceed 0]

theorem exists_returned :
    ∃ state store, (System.initial .empty).after site
        [.install, .retire, .answer 0 0 given default] =
      ⟨state, [.installation (.warming store [⟨"/page", .stored⟩])]⟩ ∧
        state.skipsWaiting = true := by
  have url : site.urlFor "/page" = .ok page := by decide +kernel
  have slots : site.config.precache.map (Slot.start site) = [⟨"/page", .asked (.get page)⟩] :=
    congrArg (fun slot => [slot]) (Slot.start_of_urlFor url)
  obtain ⟨store, installs⟩ :=
    Installation.run_starting_of_waiting (System.initial .empty).state slots rfl
  simp only [System.after, List.foldl_cons, System.perform, System.install, installs]
  exact ⟨_, _, rfl, rfl⟩

end Recalled

open Recalled Errands in
/-- A worker that is retired while it fetches its one page. -/
theorem retired_worker_activated :
    let retired := (System.initial .empty).after site [.install, .retire]
    (∀ operation ∈ later, ¬ operation.Enlists) ∧
      (retired.after site later).state.phase = .activated ∧
      (retired.after site later).state.controlsClients = true ∧
      ¬ (retired.after site later).OutOfService site := by
  intro retired
  obtain ⟨state, store, returned, skips⟩ := exists_returned
  have performed : (retired.after site later).state = site.installed state := by
    have split : retired.after site later =
        ((System.initial .empty).after site [.install, .retire, .answer 0 0 given default]).after
          site [.proceed 0] := rfl
    rw [split, returned]
    exact (Installation.run_returned site state store rfl).2
  obtain ⟨phase, _, controls⟩ := @installed_of_skips site state skips
  rw [← performed] at phase controls
  refine ⟨?_, phase, controls, fun out => ?_⟩
  · simp [later, Operation.Enlists]
  · exact absurd (phase.symm.trans out.phase) (by decide)

end OfflineSite.Worker
