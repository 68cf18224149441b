import OfflineSite.Proofs.Worker.Conservation
import OfflineSite.Proofs.Worker.Phases

namespace OfflineSite.Worker

open Cache (Storage)

variable {worker : Worker}

namespace Operation

/-- The operations that make a worker skip waiting. -/
def SkipsWaiting (worker : Worker) : Operation → Prop
  | install => worker.config.skipWaitingOnInstall = true
  | message sent => sent = .skipWaiting
  | rawMessage raw => ControlMessage.parse raw = .ok .skipWaiting
  | _ => False

/-- Whether an operation begins something. The others go on with what was begun. -/
def isCall : Operation → Bool
  | answer _ _ _ _ | proceed _ => false
  | _ => true

/-- An installation is the first, and comes before the host activates the worker. -/
def Precedes (earlier later : Operation) : Prop :=
  later = install → earlier ≠ install ∧ earlier ≠ activate

end Operation

/-- The marks of a worker agree, as they do between operations. -/
structure State.Coherent (state : State) : Prop where
  phase : state.phase = .parsed ∨ state.phase = .installed ∨ state.phase = .activated ∨
    state.phase = .redundant
  controls : state.controlsClients = true ↔ state.phase = .activated
  waits : state.phase = .installed → state.skipsWaiting = false

namespace State.Coherent

variable {state : State}

theorem of_storage (coherent : state.Coherent) (storage : Storage) :
    { state with storage }.Coherent :=
  ⟨coherent.phase, coherent.controls, coherent.waits⟩

theorem activate (worker : Worker) (state : State) : (worker.activate state).state.Coherent := by
  rw [activate_eq]
  exact ⟨Or.inr (Or.inr (Or.inl rfl)), ⟨fun _ => rfl, fun _ => rfl⟩, nofun⟩

theorem installed (uncontrolled : state.controlsClients = false) :
    (worker.installed state).Coherent := by
  cases skips : state.skipsWaiting with
  | true =>
    rw [Worker.installed, if_pos skips]
    exact .activate worker _
  | false =>
    rw [installed_of_waits skips]
    exact ⟨Or.inr (Or.inl rfl), by simp [uncontrolled], fun _ => skips⟩

theorem retire (worker : Worker) (state : State) : (worker.retire state).state.Coherent :=
  ⟨Or.inr (Or.inr (Or.inr rfl)), by simp [Worker.retire], nofun⟩

theorem handle (coherent : state.Coherent) (message : ControlMessage) :
    (worker.handle message state).state.Coherent := by
  cases message with
  | skipWaiting =>
    rw [handle_skipWaiting]
    by_cases waits : state.phase = .installed
    · rw [if_pos waits]
      exact .activate worker _
    · rw [if_neg waits]
      exact ⟨coherent.phase, coherent.controls, fun installed => absurd installed waits⟩
  | clearCache => exact coherent.of_storage _

end State.Coherent

namespace System

variable {system : System} {operation : Operation} {past : List Operation}

/-- Whether all that was begun has ended, fetches in the background aside. -/
def isIdle (system : System) : Bool :=
  system.tasks.all fun task => task.isRefresh || task.isEnded

/-- Operations of which each is called when those before it have ended. -/
def Sequential (worker : Worker) (system : System) : List Operation → Prop
  | [] => True
  | operation :: rest =>
    (operation.isCall → system.isIdle) ∧ (system.perform worker operation).Sequential worker rest

theorem not_installing_of_isIdle (idle : system.isIdle) (number : Nat) :
    ¬ system.Installing number := by
  rintro ⟨stage, there, unfinished⟩
  have ended := List.all_eq_true.mp idle _ (List.mem_of_getElem? there)
  simp [Task.isRefresh, Task.isEnded, unfinished] at ended

/-- A worker skips waiting from when it is told to on. -/
theorem Rests.skipsWaiting_perform (rests : system.Rests) (operation : Operation) :
    (system.perform worker operation).state.skipsWaiting = true ↔
      system.state.skipsWaiting = true ∨ operation.SkipsWaiting worker := by
  have told (message : ControlMessage) :
      (system.perform worker (.message message)).state.skipsWaiting = true ↔
        system.state.skipsWaiting = true ∨ message = .skipWaiting := by
    cases message with
    | skipWaiting =>
      simp only [System.perform, act, handle_skipWaiting, or_true, iff_true]
      split
      · rw [activate_eq]
      · rfl
    | clearCache =>
      have other : ¬ ControlMessage.clearCache = .skipWaiting := by decide
      exact (or_iff_left other).symm
  cases operation with
  | install =>
    have begun : (Installation.begun worker system.state).skipsWaiting = true ↔
        system.state.skipsWaiting = true ∨ worker.config.skipWaitingOnInstall = true :=
      Bool.or_eq_true_iff
    simp only [System.perform, install, add, Operation.SkipsWaiting]
    rcases Installation.starting_cases worker system.state with ⟨state, _⟩ | ⟨state, _⟩
    · rw [state, begun]
    · rw [state, skipsWaiting_installed, begun]
  | activate =>
    simp only [System.perform, act, activate_eq, Operation.SkipsWaiting, or_false]
  | fetch request =>
    obtain ⟨storage, state⟩ := exists_storage_fetch worker system request
    simp only [state, Operation.SkipsWaiting, or_false]
  | message message => exact told message
  | rawMessage raw =>
    cases read : ControlMessage.parse raw with
    | ok message =>
      rw [perform_rawMessage_ok read, told message]
      simp only [Operation.SkipsWaiting, read, Except.ok.injEq]
    | error cause =>
      have unread : ¬ (Operation.rawMessage raw).SkipsWaiting worker := by
        simp [Operation.SkipsWaiting, read]
      simp only [System.perform, act, handleRaw, read, unread, or_false]
  | answer number position answer now =>
    obtain ⟨storage, state⟩ := exists_storage_answer worker system number position answer now
    simp only [state, Operation.SkipsWaiting, or_false]
  | proceed number =>
    simp only [Operation.SkipsWaiting, or_false]
    rcases rests.proceed_cases worker number with ⟨state, _⟩ | ⟨_, _, state⟩
    · rw [state]
    · rw [state, skipsWaiting_installed]
  | _ => exact (or_iff_left id).symm

theorem skipsWaiting_after (worker : Worker) (storage : Storage) (operations : List Operation) :
    ((initial storage).after worker operations).state.skipsWaiting = true ↔
      ∃ operation ∈ operations, operation.SkipsWaiting worker := by
  induction operations using List.reverseRecOn with
  | nil => simp [after, initial, State.initial]
  | append_singleton operations operation ih =>
    have rests : ((initial storage).after worker operations).Rests :=
      (rests_initial storage).after operations
    have last : (initial storage).after worker (operations ++ [operation]) =
        ((initial storage).after worker operations).perform worker operation :=
      after_append worker _ operations [operation]
    rw [last, rests.skipsWaiting_perform operation, ih]
    simp only [List.mem_append, List.mem_singleton, or_and_right, exists_or, exists_eq_left]

/-- An installation is under way, and nothing else that changes the marks. -/
def IsBusy (system : System) : Prop :=
  ∃ number, system.Installing number ∧ (∀ other, system.Installing other → other = number) ∧
    system.state.phase = .installing ∧ system.state.controlsClients = false

def IsCalm (system : System) : Prop :=
  (∀ number, ¬ system.Installing number) ∧ system.state.Coherent

/-- Where operations come one after the other, the marks agree or one installation is under way. -/
structure Orderly (past : List Operation) (system : System) : Prop where
  rests : system.Rests
  state : system.IsCalm ∨ system.IsBusy
  /-- Before it is installed or activated a worker is not in use. -/
  unused (absent : ∀ operation ∈ past, operation ≠ .install ∧ operation ≠ .activate) :
    system.state.phase = .parsed ∨ system.state.phase = .redundant

theorem IsCalm.perform (calm : system.IsCalm) (rests : system.Rests)
    (other : operation ≠ .install) : (system.perform worker operation).IsCalm := by
  obtain ⟨none, coherent⟩ := calm
  refine ⟨fun number under => ?_, ?_⟩
  · rcases installing_of_perform under with old | ⟨begins, _⟩
    · exact none number old
    · exact other begins
  · cases operation with
    | install => exact absurd rfl other
    | activate => exact .activate worker system.state
    | fetch request =>
      obtain ⟨storage, state⟩ := exists_storage_fetch worker system request
      rw [state]
      exact coherent.of_storage storage
    | message message => exact coherent.handle message
    | rawMessage raw =>
      cases read : ControlMessage.parse raw with
      | ok message =>
        rw [perform_rawMessage_ok read]
        exact coherent.handle message
      | error cause =>
        rw [perform_rawMessage_error read]
        exact coherent
    | settle => exact coherent
    | retire => exact .retire worker system.state
    | answer number position answer now =>
      obtain ⟨storage, state⟩ := exists_storage_answer worker system number position answer now
      rw [state]
      exact coherent.of_storage storage
    | proceed number =>
      rcases rests.proceed_cases worker number with ⟨same, _⟩ | ⟨installing, _⟩
      · rw [same]
        exact coherent
      · exact absurd installing (none number)

/-- An installation that begins is under way, or has ended at once. -/
theorem IsCalm.install (none : ∀ number, ¬ system.Installing number)
    (uncontrolled : system.state.controlsClients = false) :
    (system.perform worker .install).IsCalm ∨ (system.perform worker .install).IsBusy := by
  have new {number : Nat} (under : (system.perform worker .install).Installing number) :
      number = system.next := by
    rcases installing_of_perform under with old | ⟨_, same⟩
    · exact absurd old (none number)
    · exact same
  rcases Installation.starting_cases worker system.state with ⟨state, store, slots, waits⟩ |
    ⟨state, report, ends⟩
  · refine Or.inr ⟨system.next, ?_, fun other => new, ?_⟩
    · exact ⟨_, task?_install worker system, by rw [waits]; rfl⟩
    · simp only [System.perform, System.install, add, state]
      exact ⟨rfl, uncontrolled⟩
  · refine Or.inl ⟨fun number under => ?_, ?_⟩
    · obtain ⟨stage, there, unfinished⟩ := under
      obtain rfl := new ⟨stage, there, unfinished⟩
      rw [task?_install, ends] at there
      obtain rfl := Task.installation.inj (Option.some.inj there)
      cases unfinished
    · simp only [System.perform, System.install, add, state]
      exact .installed uncontrolled

/-- An installation that is under way stays so, or ends and leaves the marks agreeing. -/
theorem IsBusy.perform (busy : system.IsBusy) (rests : system.Rests)
    (goesOn : operation.isCall = false) :
    (system.perform worker operation).IsCalm ∨ (system.perform worker operation).IsBusy := by
  obtain ⟨number, under, only, phase, uncontrolled⟩ := busy
  have onlyAfter {other : Nat} (later : (system.perform worker operation).Installing other) :
      other = number := by
    rcases installing_of_perform later with old | ⟨rfl, _⟩
    · exact only other old
    · cases goesOn
  cases operation with
  | answer other position answer now =>
    obtain ⟨storage, state⟩ := exists_storage_answer worker system other position answer now
    refine Or.inr ⟨number, under.answer worker other position answer now, fun _ => onlyAfter, ?_⟩
    rw [state]
    exact ⟨phase, uncontrolled⟩
  | proceed other =>
    rcases rests.proceed_cases worker other with ⟨same, still⟩ | ⟨ending, ended, state⟩
    · refine Or.inr ⟨number, still number under, fun _ => onlyAfter, ?_⟩
      rw [same]
      exact ⟨phase, uncontrolled⟩
    · refine Or.inl ⟨fun further later => ?_, ?_⟩
      · have sole : further = other := (onlyAfter later).trans (only other ending).symm
        exact ended (sole ▸ later)
      · rw [state]
        exact .installed uncontrolled
  | _ => cases goesOn

theorem IsCalm.unused_perform (calm : system.IsCalm) (rests : system.Rests)
    (idle : ¬ operation.Enlists)
    (unused : system.state.phase = .parsed ∨ system.state.phase = .redundant) :
    (system.perform worker operation).state.phase = .parsed ∨
      (system.perform worker operation).state.phase = .redundant := by
  have awake : system.state.phase ≠ .installed := by
    rcases unused with parsed | redundant
    · simp [parsed]
    · simp [redundant]
  have still (number : Nat) (under : system.Installing number) :
      (system.perform worker operation).Installing number := absurd under (calm.1 number)
  rcases rests.marks_perform awake idle still with rfl | ⟨same, _⟩
  · exact Or.inr rfl
  · rwa [same]

theorem Orderly.perform (orderly : Orderly past system)
    (called : operation.isCall → system.isIdle)
    (first : ∀ earlier ∈ past, earlier.Precedes operation) :
    Orderly (past ++ [operation]) (system.perform worker operation) where
  rests := orderly.rests.perform operation
  state := by
    rcases orderly.state with calm | busy
    -- The one installation begins before the worker controls pages, so it need not let go of any.
    · by_cases begins : operation = .install
      · subst begins
        have unused := orderly.unused fun earlier member => first earlier member rfl
        refine IsCalm.install calm.1 (Bool.eq_false_iff.mpr fun controls => ?_)
        have activated := calm.2.controls.mp controls
        simp [activated] at unused
      · exact Or.inl (calm.perform orderly.rests begins)
    · refine busy.perform orderly.rests (Bool.eq_false_iff.mpr fun call => ?_)
      obtain ⟨number, under, _⟩ := busy
      exact not_installing_of_isIdle (called call) number under
  unused absent := by
    have earlier := orderly.unused fun other member => absent other (List.mem_append_left _ member)
    obtain ⟨notInstall, notActivate⟩ :=
      absent operation (List.mem_append_right _ (List.mem_singleton_self _))
    have idle : ¬ operation.Enlists := by
      cases operation with
      | install => exact absurd rfl notInstall
      | activate => exact absurd rfl notActivate
      | _ => exact id
    rcases orderly.state with calm | ⟨_, _, _, phase, _⟩
    · exact calm.unused_perform orderly.rests idle earlier
    · simp [phase] at earlier

theorem Orderly.after (orderly : Orderly past system) {later : List Operation}
    (sequential : system.Sequential worker later)
    (first : (past ++ later).Pairwise Operation.Precedes) :
    Orderly (past ++ later) (system.after worker later) := by
  induction later generalizing system past with
  | nil =>
    rw [List.append_nil]
    exact orderly
  | cons operation rest ih =>
    obtain ⟨called, further⟩ := sequential
    have before : ∀ earlier ∈ past, earlier.Precedes operation := fun earlier member =>
      (List.pairwise_append.mp first).2.2 earlier member operation List.mem_cons_self
    rw [List.append_cons] at first ⊢
    exact ih (orderly.perform called before) further first

theorem orderly_initial (storage : Storage) : Orderly [] (initial storage) where
  rests := rests_initial storage
  state := by
    refine Or.inl ⟨fun number under => ?_, Or.inl rfl, ⟨nofun, nofun⟩, nofun⟩
    obtain ⟨_, there, _⟩ := under
    cases there
  unused _ := Or.inl rfl

end System

/-- Where the operations of a worker come one after the other, and it is installed at most once and
before it is activated, its marks agree between them. It has one of four phases, controls the open
pages exactly when it is activated, and does not wait if it is to skip waiting; and it is to skip
waiting exactly when it was told to. A message that cannot be read changes nothing at all. -/
theorem marks_agree (worker : Worker) (storage : Storage) (operations : List Operation)
    (sequential : (System.initial storage).Sequential worker operations)
    (first : operations.Pairwise Operation.Precedes)
    (idle : ((System.initial storage).after worker operations).isIdle) :
    let system := (System.initial storage).after worker operations
    (system.state.phase = .parsed ∨ system.state.phase = .installed ∨
        system.state.phase = .activated ∨ system.state.phase = .redundant) ∧
      (system.state.controlsClients = true ↔ system.state.phase = .activated) ∧
      (system.state.phase = .installed → system.state.skipsWaiting = false) ∧
      (system.state.skipsWaiting = true ↔
        ∃ operation ∈ operations, operation.SkipsWaiting worker) ∧
      ∀ raw cause, ControlMessage.parse raw = .error cause →
        system.perform worker (.rawMessage raw) = system := by
  intro system
  have orderly : System.Orderly ([] ++ operations) system :=
    (System.orderly_initial storage).after sequential first
  rcases orderly.state with ⟨_, coherent⟩ | ⟨number, under, _⟩
  · exact ⟨coherent.phase, coherent.controls, coherent.waits,
      System.skipsWaiting_after worker storage operations,
      fun raw cause unread => System.perform_rawMessage_error unread worker system⟩
  · exact absurd under (System.not_installing_of_isIdle idle number)

namespace Told

open Errands (page given)

def site : Worker :=
  ⟨{ version := "v1", precache := ["/page"], skipWaitingOnInstall := false }, page⟩

def filling : List Operation :=
  [.fetch (.get page), .answer 0 0 given default, .install, .answer 1 0 given default]

def rest : List Operation := [.proceed 1, .message .skipWaiting, .retire]

theorem tasks_filling :
    ∃ reply store, ((System.initial .empty).after site filling).tasks =
      [.exchange (.ended reply), .installation (.warming store [⟨"/page", .stored⟩])] := by
  have url : site.urlFor "/page" = .ok page := by decide +kernel
  have slots : site.config.precache.map (Slot.start site) = [⟨"/page", .asked (.get page)⟩] :=
    congrArg (fun slot => [slot]) (Slot.start_of_urlFor url)
  obtain ⟨store, installs⟩ :=
    Installation.run_starting_of_waiting (System.initial .empty).state slots rfl
  have passed : (System.initial .empty).after site [.fetch (.get page), .answer 0 0 given default] =
      ⟨(System.initial .empty).state, [.exchange (.ended (given.map (⟨.network, ·⟩)))]⟩ := rfl
  have split : (System.initial .empty).after site filling =
      ((System.initial .empty).after site [.fetch (.get page), .answer 0 0 given default]).after
        site [.install, .answer 1 0 given default] := rfl
  rw [split, passed]
  simp only [System.after, List.foldl_cons, System.perform, System.install, installs]
  exact ⟨_, _, rfl⟩

theorem isIdle_proceeded :
    ((System.initial .empty).after site (filling ++ [.proceed 1])).isIdle := by
  obtain ⟨reply, store, tasks⟩ := tasks_filling
  rw [System.after_append]
  generalize (System.initial .empty).after site filling = system at tasks
  have present : system.task? 1 =
      some (.installation (.warming store [⟨"/page", .stored⟩])) := by rw [System.task?, tasks]; rfl
  have ends := (@Installation.run_returned site system.state store [⟨"/page", .stored⟩] rfl).1
  have proceeded : (system.after site [.proceed 1]).tasks = _ := System.tasks_advance present
  rw [System.isIdle, proceeded, tasks]
  simp only [Task.proceed, Turn.map, ends]
  rfl

end Told

open Told in
/-- A worker that passes a request on, is installed, waits, is told not to, and is retired. -/
theorem told_worker_agrees :
    (System.initial .empty).Sequential site (filling ++ rest) ∧
      (filling ++ rest).Pairwise Operation.Precedes ∧
      ((System.initial .empty).after site (filling ++ rest)).isIdle ∧
      ((System.initial .empty).after site (filling ++ rest)).state.skipsWaiting = true := by
  have sequential : (System.initial .empty).Sequential site (filling ++ rest) :=
    ⟨fun _ => rfl, nofun, fun _ => rfl, nofun, nofun, fun _ => isIdle_proceeded,
      fun _ => isIdle_proceeded, trivial⟩
  have first : (filling ++ rest).Pairwise Operation.Precedes := by
    simp [filling, rest, Operation.Precedes]
  have idle : ((System.initial .empty).after site (filling ++ rest)).isIdle := isIdle_proceeded
  refine ⟨sequential, first, idle, ?_⟩
  exact (marks_agree site .empty _ sequential first idle).2.2.2.1.mpr
    ⟨.message .skipWaiting, by simp [rest], rfl⟩

end OfflineSite.Worker
