import OfflineSite.Proofs.Worker.Rollover
import OfflineSite.Proofs.Worker.Waking

namespace OfflineSite.Worker

open Cache (Storage)

variable {worker : Worker}

/-- The moves of messages to skip waiting, of an installation that has begun, and of the network. -/
def Move.OfWaiting : Move → Prop
  | message sent => sent = .skipWaiting
  | step _ => True
  | whole (.answer _ _ _ _) => True
  | _ => False

namespace Interleaving

variable {begun : Bool} {now : Interleaving} {stage : Installation}

namespace Waking

theorem answer (waking : Waking worker begun now stage) (number position : Nat)
    (answer : Except Failure FetchResponse) (time : Timestamp) :
    ∃ following,
      Waking worker begun (now.next worker (.whole (.answer number position answer time)))
        following := by
  cases underWay : now.system.call? number position with
  | none =>
    have idle : now.system.perform worker (.answer number position answer time) = now.system := by
      simp only [System.perform, underWay]
    exact ⟨stage, waking.of_same (congrArg (·.state) idle) (congrArg (·.tasks) idle) rfl⟩
  | some request =>
    obtain ⟨task, present, asked⟩ := Option.bind_eq_some_iff.mp underWay
    obtain ⟨rfl, rfl, rfl⟩ := waking.only present
    have alone : now.system.tasks = [.installation stage] := waking.tasks
    have received : now.system.perform worker (.answer 0 position answer time) =
        ⟨(stage.receive position answer time now.state).state,
          [.installation (stage.receive position answer time now.state).next]⟩ := by
      simp only [System.perform, underWay, System.receive, System.advance, present, alone]
      rfl
    rcases Installation.receive_cases position answer time now.state stage with ⟨_, idle⟩ |
      ⟨store, slots, slot, request, storage, rfl, _, _, settled, _⟩
    · rw [idle] at received
      refine ⟨stage, waking.of_same (congrArg (·.state) received) ?_ rfl⟩
      exact (congrArg (·.tasks) received).trans alone.symm
    · rw [settled] at received
      refine ⟨.warming store (slots.set position (slot.settle answer)), ?_⟩
      have state : (now.next worker (.whole (.answer 0 position answer time))).state =
          { now.state with storage } := congrArg (·.state) received
      have tasks : (now.next worker (.whole (.answer 0 position answer time))).system.tasks =
          [.installation (.warming store (slots.set position (slot.settle answer)))] :=
        congrArg (·.tasks) received
      have stages : (now.next worker (.whole (.answer 0 position answer time))).activation? =
          now.activation? := by
        refine activation?_congr ?_ rfl
        rw [tasks, alone]
        rfl
      refine ⟨tasks, (fun unbegun => by cases unbegun), waking.messages, ?_, fun _ => ?_,
        fun late => absurd late (Nat.lt_irrefl 3), (fun _ _ ended => by cases ended), ?_, ?_⟩
      · rw [state, stages]
        exact waking.coherent.of_eq rfl rfl
      · rw [state]
        exact waking.filling (Nat.le_refl 3)
      · rw [state, stages]
        exact waking.unmarked
      · rw [state]
        exact waking.reason

theorem message (waking : Waking worker begun now stage) :
    Waking worker begun (now.next worker (.message .skipWaiting)) stage := by
  have stages : (now.next worker (.message .skipWaiting)).activation? = now.activation? :=
    activation?_message worker now .skipWaiting
  refine ⟨waking.tasks, waking.unbegun, fun present => ?_, ?_, waking.filling, waking.filled,
    fun waiting marked ended => ?_, fun unmarked => ?_, fun _ => Or.inr (by simp [next])⟩
  · rcases getElem?_threads_append present with old | rfl
    · exact waking.messages old
    · exact ⟨.marking, rfl, by simp⟩
  · rw [stages]
    exact waking.coherent
  · obtain ⟨number, handling, found, heeds⟩ := waking.heeded waiting marked ended
    exact ⟨number, handling,
      List.getElem?_append_left (List.getElem?_eq_some_iff.mp found).1 ▸ found,
      heeds⟩
  · obtain ⟨notYet, config, none, marking⟩ := waking.unmarked unmarked
    refine ⟨notYet, config, stages ▸ none, fun number thread present => ?_⟩
    rcases getElem?_threads_append present with old | rfl
    · exact marking number thread old
    · rfl

theorem install (waking : Waking worker false now stage) :
    Waking worker true (now.next worker .install) stage := by
  have stages : (now.next worker .install).activation? = now.activation? :=
    activation?_install worker now
  have none : now.system.tasks = [] := waking.tasks
  obtain rfl := waking.unbegun rfl
  refine ⟨?_, (fun unbegun => by cases unbegun), waking.messages, ?_, waking.filling, waking.filled,
    waking.heeded, ?_, waking.reason⟩
  · simp [next, goOn, System.add, none]
  · rw [stages]
    exact waking.coherent
  · rw [stages]
    exact waking.unmarked

theorem initial (worker : Worker) (storage : Storage) :
    Waking worker false (.initial storage) .starting := by
  have vacant (place : Place) : (Interleaving.initial storage).activation? place = none := by
    cases place <;> rfl
  exact ⟨rfl, fun _ => rfl, (fun present => by cases present),
    .of_vacant vacant (by simp [Interleaving.initial, System.initial, State.initial])
      (by simp [Interleaving.initial, System.initial, State.initial]) rfl,
    fun _ => Or.inl rfl, fun late => absurd late (by decide), (fun _ _ ended => by cases ended),
    fun _ => ⟨by simp [Interleaving.initial, System.initial, State.initial],
      fun late => absurd late (by decide), vacant, (fun _ _ present => by cases present)⟩,
    (fun marked => by cases marked)⟩

theorem next (waking : Waking worker begun now stage) {move : Move} (party : move.OfWaiting) :
    ∃ following, Waking worker begun (now.next worker move) following := by
  cases move with
  | whole operation =>
    cases operation with
    | answer number position answer time => exact waking.answer number position answer time
    | _ => exact party.elim
  | message sent =>
    obtain rfl : sent = .skipWaiting := party
    exact ⟨stage, waking.message⟩
  | step place =>
    cases place with
    | task number => exact waking.step_task number
    | thread number => exact ⟨stage, waking.step_thread number⟩
  | _ => exact party.elim

theorem after {moves : List Move} (waking : Waking worker begun now stage)
    (parties : ∀ move ∈ moves, move.OfWaiting) :
    ∃ following, Waking worker begun (now.after worker moves) following := by
  induction moves generalizing now stage with
  | nil => exact ⟨stage, waking⟩
  | cons move rest ih =>
    obtain ⟨following, waking⟩ := waking.next (parties move (List.mem_cons_self ..))
    exact ih waking fun later listed => parties later (List.mem_cons_of_mem _ listed)

theorem of_moves (worker : Worker) (storage : Storage) {before after : List Move}
    (parties : ∀ move ∈ before ++ after, move.OfWaiting) :
    ∃ stage, Waking worker true (of worker storage (before ++ .install :: after)) stage := by
  obtain ⟨stage, waking⟩ := (initial worker storage).after fun move listed =>
    parties move (List.mem_append_left _ listed)
  obtain ⟨following, waking⟩ := waking.install.after fun move listed =>
    parties move (List.mem_append_right _ listed)
  rw [of, after_append]
  exact ⟨following, waking⟩

end Waking

/-- Only messages add threads, so that there is one tells that there was a message. -/
theorem threads_next_eq_nil {move : Move} (party : move.OfWaiting) :
    (now.next worker move).threads = [] ↔ now.threads = [] ∧ move ≠ .message .skipWaiting := by
  cases move with
  | message sent =>
    obtain rfl : sent = .skipWaiting := party
    simp [next]
  | step place =>
    cases place with
    | task number => simp [next, goOn]
    | thread number =>
      simp only [next]
      split <;> simp
  | whole operation => simp [next]
  | _ => exact party.elim

theorem threads_after_eq_nil (worker : Worker) (now : Interleaving) {moves : List Move}
    (parties : ∀ move ∈ moves, move.OfWaiting) :
    (now.after worker moves).threads = [] ↔
      now.threads = [] ∧ .message .skipWaiting ∉ moves := by
  induction moves generalizing now with
  | nil => simp [after]
  | cons move rest ih =>
    have party := parties move (List.mem_cons_self ..)
    have others := fun later listed => parties later (List.mem_cons_of_mem move listed)
    rw [List.mem_cons, not_or, ← and_assoc, ← ne_eq, ne_comm, ← threads_next_eq_nil party]
    exact ih (now.next worker move) others

theorem threads_of_eq_nil (worker : Worker) (storage : Storage) {before after : List Move}
    (parties : ∀ move ∈ before ++ after, move.OfWaiting) :
    (of worker storage (before ++ .install :: after)).threads = [] ↔
      .message .skipWaiting ∉ before ++ after := by
  rw [of, after_append, List.mem_append, not_or]
  have first := threads_after_eq_nil worker (.initial storage)
    fun move listed => parties move (List.mem_append_left after listed)
  have second := threads_after_eq_nil worker
    (((initial storage).after worker before).next worker .install)
    fun move listed => parties move (List.mem_append_right before listed)
  have kept : (((initial storage).after worker before).next worker .install).threads =
      ((initial storage).after worker before).threads := rfl
  rw [kept, first] at second
  exact second.trans (by simp [initial])

namespace Waking

/-- Where everything has ended no activation is under way. -/
theorem activation?_of_isQuiet (waking : Waking worker begun now stage) (quiet : now.isQuiet)
    (place : Place) : now.activation? place = none := by
  obtain ⟨tasks, threads⟩ := Bool.and_eq_true_iff.mp quiet
  cases there : now.activation? place with
  | none => rfl
  | some activation =>
    cases place with
    | task number =>
      obtain ⟨task, present, under⟩ := Option.bind_eq_some_iff.mp there
      have ended := List.all_eq_true.mp tasks task (List.mem_of_getElem? present)
      obtain ⟨rfl, rfl, rfl⟩ := waking.only present
      cases stage with
      | ended report => cases under
      | _ => cases ended
    | thread number =>
      obtain ⟨thread, present, under⟩ := Option.bind_eq_some_iff.mp there
      have ended := List.all_eq_true.mp threads thread (List.mem_of_getElem? present)
      obtain ⟨handling, rfl, _⟩ := waking.messages present
      obtain rfl : handling = .ended := of_decide_eq_true ended
      cases under

theorem rank_of_isQuiet (waking : Waking worker true now stage) (quiet : now.isQuiet) :
    stage.rank = 0 := by
  obtain ⟨tasks, _⟩ := Bool.and_eq_true_iff.mp quiet
  rw [waking.tasks] at tasks
  cases stage with
  | ended report => rfl
  | _ => cases tasks

theorem phase_of_isQuiet (waking : Waking worker true now stage) (quiet : now.isQuiet) :
    now.state.phase = .installed ∨ now.state.phase = .activated := by
  have ended := waking.rank_of_isQuiet quiet
  rcases waking.filled (by omega) with waiting | active | activated
  · exact Or.inl waiting
  · obtain ⟨place, activation, there, _⟩ := waking.coherent.activating active
    exact absurd ((waking.activation?_of_isQuiet quiet place).symm.trans there) (by simp)
  · exact Or.inr activated

/-- A worker that was to skip waiting has been activated once everything has ended: the message that
would still see to it has returned. -/
theorem phase_of_marked (waking : Waking worker true now stage) (quiet : now.isQuiet)
    (marked : now.state.skipsWaiting = true) : now.state.phase = .activated := by
  refine (waking.phase_of_isQuiet quiet).resolve_left fun waiting => ?_
  obtain ⟨number, handling, present, heeds⟩ :=
    waking.heeded waiting marked (waking.rank_of_isQuiet quiet)
  obtain ⟨_, threads⟩ := Bool.and_eq_true_iff.mp quiet
  have ended := List.all_eq_true.mp threads _ (List.mem_of_getElem? present)
  obtain rfl : handling = .ended := of_decide_eq_true ended
  exact heeds.elim

theorem phase_of_unmarked (waking : Waking worker true now stage) (quiet : now.isQuiet)
    (unmarked : now.state.skipsWaiting = false) : now.state.phase = .installed :=
  (waking.phase_of_isQuiet quiet).resolve_right (waking.unmarked unmarked).1

/-- Once everything has ended there is a mark if there was any reason for it. -/
theorem marked_iff (waking : Waking worker true now stage) (quiet : now.isQuiet) :
    now.state.skipsWaiting = true ↔
      worker.config.skipWaitingOnInstall = true ∨ now.threads ≠ [] := by
  refine ⟨waking.reason, fun reason => ?_⟩
  by_contra unmarked
  obtain ⟨_, config, _, marking⟩ := waking.unmarked (Bool.eq_false_iff.mpr unmarked)
  have ended := waking.rank_of_isQuiet quiet
  rcases reason with configured | sent
  · rw [config (by omega)] at configured
    cases configured
  · obtain ⟨_, threads⟩ := Bool.and_eq_true_iff.mp quiet
    obtain ⟨thread, member⟩ := List.exists_mem_of_ne_nil _ sent
    obtain ⟨number, present⟩ := List.getElem?_of_mem member
    have returned := List.all_eq_true.mp threads thread member
    rw [marking number thread present] at returned
    cases returned

end Waking

end Interleaving

/-- An installation and messages to skip waiting, with their steps and the answers of the network in
any order: once all of them have returned, the worker is activated if it was to skip waiting or a
message said so, and waits otherwise. -/
theorem skip_waiting_not_lost (worker : Worker) (storage : Storage) (before after : List Move)
    (parties : ∀ move ∈ before ++ after, move.OfWaiting)
    (returned : (Interleaving.of worker storage (before ++ .install :: after)).isQuiet) :
    let now := Interleaving.of worker storage (before ++ .install :: after)
    let skips := worker.config.skipWaitingOnInstall = true ∨
      .message .skipWaiting ∈ before ++ after
    (skips → now.state.phase = .activated ∧ now.state.controlsClients = true ∧
        OnlyCurrent worker now.storage) ∧
      (¬ skips → now.state.phase = .installed ∧ now.state.controlsClients = false) := by
  intro now skips
  obtain ⟨stage, waking⟩ := Interleaving.Waking.of_moves worker storage parties
  have marked : now.state.skipsWaiting = true ↔ skips := by
    rw [waking.marked_iff returned, ne_eq, Interleaving.threads_of_eq_nil worker storage parties,
      not_not]
  constructor
  · intro skip
    have activated := waking.phase_of_marked returned (marked.mpr skip)
    have rolling := Interleaving.rolling_of worker storage (before ++ .install :: after)
    exact ⟨activated, waking.coherent.activated activated, rolling.settled activated⟩
  · intro waits
    have unmarked := Bool.eq_false_iff.mpr fun mark => waits (marked.mp mark)
    have phase := waking.phase_of_unmarked returned unmarked
    exact ⟨phase, waking.coherent.unclaimed (by simp [phase]) (by simp [phase])⟩

namespace Overlapping

def moves : List Move :=
  List.replicate 4 (.step (.task 0)) ++ [.message .skipWaiting, .step (.thread 0)] ++
    (List.replicate 9 [.step (.task 0), .step (.thread 0)]).flatten

end Overlapping

open Outdated Overlapping in
/-- A message that comes when an installation has begun to wait and has not looked for the mark yet:
both begin to activate the worker, and take turns. -/
theorem both_activations_return :
    let now := Interleaving.of newer stored (.install :: moves)
    now.state.phase = .activated ∧ now.state.controlsClients = true ∧
      OnlyCurrent newer now.storage := by
  have parties : ∀ move ∈ [] ++ moves, move.OfWaiting := by
    simp [moves, Move.OfWaiting, List.replicate_succ]
  have returned : (Interleaving.of newer stored ([] ++ .install :: moves)).isQuiet := by
    decide +kernel
  exact (skip_waiting_not_lost newer stored [] moves parties returned).1
    (Or.inr (by simp [moves]))

end OfflineSite.Worker
