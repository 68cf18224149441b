import OfflineSite.Proofs.Worker.CacheSoundness

namespace OfflineSite.Worker

open Cache (Storage)

variable {worker : Worker} {asks : FetchRequest → Prop}

/-- All that was ever asked of the network is of some kind. -/
structure Asks (asks : FetchRequest → Prop) (run : Run) : Prop where
  calls {number : Nat} {task : Task} {call : Nat × FetchRequest}
    (present : run.system.task? number = some task) (awaited : call ∈ task.calls) : asks call.2
  answered {request : FetchRequest} {answer : Except Failure FetchResponse}
    (listed : .answered request answer ∈ run.history) : asks request

theorem System.request_of_answered {system : System} {operation : Operation}
    {request : FetchRequest} {answer : Except Failure FetchResponse}
    (answered : Event.answered request answer ∈ system.events worker operation) :
    ∃ number position, system.call? number position = some request := by
  have notAsked (calls : List Call) : Event.answered request answer ∉ calls.map Event.asked := by
    simp
  have notReplied (system : System) (number : Nat) (asked : FetchRequest) :
      Event.answered request answer ∉ system.replies number asked := by
    unfold replies
    split <;> simp
  have given := (List.mem_append.mp answered).resolve_right (notAsked _)
  cases operation with
  | fetch asked => exact absurd given (notReplied _ _ _)
  | answer number position received now =>
    dsimp only at given
    split at given
    · next asked underWay =>
      rcases List.mem_cons.mp given with same | reply
      · obtain ⟨rfl, _⟩ := Event.answered.inj same
        exact ⟨number, position, underWay⟩
      · exact absurd reply (notReplied _ _ _)
    · cases given
  | _ => cases given

theorem Asks.next {run : Run} (known : Asks asks run)
    (precached : ∀ request, Precached worker request → asks request) {operation : Operation}
    (taken : ∀ request, operation = .fetch request → asks request) :
    Asks asks (run.next worker operation) where
  calls present awaited := by
    cases System.becomes_of_task? present with
    | kept old => exact known.calls old awaited
    | answered old _ => exact known.calls old (Task.mem_calls_receive awaited)
    | proceeded old =>
      rcases Task.mem_calls_proceed awaited with before | listed
      · exact known.calls old before
      · exact precached _ listed
    | installation =>
      rcases Installation.mem_calls_run awaited with none | listed
      · cases none
      · exact precached _ listed
    | exchange request =>
      rw [Task.request_of_calls_start awaited]
      exact taken request rfl
    | @refresh request pending begun =>
      obtain rfl := List.mem_singleton.mp awaited
      rw [(Exchange.request_of_start begun).1]
      exact taken request rfl
  answered listed := by
    rcases List.mem_append.mp listed with old | new
    · exact known.answered old
    · obtain ⟨number, position, underWay⟩ := System.request_of_answered new
      obtain ⟨task, present, asked⟩ := Option.bind_eq_some_iff.mp underWay
      exact known.calls present (Task.mem_calls_of_lookup asked)

theorem Asks.start (storage : Storage) : Asks asks ⟨.initial storage, []⟩ where
  calls present := by cases present
  answered listed := by cases listed

end OfflineSite.Worker
