import OfflineSite.Proofs.Worker.CacheSoundness

namespace OfflineSite.Worker

open Cache (Storage)

/-- A response that was stored at the start, or that the network answered. -/
def Supplied (storage : Storage) (history : List Event) (response : FetchResponse) : Prop :=
  (∃ name key entry, storage.held? name key = some entry ∧ entry.response = response) ∨
    ∃ request, .answered request (.ok response) ∈ history

variable {worker : Worker} {storage : Storage} {request : FetchRequest} {reply : Reply}

theorem Supplied.append {history : List Event} {response : FetchResponse}
    (supplied : Supplied storage history response) (later : List Event) :
    Supplied storage (history ++ later) response := by
  rcases supplied with old | ⟨request, answered⟩
  · exact Or.inl old
  · exact Or.inr ⟨request, List.mem_append_left later answered⟩

theorem Vouched.supplied {history : List Event} {key : Cache.Key} {response : FetchResponse}
    (vouched : Vouched storage history key response) : Supplied storage history response := by
  rcases vouched with ⟨name, entry, held, same⟩ | ⟨_, _, request, answered, _⟩
  · exact Or.inl ⟨name, key, entry, held, same⟩
  · exact Or.inr ⟨request, answered⟩

/-- Where nothing is stored at the start, the network is the only source. -/
theorem Supplied.exists_answered {history : List Event} {response : FetchResponse}
    (supplied : Supplied .empty history response) :
    ∃ request, .answered request (.ok response) ∈ history := by
  refine supplied.resolve_left ?_
  rintro ⟨name, key, entry, held, _⟩
  simp at held

theorem Sound.supplied_next {run : Run} (sound : Sound storage run) {operation : Operation}
    (replied : .replied request (.ok reply) ∈ run.system.events worker operation) :
    Supplied storage (run.next worker operation).history reply.response := by
  cases System.obtained_of_replied replied with
  | stored found => exact (sound.vouched_of_matchRequest found).supplied.append _
  | fetched answered => exact Or.inr ⟨request, List.mem_append_right _ answered⟩
  | stoodIn _ found => exact (sound.vouched_of_matchRequest found).supplied.append _

/-- The worker makes up no response: what it replies with was supplied. -/
theorem Run.supplied_of {operations : List Operation}
    (replied : .replied request (.ok reply) ∈ (Run.of worker storage operations).history) :
    Supplied storage (Run.of worker storage operations).history reply.response := by
  have kept : Sound storage (.of worker storage operations) ∧ ∀ request reply,
      .replied request (.ok reply) ∈ (Run.of worker storage operations).history →
        Supplied storage (Run.of worker storage operations).history reply.response := by
    refine of_induction (motive := fun run => Sound storage run ∧ ∀ request reply,
      .replied request (.ok reply) ∈ run.history → Supplied storage run.history reply.response)
      ⟨.start storage, fun _ _ listed => by cases listed⟩ ?_ operations
    rintro run operation ⟨sound, before⟩
    refine ⟨sound.next operation, fun request reply listed => ?_⟩
    rcases List.mem_append.mp listed with old | new
    · exact (before request reply old).append _
    · exact sound.supplied_next new
  exact kept.2 request reply replied

end OfflineSite.Worker
