import OfflineSite.Proofs.Worker.Fleet

namespace OfflineSite.Worker

open Cache (Handle Key Storage)

/-- A fetch in the background, by its worker and the number of its task, and what the network
answers to it. -/
structure Completion (ι : Type) where
  who : ι
  number : Nat
  refresh : Refresh
  answer : Except Failure FetchResponse

namespace Completion

variable {ι : Type}

def place (completion : Completion ι) : ι × Nat := (completion.who, completion.number)

/-- The completion at some time, as an operation of its worker. -/
def operation (completion : Completion ι) (time : Timestamp) : Operation :=
  .answer completion.number 0 completion.answer time

/-- Whether a response with status 200 comes of it, for this key of this store. -/
structure Writes (completion : Completion ι) (handle : Handle) (key : Key)
    (response : FetchResponse) : Prop where
  answer : completion.answer = .ok response
  status : response.status = 200
  store : completion.refresh.store = handle
  key : completion.refresh.request.key = key

/-- Whether another status comes of it, or an error. -/
def IsUseless (completion : Completion ι) : Prop :=
  ∀ response, completion.answer = .ok response → response.status ≠ 200

end Completion

namespace Fleet

variable {ι : Type} [DecidableEq ι] {workers : ι → Worker} {fleet : Fleet ι}
  {completion other : Completion ι} {time : Timestamp} {handle : Handle} {key : Key}
  {response : FetchResponse}

/-- A fetch in the background that awaits its answer, for a store that there is. -/
structure Running (fleet : Fleet ι) (completion : Completion ι) : Prop where
  task : (fleet.system completion.who).task? completion.number = some (.refresh completion.refresh)
  store : completion.refresh.store < fleet.storage.stores.size

def complete (workers : ι → Worker) (fleet : Fleet ι) (completion : Completion ι)
    (time : Timestamp) : Fleet ι :=
  fleet.perform workers completion.who (completion.operation time)

/-- The fleet after completions in some order. -/
def completed (workers : ι → Worker) (fleet : Fleet ι) (order : List (Completion ι × Timestamp)) :
    Fleet ι :=
  fleet.after workers (order.map fun listed => (listed.1.who, listed.1.operation listed.2))

theorem completed_append (workers : ι → Worker) (fleet : Fleet ι)
    (first second : List (Completion ι × Timestamp)) :
    fleet.completed workers (first ++ second) =
      (fleet.completed workers first).completed workers second := by
  rw [completed, List.map_append, after_append]
  rfl

namespace Running

theorem storage_complete (running : fleet.Running completion) (workers : ι → Worker)
    (time : Timestamp) :
    (fleet.complete workers completion time).storage =
      (completion.refresh.receive completion.answer time
        (fleet.member completion.who).state).state.storage := by
  have present : (fleet.member completion.who).task? completion.number =
      some (.refresh completion.refresh) := running.task
  have underWay : (fleet.member completion.who).call? completion.number 0 =
      some completion.refresh.request := Option.bind_eq_some_iff.mpr ⟨_, present, rfl⟩
  simp only [complete, Completion.operation, perform, System.perform, underWay, System.receive,
    System.state_advance present]
  rfl

/-- A completion puts its response into its store, or does nothing. -/
theorem complete_cases (running : fleet.Running completion) (workers : ι → Worker)
    (time : Timestamp) :
    (∃ response, completion.answer = .ok response ∧ response.status = 200 ∧
        (fleet.complete workers completion time).storage =
          fleet.storage.put completion.refresh.store completion.refresh.request.key response
            time) ∨
      completion.IsUseless ∧ (fleet.complete workers completion time).storage = fleet.storage := by
  rw [running.storage_complete workers time]
  unfold Completion.IsUseless
  cases completion.answer with
  | error cause => exact Or.inr ⟨nofun, rfl⟩
  | ok response =>
    by_cases good : response.status = 200
    · have storable : response.isStorable := FetchResponse.isStorable_iff.mpr good
      simp only [Refresh.receive, storable, if_true, Turn.quiet]
      exact Or.inl ⟨response, rfl, good, rfl⟩
    · have unstorable : response.isStorable = false :=
        FetchResponse.isStorable_eq_false_iff.mpr good
      simp only [Refresh.receive, unstorable, Bool.false_eq_true, if_false]
      exact Or.inr ⟨fun _ same => Except.ok.inj same ▸ good, rfl⟩

theorem storage_of_useless (running : fleet.Running completion) (useless : completion.IsUseless) :
    (fleet.complete workers completion time).storage = fleet.storage := by
  rcases running.complete_cases workers time with ⟨response, answer, good, _⟩ | ⟨_, same⟩
  · exact absurd good (useless response answer)
  · exact same

theorem find?_complete (running : fleet.Running completion) (name : String) :
    (fleet.complete workers completion time).storage.find? name = fleet.storage.find? name := by
  rcases running.complete_cases workers time with ⟨_, _, _, put⟩ | ⟨_, same⟩
  · rw [put]
    rfl
  · rw [same]

theorem get?_of_writes (running : fleet.Running completion)
    (writes : completion.Writes handle key response) :
    ((fleet.complete workers completion time).storage.store handle).get? key = some response := by
  obtain ⟨answer, status, rfl, rfl⟩ := writes
  rcases running.complete_cases workers time with ⟨given, same, _, put⟩ | ⟨useless, _⟩
  · obtain rfl := Except.ok.inj (same.symm.trans answer)
    rw [put, Storage.put, Cache.Store.get?, Storage.lookup?_insert,
      if_pos ⟨rfl, running.store, rfl⟩]
    rfl
  · exact absurd status (useless response answer)

theorem get?_of_not_writes (running : fleet.Running completion)
    (unwritten : ∀ response, ¬ completion.Writes handle key response) :
    ((fleet.complete workers completion time).storage.store handle).get? key =
      (fleet.storage.store handle).get? key := by
  rcases running.complete_cases workers time with ⟨response, answer, status, put⟩ | ⟨_, same⟩
  · rw [put, Storage.put, Cache.Store.get?, Storage.lookup?_insert, if_neg, Cache.Store.get?]
    rintro ⟨store, _, sameKey⟩
    exact unwritten response ⟨answer, status, store, sameKey⟩
  · rw [same]

/-- A completion leaves the other fetches running. -/
theorem complete (running : fleet.Running other) (apart : completion.place ≠ other.place)
    (workers : ι → Worker) (time : Timestamp) :
    (fleet.complete workers completion time).Running other where
  task := by
    simp only [Fleet.complete, Completion.operation, perform]
    by_cases same : other.who = completion.who
    · have differ : completion.number ≠ other.number := fun equal =>
        apart (Prod.ext same.symm equal)
      rw [same, Function.update_self, System.perform]
      have there : (fleet.member completion.who).task? other.number =
          some (.refresh other.refresh) := same ▸ running.task
      split
      · exact (System.task?_advance_of_ne differ).trans there
      · exact there
    · rw [Function.update_of_ne same]
      exact running.task
  store := Nat.lt_of_lt_of_le running.store (evolves_perform workers fleet _ _).size_le

end Running

/-- Fetches in the background that run, each listed once, in the order in which they are to
complete. -/
structure Awaits (fleet : Fleet ι) (order : List (Completion ι × Timestamp)) : Prop where
  running {completion : Completion ι} {time : Timestamp} (listed : (completion, time) ∈ order) :
    fleet.Running completion
  distinct : (order.map fun listed => listed.1.place).Nodup

namespace Awaits

variable {first rest order : List (Completion ι × Timestamp)}

theorem tail (awaits : fleet.Awaits ((completion, time) :: rest)) (workers : ι → Worker) :
    (fleet.complete workers completion time).Awaits rest where
  running {other later} listed := by
    have apart : completion.place ≠ other.place := fun same =>
      (List.nodup_cons.mp awaits.distinct).1 (List.mem_map.mpr ⟨_, listed, same.symm⟩)
    exact (awaits.running (List.mem_cons_of_mem _ listed)).complete apart workers time
  distinct := (List.nodup_cons.mp awaits.distinct).2

theorem right (awaits : fleet.Awaits (first ++ rest)) (workers : ι → Worker) :
    (fleet.completed workers first).Awaits rest := by
  induction first generalizing fleet with
  | nil => exact awaits
  | cons head _ ih => exact ih (awaits.tail workers)

/-- What every completion keeps is kept by all of them. -/
theorem induction (awaits : fleet.Awaits order) {motive : Fleet ι → Prop}
    (step : ∀ fleet completion time, (completion, time) ∈ order → fleet.Running completion →
      motive fleet → motive (fleet.complete workers completion time))
    (start : motive fleet) : motive (fleet.completed workers order) := by
  induction order generalizing fleet with
  | nil => exact start
  | cons head rest ih =>
    have now : motive (fleet.complete workers head.1 head.2) :=
      step fleet head.1 head.2 List.mem_cons_self (awaits.running List.mem_cons_self) start
    refine ih (awaits.tail workers) (fun later completion time listed => ?_) now
    exact step later completion time (List.mem_cons_of_mem _ listed)

theorem find?_completed (awaits : fleet.Awaits order) (name : String) :
    (fleet.completed workers order).storage.find? name = fleet.storage.find? name :=
  awaits.induction (motive := fun later => later.storage.find? name = fleet.storage.find? name)
    (fun _ _ _ _ running same => (running.find?_complete name).trans same) rfl

theorem get?_of_unwritten (awaits : fleet.Awaits order)
    (unwritten : ∀ listed ∈ order, ∀ response, ¬ listed.1.Writes handle key response) :
    ((fleet.completed workers order).storage.store handle).get? key =
      (fleet.storage.store handle).get? key :=
  awaits.induction
    (motive := fun later => (later.storage.store handle).get? key =
      (fleet.storage.store handle).get? key)
    (fun _ _ _ listed running same =>
      (running.get?_of_not_writes (unwritten _ listed)).trans same) rfl

/-- The last response that is written under a key is the one that is there. -/
theorem get?_of_last (awaits : fleet.Awaits (first ++ (completion, time) :: rest))
    (writes : completion.Writes handle key response)
    (last : ∀ listed ∈ rest, ∀ response, ¬ listed.1.Writes handle key response) :
    ((fleet.completed workers (first ++ (completion, time) :: rest)).storage.store handle).get?
      key = some response := by
  have now := awaits.right workers
  rw [completed_append]
  -- After its own completion nothing is written there any more.
  refine ((now.tail workers).get?_of_unwritten last).trans ?_
  exact (now.running List.mem_cons_self).get?_of_writes writes

/-- A response that is the only one written under a key is there whatever the order. -/
theorem get?_of_only (awaits : fleet.Awaits order) (listed : completion ∈ order.map Prod.fst)
    (writes : completion.Writes handle key response)
    (only : ∀ other ∈ order.map Prod.fst, ∀ response, other.Writes handle key response →
      other = completion) :
    ((fleet.completed workers order).storage.store handle).get? key = some response := by
  obtain ⟨⟨writer, time⟩, member, rfl⟩ := List.mem_map.mp listed
  obtain ⟨first, rest, rfl⟩ := List.append_of_mem member
  refine awaits.get?_of_last writes fun later after response writesToo => ?_
  have there : later.1 ∈ (first ++ (writer, time) :: rest).map Prod.fst :=
    List.mem_map_of_mem (List.mem_append_right _ (List.mem_cons_of_mem _ after))
  have same := only later.1 there response writesToo
  have apart := (List.nodup_cons.mp (awaits.right workers).distinct).1
  exact apart (List.mem_map.mpr ⟨later, after, congrArg Completion.place same⟩)

omit [DecidableEq ι] in
theorem reorder (awaits : fleet.Awaits first)
    (reordered : (first.map Prod.fst).Perm (order.map Prod.fst)) : fleet.Awaits order where
  running {completion time} listed := by
    have member : completion ∈ order.map Prod.fst := List.mem_map_of_mem (f := Prod.fst) listed
    obtain ⟨⟨_, earlier⟩, there, rfl⟩ := List.mem_map.mp (reordered.mem_iff.mpr member)
    exact awaits.running there
  distinct := by
    have places (order : List (Completion ι × Timestamp)) :
        (order.map fun listed => listed.1.place) = (order.map Prod.fst).map Completion.place := by
      rw [List.map_map]
      rfl
    have distinct := awaits.distinct
    rw [places] at distinct ⊢
    exact (reordered.map Completion.place).nodup_iff.mp distinct

end Awaits

end Fleet

/-- Fetches in the background may complete in any order. The storage has the same stores under the
same names as before, whatever the order; the same response is found under a key of a store, deleted
or not, unless two of them write there; what is found there is what the last of them wrote, or what
was there before; and one that brings another status or an error changes nothing at its turn. -/
theorem completions_commute {ι : Type} [DecidableEq ι] (workers : ι → Worker) (storage : Storage)
    (past : List (ι × Operation)) (first second : List (Completion ι × Timestamp))
    (running : ∀ completion ∈ first.map Prod.fst,
      (((Fleet.initial storage).after workers past).system completion.who).task?
        completion.number = some (.refresh completion.refresh))
    (distinct : (first.map fun listed => listed.1.place).Nodup)
    (reordered : (first.map Prod.fst).Perm (second.map Prod.fst)) :
    let fleet := (Fleet.initial storage).after workers past
    let one := (fleet.completed workers first).storage
    let two := (fleet.completed workers second).storage
    one.keys = two.keys ∧ (∀ name, two.find? name = fleet.storage.find? name) ∧
      (∀ handle key,
        (∀ left ∈ first.map Prod.fst, ∀ right ∈ first.map Prod.fst, ∀ response other,
          left.Writes handle key response → right.Writes handle key other → left = right) →
        (one.store handle).get? key = (two.store handle).get? key) ∧
      (∀ handle key before completion time after response,
        second = before ++ (completion, time) :: after →
        completion.Writes handle key response →
        (∀ listed ∈ after, ∀ other, ¬ listed.1.Writes handle key other) →
        (two.store handle).get? key = some response) ∧
      (∀ handle key,
        (∀ listed ∈ second, ∀ response, ¬ listed.1.Writes handle key response) →
        (two.store handle).get? key = (fleet.storage.store handle).get? key) ∧
      ∀ before completion time after, second = before ++ (completion, time) :: after →
        completion.IsUseless →
        (fleet.completed workers (before ++ [(completion, time)])).storage =
          (fleet.completed workers before).storage := by
  intro fleet one two
  have awaits : fleet.Awaits first := by
    refine ⟨fun {completion time} listed => ?_, distinct⟩
    have there := running completion (List.mem_map_of_mem (f := Prod.fst) listed)
    exact ⟨there, Fleet.hasStoreIn workers storage past there _ rfl⟩
  have awaitsToo : fleet.Awaits second := awaits.reorder reordered
  refine ⟨?_, awaitsToo.find?_completed, ?_, ?_, ?_, ?_⟩
  · refine Storage.keys_congr fun name => ?_
    rw [Storage.contains_eq_isSome, Storage.contains_eq_isSome, awaits.find?_completed,
      awaitsToo.find?_completed]
  · -- Either one completion writes there, whose response is there in both orders, or none does.
    intro handle key unshared
    by_cases written : ∃ completion ∈ first.map Prod.fst, ∃ response,
        completion.Writes handle key response
    · obtain ⟨completion, listed, response, writes⟩ := written
      have only (other : Completion ι) (member : other ∈ first.map Prod.fst)
          (given : FetchResponse) (writesToo : other.Writes handle key given) :
          other = completion :=
        unshared other member completion listed given response writesToo writes
      rw [awaits.get?_of_only listed writes only]
      refine (awaitsToo.get?_of_only (reordered.mem_iff.mp listed) writes ?_).symm
      exact fun other member => only other (reordered.mem_iff.mpr member)
    · have unwritten (completion : Completion ι) (member : completion ∈ first.map Prod.fst)
          (response : FetchResponse) : ¬ completion.Writes handle key response :=
        fun writes => written ⟨completion, member, response, writes⟩
      rw [awaits.get?_of_unwritten fun listed member =>
        unwritten listed.1 (List.mem_map_of_mem member)]
      refine (awaitsToo.get?_of_unwritten fun listed member => ?_).symm
      exact unwritten listed.1 (reordered.mem_iff.mpr (List.mem_map_of_mem member))
  · rintro handle key before completion time after response rfl writes last
    exact awaitsToo.get?_of_last writes last
  · exact fun handle key unwritten => awaitsToo.get?_of_unwritten unwritten
  · rintro before completion time after rfl useless
    rw [Fleet.completed_append]
    exact ((awaitsToo.right workers).running List.mem_cons_self).storage_of_useless useless

namespace Refreshed

def twice : List (Unit × Operation) := served () ++ [((), .fetch (.get page))]

def earlier : Completion Unit := ⟨(), 1, ⟨0, .get page⟩, .ok ⟨200, [], "one".toUTF8⟩⟩

def later : Completion Unit := ⟨(), 3, ⟨0, .get page⟩, .ok ⟨200, [], "two".toUTF8⟩⟩

theorem task?_twice :
    (((Fleet.initial stored).after (fun _ => worker) twice).system ()).task? 1 =
        some (.refresh ⟨0, .get page⟩) ∧
      (((Fleet.initial stored).after (fun _ => worker) twice).system ()).task? 3 =
        some (.refresh ⟨0, .get page⟩) := by
  simp only [twice, served, Fleet.after, List.cons_append, List.nil_append, List.foldl,
    Fleet.perform, System.perform, System.act, activate_eq]
  exact ⟨rfl, rfl⟩

end Refreshed

open Refreshed in
/-- The page is served twice, and the two fetches in the background that come of it are answered
with different responses. -/
theorem last_completion_kept :
    let fleet := (Fleet.initial stored).after (fun _ => worker) twice
    let begun : List (Completion Unit × Timestamp) := [(earlier, default), (later, default)]
    let order : List (Completion Unit × Timestamp) := [(later, default), (earlier, default)]
    (begun.map fun listed => listed.1.place).Nodup ∧
      ((fleet.completed (fun _ => worker) order).storage.store 0).get? (FetchRequest.get page).key =
        some ⟨200, [], "one".toUTF8⟩ := by
  intro fleet begun order
  have running : ∀ completion ∈ begun.map Prod.fst,
      (fleet.system completion.who).task? completion.number =
        some (.refresh completion.refresh) := by
    intro completion listed
    simp only [begun, List.map_cons, List.map_nil, List.mem_cons, List.not_mem_nil, or_false]
      at listed
    rcases listed with rfl | rfl
    · exact task?_twice.1
    · exact task?_twice.2
  have distinct : (begun.map fun listed => listed.1.place).Nodup := by
    simp [begun, Completion.place, earlier, later]
  have reordered : (begun.map Prod.fst).Perm (order.map Prod.fst) := .swap later earlier []
  obtain ⟨_, _, _, last, _⟩ :=
    completions_commute (fun _ => worker) stored twice begun order running distinct reordered
  refine ⟨distinct, ?_⟩
  exact last 0 _ [(later, default)] earlier default [] _ rfl ⟨rfl, rfl, rfl, rfl⟩ (by simp)

end OfflineSite.Worker
