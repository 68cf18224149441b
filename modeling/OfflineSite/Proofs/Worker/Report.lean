import Mathlib.Data.List.Basic
import OfflineSite.Proofs.Worker.Steps

namespace OfflineSite.Worker

/-- An answer that arrives for a position of the list, and when. -/
structure Arrival where
  position : Nat
  answer : Except Failure FetchResponse
  time : Timestamp

/-- The slot of a path for which an answer has arrived, or none yet. -/
def Slot.given (worker : Worker) (path : String) : Option Arrival → Slot
  | none => .start worker path
  | some arrival => (Slot.start worker path).settle arrival.answer

/-- The slots of the list after arrivals. -/
def slotsAfter (worker : Worker) (arrivals : List Arrival) : List Slot :=
  worker.config.precache.mapIdx fun position path =>
    .given worker path (arrivals.find? (·.position = position))

namespace Slot

theorem path_given (worker : Worker) (path : String) (arrived : Option Arrival) :
    (given worker path arrived).path = path := by
  have started : (start worker path).path = path := by
    unfold start
    split <;> rfl
  cases arrived <;> exact started

theorem warming_start_asked {worker : Worker} {path : String} {request : FetchRequest}
    (asked : (start worker path).warming = .asked request) :
    ∃ url, worker.urlFor path = .ok url ∧ request = .get url := by
  unfold start at asked
  split at asked
  · next url joined => exact ⟨url, joined, (Warming.asked.inj asked).symm⟩
  · cases asked

theorem given_asked {worker : Worker} {path : String} {arrived : Option Arrival}
    {request : FetchRequest} (asked : (given worker path arrived).warming = .asked request) :
    arrived = none ∧ ∃ url, worker.urlFor path = .ok url ∧ request = .get url := by
  cases arrived with
  | none => exact ⟨rfl, warming_start_asked asked⟩
  | some arrival => exact absurd asked (warming_settle_ne _ _ request)

end Slot

theorem getElem?_slotsAfter (worker : Worker) (arrivals : List Arrival) (position : Nat) :
    (worker.slotsAfter arrivals)[position]? =
      worker.config.precache[position]?.map fun path =>
        .given worker path (arrivals.find? (·.position = position)) :=
  List.getElem?_mapIdx

theorem slotsAfter_nil (worker : Worker) :
    worker.slotsAfter [] = worker.config.precache.map (Slot.start worker) := by
  refine List.ext_getElem? fun position => ?_
  rw [getElem?_slotsAfter, List.getElem?_map]
  rfl

/-- An arrival settles the slot at its position, if it is the first there. -/
theorem slotsAfter_concat {worker : Worker} {arrivals : List Arrival} {arrival : Arrival}
    {path : String} (listed : worker.config.precache[arrival.position]? = some path)
    (first : arrivals.find? (·.position = arrival.position) = none) :
    worker.slotsAfter (arrivals ++ [arrival]) =
      (worker.slotsAfter arrivals).set arrival.position
        ((Slot.start worker path).settle arrival.answer) := by
  refine List.ext_getElem? fun position => ?_
  rw [getElem?_slotsAfter, List.find?_append, List.getElem?_set]
  by_cases same : arrival.position = position
  · subst same
    have bound := (List.getElem?_eq_some_iff.mp listed).1
    have length : arrival.position < (worker.slotsAfter arrivals).length := by
      rwa [slotsAfter, List.length_mapIdx]
    simp [listed, first, length, Slot.given]
  · simp [same, getElem?_slotsAfter]

/-- Arrivals for positions whose paths make URLs, at most one for each. -/
structure Proper (worker : Worker) (arrivals : List Arrival) : Prop where
  distinct : (arrivals.map Arrival.position).Nodup
  joined {arrival : Arrival} (arrived : arrival ∈ arrivals) :
    ∃ path url, worker.config.precache[arrival.position]? = some path ∧
      worker.urlFor path = .ok url

theorem Proper.find?_eq {worker : Worker} {arrivals : List Arrival}
    (proper : Proper worker arrivals) {arrival : Arrival} (arrived : arrival ∈ arrivals) :
    arrivals.find? (·.position = arrival.position) = some arrival := by
  obtain ⟨before, after, split⟩ := List.append_of_mem arrived
  refine List.find?_eq_some_iff_append.mpr ⟨by simp, before, after, split, fun other listed => ?_⟩
  have distinct := proper.distinct
  rw [split, List.map_append, List.map_cons, List.nodup_append] at distinct
  have apart := distinct.2.2 other.position (List.mem_map_of_mem listed) arrival.position
    List.mem_cons_self
  simpa using apart

/-- A report on the whole list: every position is among the stored ones or the failed ones, in the
order of the list, and why it is. -/
structure InstallReport.Accounts (worker : Worker) (arrivals : List Arrival)
    (reason : Nat → Option String) (report : InstallReport) : Prop where
  cached : report.cached = worker.config.precache.zipIdx.filterMap fun (path, position) =>
    if reason position = none then some path else none
  failed : report.failed = worker.config.precache.zipIdx.filterMap fun (path, position) =>
    (reason position).map (path, ·)
  /-- A position is stored exactly if its path makes a URL and status 200 arrives for it. -/
  stored_iff {position : Nat} {path : String}
      (listed : worker.config.precache[position]? = some path) :
    reason position = none ↔ (∃ url, worker.urlFor path = .ok url) ∧
      ∃ arrival ∈ arrivals, arrival.position = position ∧
        ∃ response, arrival.answer = .ok response ∧ response.status = 200
  unjoined {position : Nat} {path : String} {cause : Failure}
      (listed : worker.config.precache[position]? = some path)
      (fails : worker.urlFor path = .error cause) : reason position = some cause.text
  lost {arrival : Arrival} {cause : Failure} (arrived : arrival ∈ arrivals)
      (answered : arrival.answer = .error cause) :
    reason arrival.position = some cause.text
  refused {arrival : Arrival} {response : FetchResponse} (arrived : arrival ∈ arrivals)
      (answered : arrival.answer = .ok response) (bad : response.status ≠ 200) :
    reason arrival.position = some s!"status {response.status.toNat}"

/-- Why the path of a slot was not stored, if it was not. -/
def Slot.reason? (slot : Slot) : Option String :=
  match slot.warming with
  | .failed reason => some reason
  | _ => none

theorem Slot.reason?_settle (slot : Slot) (answer : Except Failure FetchResponse) :
    (slot.settle answer).reason? = match answer with
      | .ok response =>
        if response.status = 200 then none else some s!"status {response.status.toNat}"
      | .error cause => some cause.text := by
  cases answer with
  | error cause => rfl
  | ok response =>
    by_cases good : response.status = 200
    · have storable := FetchResponse.isStorable_iff.mpr good
      simp [settle, reason?, storable, good]
    · have unstorable := FetchResponse.isStorable_eq_false_iff.mpr good
      simp [settle, reason?, unstorable, good]

theorem Slot.cached_of_settled {slot : Slot} (settled : slot.isWaiting = false) :
    (match slot.warming with
      | .stored => some slot.path
      | _ => none) = if slot.reason? = none then some slot.path else none := by
  cases there : slot.warming with
  | asked request => simp [isWaiting, there] at settled
  | _ => simp [reason?, there]

theorem Slot.failed_eq (slot : Slot) :
    (match slot.warming with
      | .failed reason => some (slot.path, reason)
      | _ => none) = slot.reason?.map (slot.path, ·) := by
  cases there : slot.warming <;> simp [reason?, there]

/-- Why a position was not stored after arrivals, if it was not. -/
def reasonAfter (worker : Worker) (arrivals : List Arrival) (position : Nat) : Option String :=
  (worker.slotsAfter arrivals)[position]?.bind Slot.reason?

theorem reasonAfter_eq {worker : Worker} {position : Nat} {path : String}
    (listed : worker.config.precache[position]? = some path) (arrivals : List Arrival) :
    worker.reasonAfter arrivals position =
      (Slot.given worker path (arrivals.find? (·.position = position))).reason? := by
  rw [reasonAfter, getElem?_slotsAfter, listed, Option.map_some, Option.bind_some]

theorem slotsAfter_eq (worker : Worker) (arrivals : List Arrival) :
    worker.slotsAfter arrivals = worker.config.precache.zipIdx.map fun (path, position) =>
      .given worker path (arrivals.find? (·.position = position)) :=
  List.mapIdx_eq_zipIdx_map

namespace Proper

variable {worker : Worker} {arrivals : List Arrival} {position : Nat} {path : String}

theorem isWaiting_given (returned : (worker.slotsAfter arrivals).any Slot.isWaiting = false)
    (listed : worker.config.precache[position]? = some path) :
    (Slot.given worker path (arrivals.find? (·.position = position))).isWaiting = false := by
  have present : (worker.slotsAfter arrivals)[position]? =
      some (.given worker path (arrivals.find? (·.position = position))) := by
    rw [getElem?_slotsAfter, listed, Option.map_some]
  simpa using List.any_eq_false.mp returned _ (List.mem_of_getElem? present)

/-- Where nothing is awaited any more, a path makes no URL or its answer has arrived. -/
theorem ended_cases (proper : Proper worker arrivals)
    (returned : (worker.slotsAfter arrivals).any Slot.isWaiting = false)
    (listed : worker.config.precache[position]? = some path) :
    (∃ cause, worker.urlFor path = .error cause ∧
        (∀ arrival ∈ arrivals, arrival.position ≠ position) ∧
        worker.reasonAfter arrivals position = some cause.text) ∨
      ∃ url arrival, worker.urlFor path = .ok url ∧ arrival ∈ arrivals ∧
        arrival.position = position ∧
        worker.reasonAfter arrivals position =
          ((Slot.start worker path).settle arrival.answer).reason? := by
  have settled := isWaiting_given returned listed
  rw [reasonAfter_eq listed]
  cases joined : worker.urlFor path with
  | error cause =>
    have apart (arrival : Arrival) (arrived : arrival ∈ arrivals) :
        arrival.position ≠ position := by
      rintro rfl
      obtain ⟨other, url, listedToo, joinedToo⟩ := proper.joined arrived
      obtain rfl := Option.some.inj (listed.symm.trans listedToo)
      rw [joined] at joinedToo
      cases joinedToo
    have absent : arrivals.find? (·.position = position) = none := by
      simpa [List.find?_eq_none] using apart
    refine Or.inl ⟨cause, rfl, apart, ?_⟩
    simp only [absent, Slot.given, Slot.start, joined, Slot.reason?]
  | ok url =>
    cases found : arrivals.find? (·.position = position) with
    | none =>
      rw [found, Slot.given, Slot.start_of_urlFor joined] at settled
      cases settled
    | some arrival =>
      have there : arrival.position = position := by simpa using List.find?_some found
      exact Or.inr ⟨url, arrival, rfl, List.mem_of_find?_eq_some found, there, rfl⟩

/-- What arrived for a position tells why it was not stored, if it was not. -/
theorem reasonAfter_of_arrived (proper : Proper worker arrivals) {arrival : Arrival}
    (arrived : arrival ∈ arrivals) :
    worker.reasonAfter arrivals arrival.position = match arrival.answer with
      | .ok response =>
        if response.status = 200 then none else some s!"status {response.status.toNat}"
      | .error cause => some cause.text := by
  obtain ⟨path, url, listed, _⟩ := proper.joined arrived
  rw [reasonAfter_eq listed, proper.find?_eq arrived, Slot.given, Slot.reason?_settle]

theorem accounts (proper : Proper worker arrivals)
    (returned : (worker.slotsAfter arrivals).any Slot.isWaiting = false) :
    (InstallReport.ofSlots (worker.slotsAfter arrivals)).Accounts worker arrivals
      (worker.reasonAfter arrivals) where
  cached := by
    simp only [InstallReport.ofSlots]
    rw [slotsAfter_eq, List.filterMap_map]
    refine List.filterMap_congr fun ⟨path, position⟩ member => ?_
    have listed : worker.config.precache[position]? = some path :=
      List.mem_zipIdx_iff_getElem?.mp member
    refine (Slot.cached_of_settled (isWaiting_given returned listed)).trans ?_
    rw [Slot.path_given, ← reasonAfter_eq listed]
  failed := by
    simp only [InstallReport.ofSlots]
    rw [slotsAfter_eq, List.filterMap_map]
    refine List.filterMap_congr fun ⟨path, position⟩ member => ?_
    have listed : worker.config.precache[position]? = some path :=
      List.mem_zipIdx_iff_getElem?.mp member
    refine (Slot.failed_eq _).trans ?_
    rw [Slot.path_given, ← reasonAfter_eq listed]
  stored_iff {position path} listed := by
    constructor
    · intro stored
      rcases proper.ended_cases returned listed with ⟨cause, _, _, fails⟩ |
        ⟨url, arrival, joined, arrived, there, ends⟩
      · rw [fails] at stored
        cases stored
      · refine ⟨⟨url, joined⟩, arrival, arrived, there, ?_⟩
        rw [ends, Slot.reason?_settle] at stored
        cases answered : arrival.answer with
        | error cause => simp [answered] at stored
        | ok response => exact ⟨response, rfl, by simpa [answered] using stored⟩
    · rintro ⟨_, arrival, arrived, rfl, response, answered, good⟩
      rw [proper.reasonAfter_of_arrived arrived, answered]
      exact if_pos good
  unjoined {position path cause} listed fails := by
    rcases proper.ended_cases returned listed with ⟨other, failsToo, _, ends⟩ |
      ⟨url, _, joined, _⟩
    · obtain rfl := Except.error.inj (fails.symm.trans failsToo)
      exact ends
    · rw [fails] at joined
      cases joined
  lost arrived answered := by rw [proper.reasonAfter_of_arrived arrived, answered]
  refused arrived answered bad := by
    rw [proper.reasonAfter_of_arrived arrived, answered]
    exact if_neg bad

/-- Nothing is awaited once an answer has arrived for every path that makes a URL. -/
theorem returned (complete : ∀ position path url,
      worker.config.precache[position]? = some path → worker.urlFor path = .ok url →
        ∃ arrival ∈ arrivals, arrival.position = position) :
    (worker.slotsAfter arrivals).any Slot.isWaiting = false := by
  refine List.any_eq_false.mpr fun slot member waits => ?_
  obtain ⟨position, present⟩ := List.getElem?_of_mem member
  rw [getElem?_slotsAfter, Option.map_eq_some_iff] at present
  obtain ⟨path, listed, rfl⟩ := present
  unfold Slot.isWaiting at waits
  split at waits
  · next request asked =>
    obtain ⟨absent, url, joined, _⟩ := Slot.given_asked asked
    obtain ⟨arrival, arrived, there⟩ := complete position path url listed joined
    have other := List.find?_eq_none.mp absent arrival arrived
    simp [there] at other
  · cases waits

end Proper

namespace Installation

variable {worker : Worker} {arrivals : List Arrival} {state : State} {stage : Installation}

/-- An installation that is as the answers that arrived make it. -/
def Reflects (worker : Worker) (arrivals : List Arrival) : Installation → Prop
  | starting | marking | opening => arrivals = []
  | warming _ slots => slots = worker.slotsAfter arrivals
  | looking report | activating report _ | ended report =>
    (worker.slotsAfter arrivals).any Slot.isWaiting = false ∧
      report = .ofSlots (worker.slotsAfter arrivals)

theorem Reflects.step (reflects : stage.Reflects worker arrivals) :
    (stage.step worker state).next.Reflects worker arrivals := by
  cases stage with
  | opening =>
    have empty : arrivals = [] := reflects
    subst empty
    exact (slotsAfter_nil worker).symm
  | warming store slots =>
    have same : slots = worker.slotsAfter arrivals := reflects
    subst same
    cases waiting : (worker.slotsAfter arrivals).any Slot.isWaiting with
    | true =>
      simp only [Installation.step, waiting, if_true]
      exact rfl
    | false =>
      simp only [Installation.step, waiting, Bool.false_eq_true, if_false]
      exact ⟨waiting, rfl⟩
  | looking report =>
    simp only [Installation.step]
    split <;> exact reflects
  | activating report activation => cases activation <;> exact reflects
  | _ => exact reflects

theorem Reflects.run (reflects : stage.Reflects worker arrivals) :
    (stage.run worker state).next.Reflects worker arrivals :=
  run_induction worker (motive := fun _ stage => stage.Reflects worker arrivals)
    (fun _ _ holds => holds.step) reflects

/-- What is awaited at a position has not arrived yet, and the path there makes a URL. -/
theorem Reflects.of_awaited (reflects : stage.Reflects worker arrivals) {position : Nat}
    {request : FetchRequest} (awaited : (position, request) ∈ stage.calls) :
    arrivals.find? (·.position = position) = none ∧
      ∃ path url, worker.config.precache[position]? = some path ∧
        worker.urlFor path = .ok url ∧ request = .get url := by
  cases stage with
  | warming store slots =>
    have same : slots = worker.slotsAfter arrivals := reflects
    subst same
    obtain ⟨slot, present, asked⟩ := mem_calls_warming.mp awaited
    rw [getElem?_slotsAfter, Option.map_eq_some_iff] at present
    obtain ⟨path, listed, rfl⟩ := present
    obtain ⟨first, url, joined, get⟩ := Slot.given_asked asked
    exact ⟨first, path, url, listed, joined, get⟩
  | _ => simp [calls] at awaited

theorem Reflects.receive (reflects : stage.Reflects worker arrivals) {arrival : Arrival}
    {request : FetchRequest} (awaited : (arrival.position, request) ∈ stage.calls) :
    (stage.receive arrival.position arrival.answer arrival.time state).next.Reflects worker
      (arrivals ++ [arrival]) := by
  obtain ⟨first, path, url, listed, _, _⟩ := reflects.of_awaited awaited
  rcases receive_cases arrival.position arrival.answer arrival.time state stage with ⟨none, _⟩ |
    ⟨store, slots, slot, asked, storage, rfl, present, _, settled, _⟩
  · exact absurd awaited (none request)
  · have same : slots = worker.slotsAfter arrivals := reflects
    subst same
    rw [getElem?_slotsAfter, listed, first, Option.map_some] at present
    obtain rfl := Option.some.inj present
    rw [settled]
    exact (slotsAfter_concat listed first).symm

/-- An installation that has all its answers goes on to its end. -/
theorem Reflects.run_ended (reflects : stage.Reflects worker arrivals)
    (returned : (worker.slotsAfter arrivals).any Slot.isWaiting = false) :
    ∃ report, (stage.run worker state).next = ended report := by
  have later : (stage.run worker state).next.Reflects worker arrivals := reflects.run
  rcases run_cases worker state stage with ⟨store, slots, waits, waiting⟩ | ends
  · rw [waits] at later
    have same : slots = worker.slotsAfter arrivals := later
    rw [same, returned] at waiting
    cases waiting
  · exact ends

end Installation

end OfflineSite.Worker
