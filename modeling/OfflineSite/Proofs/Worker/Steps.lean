import OfflineSite.Proofs.Worker.Activation
import OfflineSite.Worker.System

namespace OfflineSite.FetchResponse

theorem isStorable_iff {response : FetchResponse} :
    response.isStorable ↔ response.status = 200 := by
  simp [isStorable]

theorem isStorable_eq_false_iff {response : FetchResponse} :
    response.isStorable = false ↔ response.status ≠ 200 := by
  simp [isStorable]

end OfflineSite.FetchResponse

namespace OfflineSite.Worker

open Cache (Key Handle)
open Cache.Storage (Changes)

variable {deletes : String → Prop} {puts : Key → FetchResponse → Prop} {worker : Worker}

theorem openCurrent_changes (worker : Worker) (state : State) :
    Changes worker.version deletes puts state.storage (worker.openCurrent state).2.storage :=
  .openStore state.storage

theorem handle_changes (others : ∀ name, name ≠ worker.version → deletes name)
    {message : ControlMessage} (clears : message = .clearCache → deletes worker.version)
    (state : State) :
    Changes worker.version deletes puts state.storage
      (worker.handle message state).state.storage := by
  cases message with
  | skipWaiting =>
    simp only [handle, Handling.ofMessage, Handling.run, Handling.look]
    split
    · exact activate_changes others { state with skipsWaiting := true }
    · exact .refl _
  | clearCache => exact .delete state.storage (clears rfl)

theorem handleRaw_changes (others : ∀ name, name ≠ worker.version → deletes name)
    {raw : ByteArray} (clears : ControlMessage.parse raw = .ok .clearCache → deletes worker.version)
    (state : State) :
    Changes worker.version deletes puts state.storage
      (worker.handleRaw raw state).state.storage := by
  unfold handleRaw
  split
  · next message read => exact handle_changes others (fun same => clears (same ▸ read)) state
  · exact .refl _

theorem Slot.warming_settle_ne (slot : Slot) (answer : Except Failure FetchResponse)
    (request : FetchRequest) : (slot.settle answer).warming ≠ .asked request := by
  unfold Slot.settle
  split
  · split <;> exact nofun
  · exact nofun

/-- The state once the store is filled: the worker waits, or is activated if it skips waiting. -/
def installed (worker : Worker) (state : State) : State :=
  if state.skipsWaiting then (worker.activate { state with phase := .installed }).state
  else { state with phase := .installed }

theorem Slot.start_of_urlFor {path : String} {url : Url} (joined : worker.urlFor path = .ok url) :
    Slot.start worker path = ⟨path, .asked (.get url)⟩ := by
  simp only [start, joined]

/-- A request that an installation makes, for a path of the configuration. -/
inductive Precached (worker : Worker) : FetchRequest → Prop
  | of {path : String} {url : Url} (listed : path ∈ worker.config.precache)
      (joined : worker.urlFor path = .ok url) : Precached worker (.get url)

namespace Installation

/-- The activation that ends an installation, where it is under way. -/
def activation? : Installation → Option Activation
  | activating _ activation => some activation
  | _ => none

/-- An activation that is under way after a step has taken this step, or begins. -/
theorem activation?_step {state : State} {stage : Installation} {activation : Activation}
    (there : (stage.step worker state).next.activation? = some activation) :
    activation = .starting ∨ ∃ before, stage.activation? = some before ∧
      activation = (before.step worker state).next ∧
      (stage.step worker state).state = (before.step worker state).state := by
  cases stage with
  | warming store slots =>
    simp only [step] at there
    split at there <;> cases there
  | looking report =>
    simp only [step] at there
    split at there
    · exact Or.inl (Option.some.inj there).symm
    · cases there
  | activating report before =>
    cases before with
    | ended deleted => cases there
    | _ => exact Or.inr ⟨_, rfl, (Option.some.inj there).symm, rfl⟩
  | _ => cases there

theorem step_changes (state : State) {stage : Installation}
    (may : ∀ activation, stage.activation? = some activation →
      ∀ name ∈ activation.targets, deletes name) :
    Changes worker.version deletes puts state.storage (stage.step worker state).state.storage := by
  cases stage with
  | opening => exact openCurrent_changes worker state
  | warming store slots =>
    simp only [step]
    split <;> exact .refl _
  | looking report =>
    simp only [step]
    split <;> exact .refl _
  | activating report activation =>
    cases activation with
    | ended deleted => exact .refl _
    | _ => exact Activation.step_changes state (may _ rfl)
  | _ => exact .refl _

theorem run_eq {state : State} {stage : Installation}
    (notActivating : ∀ report activation, stage = activating report activation → False)
    (notEnded : ∀ report, stage = ended report → False) :
    stage.run worker state =
      if (stage.step worker state).next.rank < stage.rank then
        ((stage.step worker state).next.run worker (stage.step worker state).state).after
          (stage.step worker state).notices
      else stage.step worker state := by
  rw [run.eq_def]
  split
  · exact absurd rfl (notActivating _ _)
  · exact absurd rfl (notEnded _)
  · rfl

/-- What every step keeps holds where the network is awaited, or at the end. -/
theorem run_induction (worker : Worker) {motive : State → Installation → Prop}
    (step : ∀ state stage, motive state stage →
      motive (stage.step worker state).state (stage.step worker state).next)
    {state : State} {stage : Installation} (start : motive state stage) :
    motive (stage.run worker state).state (stage.run worker state).next := by
  induction state, stage using run.induct worker with
  | case1 state report activation =>
    have atEnd := Activation.run_induction worker
      (motive := fun state activation => motive state (activating report activation))
      (fun state activation holds => by
        have next := step state _ holds
        cases activation with
        | ended deleted => exact holds
        | _ => exact next) start
    rw [run]
    exact step _ _ atEnd
  | case2 state report =>
    rw [run]
    exact start
  | case3 state stage notActivating notEnded falls ih =>
    rw [run_eq notActivating notEnded, if_pos falls]
    exact ih (step state stage start)
  | case4 state stage notActivating notEnded stays =>
    rw [run_eq notActivating notEnded, if_neg stays]
    exact step state stage start

theorem run_changes (others : ∀ name, name ≠ worker.version → deletes name) (state : State)
    {stage : Installation} (may : ∀ activation, stage.activation? = some activation →
      ∀ name ∈ activation.targets, deletes name) :
    Changes worker.version deletes puts state.storage (stage.run worker state).state.storage := by
  refine (run_induction worker (motive := fun later stage =>
    Changes worker.version deletes puts state.storage later.storage ∧
      ∀ activation, stage.activation? = some activation →
        ∀ name ∈ activation.targets, deletes name) ?_ ⟨.refl _, may⟩).1
  intro later stage ⟨changes, may⟩
  refine ⟨changes.trans (step_changes later may), fun activation there name listed => ?_⟩
  rcases activation?_step there with rfl | ⟨before, under, rfl, _⟩
  · cases listed
  · exact (Activation.mem_targets_step listed).elim (may before under name) (others name)

/-- An installation that is not stopped half-way awaits answers or ends. -/
theorem run_cases (worker : Worker) (state : State) (stage : Installation) :
    (∃ store slots, (stage.run worker state).next = warming store slots ∧
        slots.any Slot.isWaiting) ∨
      ∃ report, (stage.run worker state).next = ended report := by
  induction state, stage using run.induct worker with
  | case1 state report activation =>
    rw [run]
    exact Or.inr ⟨report, rfl⟩
  | case2 state report =>
    rw [run]
    exact Or.inr ⟨report, rfl⟩
  | case3 state stage notActivating notEnded falls ih =>
    rw [run_eq notActivating notEnded, if_pos falls]
    exact ih
  | case4 state stage notActivating notEnded stays =>
    rw [run_eq notActivating notEnded, if_neg stays]
    -- The one stage besides the last that a step may not leave is the wait for answers.
    cases stage with
    | warming store slots =>
      by_cases waiting : slots.any Slot.isWaiting
      · simp only [step, waiting, if_true]
        exact Or.inl ⟨store, slots, rfl, waiting⟩
      · simp [step, waiting, rank] at stays
    | looking report =>
      simp only [step] at stays
      split at stays <;> simp [rank, Turn.quiet] at stays
    | activating report activation => exact (notActivating _ _ rfl).elim
    | ended report => exact (notEnded _ rfl).elim
    | _ => simp [step, rank, Turn.quiet] at stays

/-- Whether an installation awaits answers or has ended. -/
def rests : Installation → Bool
  | warming _ _ | ended _ => true
  | _ => false

theorem rests_run (worker : Worker) (state : State) (stage : Installation) :
    (stage.run worker state).next.rests := by
  rcases run_cases worker state stage with ⟨store, slots, waits, _⟩ | ⟨report, ends⟩
  · rw [waits]
    rfl
  · rw [ends]
    rfl

theorem activation?_of_rests {stage : Installation} (rests : stage.rests) :
    stage.activation? = none := by
  cases stage with
  | activating report activation => cases rests
  | _ => rfl

theorem mem_calls_warming {store : Handle} {slots : List Slot} {position : Nat}
    {request : FetchRequest} :
    (position, request) ∈ (warming store slots).calls ↔
      ∃ slot, slots[position]? = some slot ∧ slot.warming = .asked request := by
  simp only [calls, List.mem_filterMap, List.mem_zipIdx_iff_getElem?, Prod.exists]
  constructor
  · rintro ⟨slot, index, present, asked⟩
    cases state : slot.warming <;> simp [state] at asked
    obtain ⟨rfl, rfl⟩ := asked
    exact ⟨slot, present, state⟩
  · rintro ⟨slot, present, asked⟩
    exact ⟨slot, position, present, by simp [asked]⟩

theorem calls_unique {stage : Installation} {position : Nat} {request other : FetchRequest}
    (one : (position, request) ∈ stage.calls) (two : (position, other) ∈ stage.calls) :
    request = other := by
  cases stage with
  | warming store slots =>
    obtain ⟨slot, present, asked⟩ := mem_calls_warming.mp one
    obtain ⟨same, presentToo, askedToo⟩ := mem_calls_warming.mp two
    obtain rfl := Option.some.inj (present.symm.trans presentToo)
    exact Warming.asked.inj (asked.symm.trans askedToo)
  | _ => simp [calls] at one

theorem mem_calls_step {state : State} {stage : Installation} {call : Nat × FetchRequest}
    (asked : call ∈ (stage.step worker state).next.calls) :
    call ∈ stage.calls ∨ Precached worker call.2 := by
  cases stage with
  | opening =>
    obtain ⟨slot, present, warming⟩ := mem_calls_warming.mp asked
    obtain ⟨path, listed, started⟩ := List.mem_map.mp (List.mem_of_getElem? present)
    subst started
    unfold Slot.start at warming
    split at warming
    · next url joined =>
      injection warming with same
      exact Or.inr (same ▸ .of listed joined)
    · cases warming
  | warming store slots =>
    simp only [step] at asked
    split at asked
    · exact Or.inl asked
    · simp [calls] at asked
  | looking report =>
    simp only [step] at asked
    split at asked <;> simp [calls, Turn.quiet] at asked
  | activating report activation =>
    cases activation <;> simp [step, calls, Turn.quiet, Turn.map] at asked
  | _ => simp [step, calls, Turn.quiet] at asked

theorem mem_calls_run {state : State} {stage : Installation} {call : Nat × FetchRequest}
    (asked : call ∈ (stage.run worker state).next.calls) :
    call ∈ stage.calls ∨ Precached worker call.2 := by
  refine run_induction worker
    (motive := fun _ later => ∀ call ∈ later.calls, call ∈ stage.calls ∨ Precached worker call.2)
    ?_ (fun _ asked => Or.inl asked) call asked
  intro later further ih call asked
  rcases mem_calls_step asked with before | precached
  · exact ih call before
  · exact Or.inr precached

theorem run_of_waiting {state : State} {store : Handle} {slots : List Slot}
    (waiting : slots.any Slot.isWaiting) :
    (warming store slots).run worker state = .quiet (warming store slots) state := by
  have stays : (warming store slots).step worker state = .quiet (warming store slots) state := by
    simp only [step, waiting, if_true]
  rw [run_eq (by simp) (by simp), stays]
  exact if_neg (Nat.lt_irrefl _)

theorem run_activating {state : State} (report : InstallReport) :
    (activating report .starting).run worker state =
      (worker.activate state).map fun _ => ended report := by
  rw [run, activate]

/-- Once its fetches have returned, an installation waits, or activates the worker. -/
theorem run_returned (worker : Worker) (state : State) (store : Handle) {slots : List Slot}
    (returned : slots.any Slot.isWaiting = false) :
    ((warming store slots).run worker state).next = ended (.ofSlots slots) ∧
      ((warming store slots).run worker state).state = worker.installed state := by
  have filled : (warming store slots).step worker state =
      ⟨looking (.ofSlots slots), { state with phase := .installed },
        (InstallReport.ofSlots slots).notices worker⟩ := by
    simp only [step, returned, Bool.false_eq_true, if_false]
  rw [run_eq (by simp) (by simp), filled, if_pos (by simp [rank]),
    run_eq (by simp) (by simp)]
  unfold installed
  by_cases skips : state.skipsWaiting = true
  · have seen : (looking (.ofSlots slots)).step worker { state with phase := .installed } =
        .quiet (activating (.ofSlots slots) .starting) { state with phase := .installed } := by
      simp only [step, skips, if_true]
    rw [seen, if_pos (by simp [rank, Turn.quiet]), if_pos skips]
    simp only [Turn.quiet, run_activating]
    exact ⟨rfl, rfl⟩
  · have seen : (looking (.ofSlots slots)).step worker { state with phase := .installed } =
        ⟨ended (.ofSlots slots), { state with phase := .installed },
          [.waiting worker.version]⟩ := by
      simp only [step, skips]
      rfl
    rw [seen, if_pos (by simp [rank]), run, if_neg skips]
    exact ⟨rfl, rfl⟩

theorem run_starting (worker : Worker) (state : State) :
    let opened := worker.openCurrent
      { state with
        phase := .installing
        skipsWaiting := state.skipsWaiting || worker.config.skipWaitingOnInstall }
    starting.run worker state =
      ((warming opened.1 (worker.config.precache.map (Slot.start worker))).run worker
        opened.2).after [.installing worker.version] := by
  rw [run_eq (by simp) (by simp), if_pos (by simp [step, rank]),
    run_eq (by simp [step]) (by simp [step]), if_pos (by simp [step, rank, Turn.quiet]),
    run_eq (by simp [step, Turn.quiet]) (by simp [step, Turn.quiet]),
    if_pos (by simp [step, rank, Turn.quiet])]
  rfl

/-- The state in which an installation awaits answers, with the store it has opened. -/
def begun (worker : Worker) (state : State) : State :=
  (worker.openCurrent
    { state with
      phase := .installing
      skipsWaiting := state.skipsWaiting || worker.config.skipWaitingOnInstall }).2

theorem run_starting_of_waiting (state : State) {slots : List Slot}
    (listed : worker.config.precache.map (Slot.start worker) = slots)
    (waiting : slots.any Slot.isWaiting) :
    ∃ store, starting.run worker state =
      ⟨warming store slots, begun worker state, [.installing worker.version]⟩ := by
  simp only [run_starting, listed, run_of_waiting waiting]
  exact ⟨_, rfl⟩

theorem exists_call_of_isWaiting (store : Handle) {slots : List Slot}
    (waiting : slots.any Slot.isWaiting) :
    ∃ position request, (position, request) ∈ (warming store slots).calls := by
  obtain ⟨slot, member, waits⟩ := List.any_eq_true.mp waiting
  obtain ⟨position, present⟩ := List.getElem?_of_mem member
  unfold Slot.isWaiting at waits
  split at waits
  · next request asked =>
    exact ⟨position, request, mem_calls_warming.mpr ⟨slot, present, asked⟩⟩
  · cases waits

/-- Either nothing is awaited at a position and nothing happens, or the slot there is settled and
its answer stored if it can be. -/
theorem receive_cases (position : Nat) (answer : Except Failure FetchResponse) (now : Timestamp)
    (state : State) (stage : Installation) :
    (∀ request, (position, request) ∉ stage.calls) ∧
        stage.receive position answer now state = .quiet stage state ∨
      ∃ store slots slot request storage, stage = warming store slots ∧
        slots[position]? = some slot ∧ slot.warming = .asked request ∧
        stage.receive position answer now state =
          .quiet (warming store (slots.set position (slot.settle answer)))
            { state with storage } ∧
        ((∀ response, answer = .ok response → response.isStorable = false) ∧
            storage = state.storage ∨
          ∃ response, answer = .ok response ∧ response.isStorable ∧
            storage = state.storage.put store request.key response now) := by
  cases stage with
  | warming store slots =>
    by_cases waiting : ∃ slot request, slots[position]? = some slot ∧
        slot.warming = .asked request
    · obtain ⟨slot, request, present, asked⟩ := waiting
      right
      cases answer with
      | error cause =>
        refine ⟨store, slots, slot, request, state.storage, rfl, present, asked, ?_,
          Or.inl ⟨nofun, rfl⟩⟩
        simp only [receive, present, asked]
      | ok response =>
        by_cases storable : response.isStorable
        · refine ⟨store, slots, slot, request, _, rfl, present, asked, ?_,
            Or.inr ⟨response, rfl, storable, rfl⟩⟩
          simp only [receive, present, asked, storable, if_true]
        · refine ⟨store, slots, slot, request, state.storage, rfl, present, asked, ?_,
            Or.inl ⟨?_, rfl⟩⟩
          · simp only [receive, present, asked, storable, if_false, Bool.false_eq_true]
          · intro other same
            cases same
            simpa using storable
    · refine Or.inl ⟨?_, ?_⟩
      · intro request called
        obtain ⟨slot, present, asked⟩ := mem_calls_warming.mp called
        exact waiting ⟨slot, request, present, asked⟩
      · simp only [receive]
        cases present : slots[position]? with
        | none => rfl
        | some slot =>
          cases asked : slot.warming with
          | asked request => exact absurd ⟨slot, request, present, asked⟩ waiting
          | _ => simp only [asked]
  | _ => exact Or.inl ⟨by simp [calls], rfl⟩

theorem receive_changes {position : Nat} {answer : Except Failure FetchResponse}
    {now : Timestamp} {state : State} {stage : Installation}
    (admitted : ∀ request response, (position, request) ∈ stage.calls → answer = .ok response →
      response.isStorable → puts request.key response) :
    Changes worker.version deletes puts state.storage
      (stage.receive position answer now state).state.storage := by
  rcases receive_cases position answer now state stage with ⟨_, idle⟩ |
    ⟨store, slots, slot, request, storage, rfl, present, asked, settled, stored⟩
  · rw [idle]
    exact .refl _
  · rw [settled]
    rcases stored with ⟨_, rfl⟩ | ⟨response, rfl, storable, rfl⟩
    · exact .refl _
    · exact .put _ _ now (admitted request response
        (mem_calls_warming.mpr ⟨slot, present, asked⟩) rfl storable)

/-- An answer that is taken in makes no new fetch. -/
theorem mem_calls_receive {position : Nat} {answer : Except Failure FetchResponse}
    {now : Timestamp} {state : State} {stage : Installation} {call : Nat × FetchRequest}
    (asked : call ∈ (stage.receive position answer now state).next.calls) :
    call ∈ stage.calls := by
  rcases receive_cases position answer now state stage with ⟨_, idle⟩ |
    ⟨store, slots, slot, request, storage, rfl, _, _, settled, _⟩
  · rwa [idle] at asked
  · rw [settled] at asked
    obtain ⟨other, present, waiting⟩ := mem_calls_warming.mp asked
    refine mem_calls_warming.mpr ⟨other, ?_, waiting⟩
    rw [List.getElem?_set] at present
    split at present
    · split at present
      · obtain rfl := Option.some.inj present
        exact absurd waiting (slot.warming_settle_ne answer call.2)
      · simp at present
    · exact present

end Installation

namespace Exchange

/-- The three ways in which a request is taken: it is handed on, it is looked for in vain, or it is
answered at once and fetched again in the background. -/
theorem start_cases (worker : Worker) (request : FetchRequest) (state : State) :
    (state.phase ≠ .activated ∨ request.isCacheable = false) ∧
        start worker request state = .quiet (passing request, none) state ∨
      state.phase = .activated ∧ request.isCacheable ∧
        (state.storage.matchRequest request.key = none ∧
            start worker request state = .quiet (missing request, none) state ∨
          ∃ response, state.storage.matchRequest request.key = some response ∧
            start worker request state =
              ⟨(ended (.ok ⟨.cache, response⟩), some ⟨(worker.openCurrent state).1, request⟩),
                (worker.openCurrent state).2, [.hit request.key.url]⟩) := by
  by_cases passes : state.phase ≠ .activated ∨ !request.isCacheable
  · refine Or.inl ⟨by simpa using passes, ?_⟩
    simp only [start, if_pos passes]
  · have answers : state.phase = .activated ∧ request.isCacheable := by
      simpa [not_or] using passes
    refine Or.inr ⟨answers.1, answers.2, ?_⟩
    cases found : state.storage.matchRequest request.key with
    | none => exact Or.inl ⟨rfl, by simp only [start, if_neg passes, found]⟩
    | some response => exact Or.inr ⟨response, rfl, by simp only [start, if_neg passes, found]⟩

/-- A request that the cache may answer is looked up. -/
theorem start_of_cacheable (worker : Worker) {request : FetchRequest} {state : State}
    (activated : state.phase = .activated) (cacheable : request.isCacheable) :
    state.storage.matchRequest request.key = none ∧
        start worker request state = .quiet (missing request, none) state ∨
      ∃ response, state.storage.matchRequest request.key = some response ∧
        start worker request state =
          ⟨(ended (.ok ⟨.cache, response⟩), some ⟨(worker.openCurrent state).1, request⟩),
            (worker.openCurrent state).2, [.hit request.key.url]⟩ := by
  rcases start_cases worker request state with ⟨passes, _⟩ | ⟨_, _, looked⟩
  · rcases passes with idle | uncacheable
    · exact absurd activated idle
    · rw [uncacheable] at cacheable
      cases cacheable
  · exact looked

/-- Taking a request changes nothing but the storage. -/
theorem exists_storage_start (worker : Worker) (request : FetchRequest) (state : State) :
    ∃ storage, (start worker request state).state = { state with storage } := by
  rcases start_cases worker request state with ⟨_, passes⟩ | ⟨_, _, ⟨_, misses⟩ | ⟨_, _, hits⟩⟩
  · exact ⟨_, congrArg (·.state) passes⟩
  · exact ⟨_, congrArg (·.state) misses⟩
  · exact ⟨_, congrArg (·.state) hits⟩

theorem start_changes (worker : Worker) (request : FetchRequest) (state : State) :
    Changes worker.version deletes puts state.storage
      (start worker request state).state.storage := by
  rcases start_cases worker request state with ⟨_, passes⟩ | ⟨_, _, ⟨_, misses⟩ | ⟨_, _, hits⟩⟩
  · rw [passes]
    exact .refl _
  · rw [misses]
    exact .refl _
  · rw [hits]
    exact openCurrent_changes worker state

theorem call?_start {worker : Worker} {request asked : FetchRequest} {state : State}
    (awaited : (start worker request state).next.1.call? = some asked) : asked = request := by
  rcases start_cases worker request state with ⟨_, passes⟩ | ⟨_, _, ⟨_, misses⟩ | ⟨_, _, hits⟩⟩
  · rw [passes] at awaited
    exact (Option.some.inj awaited).symm
  · rw [misses] at awaited
    exact (Option.some.inj awaited).symm
  · rw [hits] at awaited
    cases awaited

theorem request_of_start {worker : Worker} {request : FetchRequest} {state : State}
    {pending : Refresh} (begun : (start worker request state).next.2 = some pending) :
    pending.request = request ∧ request.isCacheable := by
  rcases start_cases worker request state with ⟨_, passes⟩ |
    ⟨_, cacheable, ⟨_, misses⟩ | ⟨_, _, hits⟩⟩
  · rw [passes] at begun
    cases begun
  · rw [misses] at begun
    cases begun
  · rw [hits] at begun
    obtain rfl := Option.some.inj begun
    exact ⟨rfl, cacheable⟩

theorem receive_changes {answer : Except Failure FetchResponse} {now : Timestamp} {state : State}
    {stage : Exchange}
    (admitted : ∀ request response, stage = missing request → answer = .ok response →
      response.isStorable → puts request.key response) :
    Changes worker.version deletes puts state.storage
      (stage.receive worker answer now state).state.storage := by
  cases stage with
  | missing request =>
    cases answer with
    | ok response =>
      simp only [receive]
      split
      · next storable =>
        exact (openCurrent_changes worker state).trans
          (.put _ _ now (admitted request response rfl rfl storable))
      · exact .refl _
    | error cause =>
      simp only [receive]
      split
      · split <;> exact .refl _
      · exact .refl _
  | _ => exact .refl _

theorem exists_storage_receive (worker : Worker) (answer : Except Failure FetchResponse)
    (now : Timestamp) (state : State) (stage : Exchange) :
    ∃ storage, (stage.receive worker answer now state).state = { state with storage } := by
  cases stage with
  | missing request =>
    cases answer with
    | ok response =>
      simp only [receive]
      split <;> exact ⟨_, rfl⟩
    | error cause =>
      simp only [receive]
      split
      · split <;> exact ⟨_, rfl⟩
      · exact ⟨_, rfl⟩
  | _ => exact ⟨_, rfl⟩

/-- An answer ends what awaits it. -/
theorem call?_receive (worker : Worker) (answer : Except Failure FetchResponse) (now : Timestamp)
    (state : State) (stage : Exchange) :
    (stage.receive worker answer now state).next.call? = none := by
  cases stage with
  | missing request =>
    cases answer with
    | ok response =>
      simp only [receive]
      split <;> rfl
    | error cause =>
      simp only [receive]
      split
      · split <;> rfl
      · rfl
  | _ => rfl

/-- An answer that comes in is handed on, or the fallback page stands in for it. -/
theorem reply_cases {answer : Except Failure FetchResponse} {now : Timestamp} {state : State}
    {stage : Exchange} {request : FetchRequest} {reply : Reply}
    (underWay : stage.call? = some request)
    (ended : (stage.receive worker answer now state).next = .ended (.ok reply)) :
    reply.source = .network ∧ answer = .ok reply.response ∨
      reply.source = .fallback ∧ stage = .missing request ∧
        worker.fallbackPage? state = some reply.response := by
  cases stage with
  | passing asked =>
    cases answer <;> cases ended
    exact Or.inl ⟨rfl, rfl⟩
  | missing asked =>
    cases answer with
    | ok response =>
      simp only [receive] at ended
      split at ended <;> cases ended <;> exact Or.inl ⟨rfl, rfl⟩
    | error cause =>
      simp only [receive] at ended
      split at ended
      · split at ended
        · next page found =>
          cases ended
          exact Or.inr ⟨rfl, congrArg missing (Option.some.inj underWay), found⟩
        · cases ended
      · cases ended
  | ended result => cases underWay

end Exchange

theorem Refresh.receive_changes {answer : Except Failure FetchResponse} {now : Timestamp}
    {state : State} {pending : Refresh}
    (admitted : ∀ response, answer = .ok response → response.isStorable →
      puts pending.request.key response) :
    Changes worker.version deletes puts state.storage
      (pending.receive answer now state).state.storage := by
  cases answer with
  | ok response =>
    simp only [receive]
    split
    · next storable => exact .put _ _ now (admitted response rfl storable)
    · exact .refl _
  | error cause => exact .refl _

theorem Refresh.exists_storage_receive (answer : Except Failure FetchResponse) (now : Timestamp)
    (state : State) (pending : Refresh) :
    ∃ storage, (pending.receive answer now state).state = { state with storage } := by
  cases answer with
  | ok response =>
    simp only [receive]
    split <;> exact ⟨_, rfl⟩
  | error cause => exact ⟨_, rfl⟩

namespace Task

/-- The activation that a task is in, if it is. -/
def activation? : Task → Option Activation
  | installation stage => stage.activation?
  | _ => none

/-- Whether what a task is answered may be stored: all but the answers that are only handed on. -/
def stores : Task → Bool
  | exchange (.passing _) => false
  | _ => true

theorem mem_calls_of_lookup {task : Task} {position : Nat} {request : FetchRequest}
    (asked : task.calls.lookup position = some request) : (position, request) ∈ task.calls := by
  obtain ⟨before, after, whole, _⟩ := List.lookup_eq_some_iff.mp asked
  simp [whole]

theorem request_of_calls_start {request : FetchRequest} {state : State}
    {call : Nat × FetchRequest}
    (awaited : call ∈ (exchange (Exchange.start worker request state).next.1).calls) :
    call.2 = request := by
  simp only [calls, Option.mem_toList, Option.map_eq_some_iff] at awaited
  obtain ⟨asked, same, rfl⟩ := awaited
  exact Exchange.call?_start same

theorem receive_changes {position : Nat} {answer : Except Failure FetchResponse} {now : Timestamp}
    {state : State} {task : Task} {request : FetchRequest}
    (asked : task.calls.lookup position = some request)
    (admitted : ∀ response, task.stores → answer = .ok response → response.isStorable →
      puts request.key response) :
    Changes worker.version deletes puts state.storage
      (task.receive worker position answer now state).state.storage := by
  have called := mem_calls_of_lookup asked
  cases task with
  | installation stage =>
    refine Installation.receive_changes fun other response calledToo => ?_
    obtain rfl := Installation.calls_unique called calledToo
    exact admitted response rfl
  | exchange stage =>
    refine Exchange.receive_changes fun other response missing => ?_
    subst missing
    simp only [calls, Exchange.call?, Option.map_some, Option.toList_some, List.mem_singleton,
      Prod.mk.injEq] at called
    rw [← called.2]
    exact admitted response rfl
  | refresh pending =>
    refine Refresh.receive_changes fun response => ?_
    simp only [calls, List.mem_singleton, Prod.mk.injEq] at called
    rw [← called.2]
    exact admitted response rfl
  | refreshed => exact .refl _

/-- Taking an answer in changes nothing but the storage. -/
theorem exists_storage_receive (worker : Worker) (position : Nat)
    (answer : Except Failure FetchResponse) (now : Timestamp) (state : State) (task : Task) :
    ∃ storage,
      (task.receive worker position answer now state).state = { state with storage } := by
  cases task with
  | installation stage =>
    rcases Installation.receive_cases position answer now state stage with ⟨_, idle⟩ |
      ⟨_, _, _, _, storage, _, _, _, settled, _⟩
    · exact ⟨_, congrArg (·.state) idle⟩
    · exact ⟨storage, congrArg (·.state) settled⟩
  | exchange stage => exact Exchange.exists_storage_receive worker answer now state stage
  | refresh pending => exact Refresh.exists_storage_receive answer now state pending
  | refreshed => exact ⟨_, rfl⟩

theorem mem_calls_receive {position : Nat} {answer : Except Failure FetchResponse}
    {now : Timestamp} {state : State} {task : Task} {call : Nat × FetchRequest}
    (asked : call ∈ (task.receive worker position answer now state).next.calls) :
    call ∈ task.calls := by
  cases task with
  | installation stage => exact Installation.mem_calls_receive asked
  | exchange stage =>
    simp only [receive, Turn.map, calls, Exchange.call?_receive] at asked
    simp at asked
  | refresh pending => simp [receive, Turn.map, calls] at asked
  | refreshed => exact asked

theorem proceed_changes (others : ∀ name, name ≠ worker.version → deletes name) (state : State)
    {task : Task} (may : ∀ activation, task.activation? = some activation →
      ∀ name ∈ activation.targets, deletes name) :
    Changes worker.version deletes puts state.storage
      (task.proceed worker state).state.storage := by
  cases task with
  | installation stage => exact Installation.run_changes others state may
  | _ => exact .refl _

theorem mem_calls_proceed {state : State} {task : Task} {call : Nat × FetchRequest}
    (asked : call ∈ (task.proceed worker state).next.calls) :
    call ∈ task.calls ∨ Precached worker call.2 := by
  cases task with
  | installation stage => exact Installation.mem_calls_run asked
  | _ => exact Or.inl asked

end Task

end OfflineSite.Worker
