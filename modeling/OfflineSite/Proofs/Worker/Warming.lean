import OfflineSite.Proofs.Worker.Conservation
import OfflineSite.Proofs.Worker.Refreshing
import OfflineSite.Proofs.Worker.Report

namespace OfflineSite.Worker

open Cache (Entry Key Storage)

/-- What an arrival leaves under a key: its response, if the path at its position makes a URL with
this key and the status is 200. -/
def Arrival.leaves? (worker : Worker) (key : Key) (arrival : Arrival) : Option Entry :=
  match (worker.config.precache[arrival.position]?).map worker.urlFor, arrival.answer with
  | some (.ok url), .ok response =>
    if response.status = 200 ∧ Key.get url = key then some ⟨response, arrival.time⟩ else none
  | _, _ => none

namespace Installation

variable {worker : Worker} {arrivals : List Arrival} {state : State} {stage : Installation}

/-- An installation that awaits answers holds the current store. -/
def HoldsCurrent (worker : Worker) (state : State) (stage : Installation) : Prop :=
  ∀ store slots, stage = warming store slots →
    state.storage.find? worker.version = some store

theorem HoldsCurrent.step (holds : stage.HoldsCurrent worker state) :
    (stage.step worker state).next.HoldsCurrent worker (stage.step worker state).state := by
  intro store slots same
  cases stage with
  | opening =>
    cases same
    exact Storage.find?_openStore state.storage worker.version
  | warming other waited =>
    simp only [Installation.step] at same ⊢
    split at same
    · next waiting =>
      rw [if_pos waiting]
      exact holds store slots same
    · cases same
  | looking report =>
    simp only [Installation.step] at same
    split at same <;> cases same
  | activating report activation => cases activation <;> cases same
  | _ => cases same

theorem HoldsCurrent.run (holds : stage.HoldsCurrent worker state) :
    (stage.run worker state).next.HoldsCurrent worker (stage.run worker state).state :=
  run_induction worker (motive := fun state stage => stage.HoldsCurrent worker state)
    (fun _ _ holds => holds.step) holds

theorem HoldsCurrent.receive (holds : stage.HoldsCurrent worker state) {position : Nat}
    {answer : Except Failure FetchResponse} {time : Timestamp} :
    (stage.receive position answer time state).next.HoldsCurrent worker
      (stage.receive position answer time state).state := by
  rcases receive_cases position answer time state stage with ⟨_, idle⟩ |
    ⟨store, slots, slot, asked, storage, rfl, _, _, settled, stored⟩
  · rw [idle]
    exact holds
  · rw [settled]
    rintro _ _ ⟨rfl, rfl⟩
    have current := holds store slots rfl
    rcases stored with ⟨_, rfl⟩ | ⟨response, _, _, rfl⟩ <;> exact current

/-- What arrives is left in the current store, or that store is left as it is. -/
theorem held?_receive (reflects : stage.Reflects worker arrivals)
    (holds : stage.HoldsCurrent worker state) {arrival : Arrival} {request : FetchRequest}
    (awaited : (arrival.position, request) ∈ stage.calls) (key : Key) :
    (stage.receive arrival.position arrival.answer arrival.time state).state.storage.held?
        worker.version key =
      (arrival.leaves? worker key).or (state.storage.held? worker.version key) := by
  rcases receive_cases arrival.position arrival.answer arrival.time state stage with ⟨none, _⟩ |
    ⟨store, slots, slot, asked, storage, rfl, present, asks, settled, stored⟩
  · exact absurd awaited (none request)
  · obtain ⟨_, path, url, listed, joined, rfl⟩ :=
      reflects.of_awaited (mem_calls_warming.mpr ⟨slot, present, asks⟩)
    have current := holds store slots rfl
    rw [settled]
    rcases stored with ⟨useless, rfl⟩ | ⟨response, answered, storable, rfl⟩
    · have nothing : arrival.leaves? worker key = none := by
        cases answered : arrival.answer with
        | error cause => simp [Arrival.leaves?, listed, joined, answered]
        | ok response =>
          have bad : response.status ≠ 200 :=
            FetchResponse.isStorable_eq_false_iff.mp (useless response answered)
          simp [Arrival.leaves?, listed, joined, answered, bad]
      rw [nothing, Option.none_or]
      rfl
    · have good : response.status = 200 := FetchResponse.isStorable_iff.mp storable
      have left : arrival.leaves? worker key =
          if Key.get url = key then some ⟨response, arrival.time⟩ else none := by
        simp [Arrival.leaves?, listed, joined, answered, good]
      have sameKey : (FetchRequest.get url).key = Key.get url := rfl
      refine (Storage.held?_put current _ response arrival.time worker.version key).trans ?_
      rw [left, sameKey]
      by_cases same : Key.get url = key
      · simp [same]
      · simp [same, Ne.symm same]

end Installation

namespace Interleaving

/-- The answer that a move brings to the installation of a number, if its fetch is under way. -/
def arrival? (now : Interleaving) (number : Nat) : Move → Option Arrival
  | .whole (.answer other position answer time) =>
    if other = number ∧ (now.system.call? number position).isSome then
      some ⟨position, answer, time⟩
    else none
  | _ => none

/-- The answers that moves bring to the installation of a number, in the order in which they
arrive. -/
def arrivals (worker : Worker) (number : Nat) : Interleaving → List Move → List Arrival
  | _, [] => []
  | now, move :: rest =>
    (now.arrival? number move).toList ++ (now.next worker move).arrivals worker number rest

variable {worker : Worker} {now : Interleaving} {number : Nat} {stage : Installation}
  {move : Move} {arrivals : List Arrival}

/-- What becomes of an installation with a move: it takes an answer in, or goes on, or the move is
none of its own. -/
inductive Continues (worker : Worker) (now : Interleaving) (number : Nat) (stage : Installation)
    (move : Move) : Installation → Prop
  | received {arrival : Arrival} {request : FetchRequest}
      (arrived : now.arrival? number move = some arrival)
      (awaited : (arrival.position, request) ∈ stage.calls)
      (state : (now.next worker move).state =
        (stage.receive arrival.position arrival.answer arrival.time now.state).state) :
      Continues worker now number stage move
        (stage.receive arrival.position arrival.answer arrival.time now.state).next
  | stepped (none : now.arrival? number move = none)
      (state : (now.next worker move).state = (stage.step worker now.state).state) :
      Continues worker now number stage move (stage.step worker now.state).next
  | ran (none : now.arrival? number move = none)
      (state : (now.next worker move).state = (stage.run worker now.state).state) :
      Continues worker now number stage move (stage.run worker now.state).next
  | kept (none : now.arrival? number move = none) : Continues worker now number stage move stage

theorem continues_answer {other position : Nat} {answer : Except Failure FetchResponse}
    {time : Timestamp} (present : now.system.task? number = some (.installation stage)) :
    ∃ following,
      (now.next worker (.whole (.answer other position answer time))).system.task? number =
        some (.installation following) ∧
      Continues worker now number stage (.whole (.answer other position answer time))
        following := by
  by_cases same : other = number
  · subst same
    cases underWay : now.system.call? other position with
    | some request =>
      obtain ⟨task, there, asked, after⟩ := System.task?_answer worker underWay answer time
      obtain rfl := Option.some.inj (there.symm.trans present)
      have arrived : now.arrival? other (.whole (.answer other position answer time)) =
          some ⟨position, answer, time⟩ := by
        simp only [arrival?, underWay, Option.isSome_some, and_self, if_true]
      refine ⟨_, after, .received arrived (Task.mem_calls_of_lookup asked) ?_⟩
      simp only [Interleaving.next, Interleaving.state, Run.next, System.perform, underWay,
        System.receive, System.state_advance present]
      rfl
    | none =>
      refine ⟨stage, ?_, .kept ?_⟩
      · simp only [Interleaving.next, Run.next, System.perform, underWay]
        exact present
      · simp [arrival?, underWay]
  · refine ⟨stage, ?_, .kept ?_⟩
    · simp only [Interleaving.next, Run.next, System.perform]
      split
      · exact (System.task?_advance_of_ne same).trans present
      · exact present
    · simp [arrival?, same]

theorem continues_next (worker : Worker)
    (present : now.system.task? number = some (.installation stage)) (move : Move) :
    ∃ following, (now.next worker move).system.task? number = some (.installation following) ∧
      Continues worker now number stage move following := by
  have begun : number < now.system.next := (List.getElem?_eq_some_iff.mp present).1
  cases move with
  | whole operation =>
    cases operation with
    | install => exact ⟨stage, (System.task?_add_of_lt begun).trans present, .kept rfl⟩
    | fetch request => exact ⟨stage, (System.task?_fetch_of_lt begun).trans present, .kept rfl⟩
    | answer other position answer time => exact continues_answer present
    | proceed other =>
      by_cases same : other = number
      · subst same
        exact ⟨_, System.task?_advance_self present, .ran rfl (System.state_advance present)⟩
      · exact ⟨stage, (System.task?_advance_of_ne same).trans present, .kept rfl⟩
    | _ => exact ⟨stage, present, .kept rfl⟩
  | install => exact ⟨stage, (System.task?_add_of_lt begun).trans present, .kept rfl⟩
  | step place =>
    cases place with
    | task other =>
      by_cases same : other = number
      · subst same
        exact ⟨_, System.task?_advance_self present, .stepped rfl (System.state_advance present)⟩
      · exact ⟨stage, (System.task?_advance_of_ne same).trans present, .kept rfl⟩
    | thread other =>
      refine ⟨stage, ?_, .kept rfl⟩
      simp only [Interleaving.next]
      split <;> exact present
  | _ => exact ⟨stage, present, .kept rfl⟩

/-- The installation of a number is as the answers that arrived make it. -/
structure Tracks (worker : Worker) (number : Nat) (now : Interleaving) (arrivals : List Arrival) :
    Prop where
  stage : ∃ stage, now.system.task? number = some (.installation stage) ∧
    stage.Reflects worker arrivals
  proper : Proper worker arrivals

theorem tracks_install (worker : Worker) (now : Interleaving) :
    (now.next worker .install).Tracks worker now.system.next [] where
  stage := ⟨.starting, by simp [next, goOn, System.task?, System.add, System.next], rfl⟩
  proper := ⟨.nil, nofun⟩

theorem Tracks.next (tracks : now.Tracks worker number arrivals) (move : Move) :
    (now.next worker move).Tracks worker number
      (arrivals ++ (now.arrival? number move).toList) := by
  obtain ⟨stage, present, reflects⟩ := tracks.stage
  obtain ⟨following, there, continues⟩ := continues_next worker present move
  cases continues with
  | @received arrival request arrived awaited state =>
    rw [arrived, Option.toList_some]
    obtain ⟨first, path, url, listed, joined, _⟩ := reflects.of_awaited awaited
    refine ⟨⟨_, there, reflects.receive awaited⟩, ?_, ?_⟩
    · have fresh (earlier : Arrival) (member : earlier ∈ arrivals) :
          earlier.position ≠ arrival.position := by
        simpa using List.find?_eq_none.mp first earlier member
      rw [List.map_append, List.nodup_append]
      refine ⟨tracks.proper.distinct, List.pairwise_singleton .., ?_⟩
      simpa using fresh
    · intro other member
      rcases List.mem_append.mp member with earlier | last
      · exact tracks.proper.joined earlier
      · rw [List.mem_singleton.mp last]
        exact ⟨path, url, listed, joined⟩
  | stepped none _ =>
    rw [none, Option.toList_none, List.append_nil]
    exact ⟨⟨_, there, reflects.step⟩, tracks.proper⟩
  | ran none _ =>
    rw [none, Option.toList_none, List.append_nil]
    exact ⟨⟨_, there, reflects.run⟩, tracks.proper⟩
  | kept none =>
    rw [none, Option.toList_none, List.append_nil]
    exact ⟨⟨_, there, reflects⟩, tracks.proper⟩

theorem Tracks.after (tracks : now.Tracks worker number arrivals) (moves : List Move) :
    (now.after worker moves).Tracks worker number
      (arrivals ++ now.arrivals worker number moves) := by
  induction moves generalizing now arrivals with
  | nil =>
    rw [Interleaving.arrivals, List.append_nil]
    exact tracks
  | cons move rest ih =>
    rw [Interleaving.arrivals, ← List.append_assoc]
    exact ih (tracks.next move)

/-- What a move may do so that a key of the current store is left to an installation. -/
def LeavesKey (number : Nat) (key : Key) (now : Interleaving) (move : Move) : Prop :=
  ¬ now.Clears move ∧
    ∀ response, now.Writes key response move → (now.arrival? number move).isSome

/-- The moves of an installation on its own: its steps, and the answers to its fetches. -/
def IsOwn (number : Nat) : Move → Prop
  | .whole (.answer other _ _ _) | .whole (.proceed other) | .step (.task other) => other = number
  | _ => False

theorem leavesKey_of_isOwn {key : Key} (own : IsOwn number move) :
    now.LeavesKey number key move := by
  cases move with
  | whole operation =>
    cases operation with
    | answer other position answer time =>
      obtain rfl : other = number := own
      refine ⟨id, fun response ⟨_, _, task, request, present, _, asked, _⟩ => ?_⟩
      have underWay : now.system.call? other position = some request :=
        Option.bind_eq_some_iff.mpr ⟨task, present, asked⟩
      simp [arrival?, underWay]
    | proceed other => exact ⟨id, fun _ writes => writes.elim⟩
    | _ => exact own.elim
  | step place =>
    cases place with
    | task other => exact ⟨id, fun _ writes => writes.elim⟩
    | thread other => exact own.elim
  | _ => exact own.elim

/-- An installation with nothing else in between has every key to itself. -/
theorem throughout_of_isOwn {key : Key} {moves : List Move}
    (own : ∀ move ∈ moves, IsOwn number move) :
    now.Throughout worker (LeavesKey number key) moves := by
  induction moves generalizing now with
  | nil => trivial
  | cons move rest ih =>
    exact ⟨leavesKey_of_isOwn (own move List.mem_cons_self),
      ih fun later listed => own later (List.mem_cons_of_mem _ listed)⟩

/-- Under a key the current store holds what arrived last for it, or else what it held at first. -/
structure Fills (worker : Worker) (number : Nat) (key : Key) (first : Option Entry)
    (now : Interleaving) (arrivals : List Arrival) : Prop where
  spares : now.Spares worker
  current {stage : Installation}
    (there : now.system.task? number = some (.installation stage)) :
    stage.HoldsCurrent worker now.state
  held : now.storage.held? worker.version key =
    (arrivals.reverse.findSome? (Arrival.leaves? worker key)).or first

theorem fills_install (spares : now.Spares worker) (key : Key) :
    (now.next worker .install).Fills worker now.system.next key
      (now.storage.held? worker.version key) [] where
  spares := spares.next .install
  current {stage} there := by
    have begins : now.system.task? now.system.next = none :=
      List.getElem?_eq_none (Nat.le_refl _)
    rcases System.task?_add there with old | ⟨_, same⟩
    · rw [begins] at old
      cases old
    · rw [Task.installation.inj same]
      exact nofun
  held := rfl

theorem Fills.next {key : Key} {first : Option Entry}
    (fills : now.Fills worker number key first arrivals)
    (tracks : now.Tracks worker number arrivals) (leaves : now.LeavesKey number key move) :
    (now.next worker move).Fills worker number key first
      (arrivals ++ (now.arrival? number move).toList) := by
  obtain ⟨stage, present, reflects⟩ := tracks.stage
  obtain ⟨following, there, continues⟩ := continues_next worker present move
  have holds := fills.current present
  have changes := fills.spares.changes move
  have spared : ¬ (worker.version ≠ worker.version ∨ now.Clears move) := by simp [leaves.1]
  have current : following.HoldsCurrent worker (now.next worker move).state := by
    cases continues with
    | received _ _ state => exact state ▸ holds.receive
    | stepped _ state => exact state ▸ holds.step
    | ran _ state => exact state ▸ holds.run
    | kept _ => exact fun store slots same => changes.find?_kept spared (holds store slots same)
  refine ⟨fills.spares.next move, fun {later} thereToo => ?_, ?_⟩
  · obtain rfl := Task.installation.inj (Option.some.inj (there.symm.trans thereToo))
    exact current
  · cases arrived : now.arrival? number move with
    | none =>
      rw [Option.toList_none, List.append_nil, ← fills.held]
      refine changes.held?_eq spared fun response writes => ?_
      have arrives := leaves.2 response writes
      rw [arrived] at arrives
      cases arrives
    | some arrival =>
      rw [Option.toList_some, List.reverse_append, List.reverse_singleton, List.singleton_append,
        List.findSome?_cons]
      cases continues with
      | received arrivedToo awaited state =>
        obtain rfl := Option.some.inj (arrived.symm.trans arrivedToo)
        have left := Installation.held?_receive reflects holds awaited key
        rw [← state] at left
        refine left.trans ?_
        rw [show now.state.storage.held? worker.version key = _ from fills.held]
        cases arrival.leaves? worker key <;> rfl
      | stepped none _ => simp [none] at arrived
      | ran none _ => simp [none] at arrived
      | kept none => simp [none] at arrived

theorem Fills.after {key : Key} {first : Option Entry}
    (fills : now.Fills worker number key first arrivals)
    (tracks : now.Tracks worker number arrivals) {moves : List Move}
    (leaves : now.Throughout worker (LeavesKey number key) moves) :
    (now.after worker moves).Fills worker number key first
      (arrivals ++ now.arrivals worker number moves) := by
  induction moves generalizing now arrivals with
  | nil =>
    rw [Interleaving.arrivals, List.append_nil]
    exact fills
  | cons move rest ih =>
    obtain ⟨now, later⟩ := leaves
    rw [Interleaving.arrivals, ← List.append_assoc]
    exact ih (fills.next tracks now) (tracks.next move) later

end Interleaving

/-- An installation accounts for every position of its list, in whatever order its fetches are
answered and whatever else is done. It ends once an answer has arrived for every path that makes a
URL, and its report tells every position once, in the order of the list, as stored exactly if its
path makes a URL and status 200 arrived for it, and else why it is not. As long as the cache is not
cleared, what the current store holds under a key that only the installation writes is the response
that arrived last among those stored under it, and what it held before the installation if there is
none. -/
theorem installation_accounts (worker : Worker) (storage : Storage) (past later : List Move) :
    let start := Interleaving.of worker storage past
    let number := start.system.next
    let begun := start.next worker .install
    let done := begun.after worker later
    let arrivals := begun.arrivals worker number later
    Proper worker arrivals ∧
      ((∀ position path url, worker.config.precache[position]? = some path →
          worker.urlFor path = .ok url → ∃ arrival ∈ arrivals, arrival.position = position) →
        ∃ report, (done.next worker (.whole (.proceed number))).system.task? number =
          some (.installation (.ended report))) ∧
      ∀ report, done.system.task? number = some (.installation (.ended report)) →
        (∃ reason, report.Accounts worker arrivals reason) ∧
          ∀ key, begun.Throughout worker (Interleaving.LeavesKey number key) later →
            done.storage.held? worker.version key =
              (arrivals.reverse.findSome? (Arrival.leaves? worker key)).or
                (start.storage.held? worker.version key) := by
  intro start number begun done arrivals
  have tracksBegun : begun.Tracks worker number [] := Interleaving.tracks_install worker start
  have tracks : done.Tracks worker number arrivals := tracksBegun.after later
  obtain ⟨stage, present, reflects⟩ := tracks.stage
  refine ⟨tracks.proper, fun complete => ?_, fun report ended => ⟨?_, fun key leaves => ?_⟩⟩
  · obtain ⟨report, ends⟩ : ∃ report, (stage.run worker done.state).next = .ended report :=
      reflects.run_ended (Proper.returned complete)
    refine ⟨report, (System.task?_advance_self present).trans ?_⟩
    rw [Task.proceed, Turn.map, ends]
  · obtain rfl := Task.installation.inj (Option.some.inj (present.symm.trans ended))
    obtain ⟨returned, rfl⟩ := reflects
    exact ⟨_, tracks.proper.accounts returned⟩
  · have spares := Interleaving.spares_of worker storage past
    exact ((Interleaving.fills_install spares key).after tracksBegun leaves).held

namespace Relisted

open Errands (page)

def site : Worker :=
  ⟨{ version := "v1", precache := ["/page", "http://[", "/page#top", "/gone"] }, page⟩

def found (tag : String) : Except Failure FetchResponse := .ok ⟨200, [("etag", tag)], .empty⟩

def later : List Move :=
  List.replicate 3 (.step (.task 0)) ++
    [.whole (.answer 0 3 (.ok ⟨404, [], .empty⟩) default),
      .whole (.answer 0 2 (found "two") default), .whole (.answer 0 0 (found "one") default)] ++
    List.replicate 8 (.step (.task 0))

def begun : Interleaving := (Interleaving.of site .empty []).next site .install

/-- The report of the installation, if it has ended. -/
def report? (now : Interleaving) : Option InstallReport :=
  match now.system.task? 0 with
  | some (.installation stage) => stage.result?
  | _ => none

def report : InstallReport :=
  ⟨["/page", "/page#top"],
    [("http://[", "Invalid URL: http://[: invalid IPv6 address"), ("/gone", "status 404")]⟩

theorem ended_later :
    (begun.after site later).system.task? 0 = some (.installation (.ended report)) := by
  have ended : report? (begun.after site later) = some report := by decide +kernel
  unfold report? at ended
  split at ended
  · next stage there =>
    cases stage with
    | ended other =>
      obtain rfl := Option.some.inj ended
      exact there
    | _ => cases ended
  · cases ended

theorem exists_arrival (position : Nat) (path : String) (url : Url)
    (listed : site.config.precache[position]? = some path) (joined : site.urlFor path = .ok url) :
    ∃ arrival ∈ begun.arrivals site 0 later, arrival.position = position := by
  have fails : (site.urlFor "http://[").toOption = none := by decide +kernel
  have positions : (begun.arrivals site 0 later).map (·.position) = [3, 2, 0] := by
    decide +kernel
  have answered : position ∈ [3, 2, 0] := by
    match position, listed with
    | 0, _ => simp
    | 1, listed =>
      obtain rfl := Option.some.inj listed
      simp [joined, Except.toOption] at fails
    | 2, _ => simp
    | 3, _ => simp
    | rest + 4, listed => simp [site] at listed
  rw [← positions] at answered
  exact List.mem_map.mp answered

end Relisted

open Relisted Errands in
/-- A list with a path that makes no URL, two that differ in the fragment only, and one that is not
found. The answers arrive from the end of the list to its start. -/
theorem last_answer_left :
    let done := begun.after site later
    (∃ ended, (done.next site (.whole (.proceed 0))).system.task? 0 =
        some (.installation (.ended ended))) ∧
      (∃ reason, report.Accounts site (begun.arrivals site 0 later) reason) ∧
      (done.storage.held? "v1" (.get page)).map (·.response.headers) = some [("etag", "one")] := by
  intro done
  obtain ⟨_, ends, told⟩ := installation_accounts site .empty [] later
  obtain ⟨accounts, held⟩ := told report ended_later
  have own : ∀ move ∈ later, Interleaving.IsOwn 0 move := by
    simp [later, Interleaving.IsOwn, List.replicate_succ]
  have last : ((begun.arrivals site 0 later).reverse.findSome?
      (Arrival.leaves? site (.get page))).map (·.response.headers) = some [("etag", "one")] := by
    decide +kernel
  refine ⟨ends exists_arrival, accounts, ?_⟩
  have left : done.storage.held? "v1" (.get page) =
      ((begun.arrivals site 0 later).reverse.findSome? (Arrival.leaves? site (.get page))).or
        (Storage.empty.held? "v1" (.get page)) :=
    held (.get page) (Interleaving.throughout_of_isOwn own)
  obtain ⟨entry, arrived, headers⟩ := Option.map_eq_some_iff.mp last
  rw [left, arrived, Option.some_or]
  exact congrArg some headers

end OfflineSite.Worker
