import OfflineSite.Proofs.Cache.Visit

namespace OfflineSite.Cache

/-- A storage with the visits that are paid to it, each at its number. -/
structure Sharing where
  storage : Storage
  visits : List Visit

namespace Sharing

inductive Move where
  /-- A call with nothing in between. -/
  | call (call : Call)
  /-- An opening begins, and takes no step yet. -/
  | opening (name : String)
  /-- The matching of a request begins. -/
  | matching (key : Key)
  | step (number : Nat)

def Move.isStep (number : Nat) : Move → Bool
  | step other => other == number
  | _ => false

def next (now : Sharing) : Move → Sharing
  | .call call => { now with storage := (call.perform now.storage).2 }
  | .opening name => { now with visits := now.visits ++ [.opening (.looking name)] }
  | .matching key => { now with visits := now.visits ++ [.matching (.listing key)] }
  | .step number =>
    match now.visits[number]? with
    | some visit => ⟨(visit.step now.storage).2, now.visits.set number (visit.step now.storage).1⟩
    | none => now

def after (now : Sharing) (moves : List Move) : Sharing := moves.foldl next now

/-- The name that an opening was for that has returned, and the handle that it returned. -/
def opened? (now : Sharing) (number : Nat) : Option (String × Handle) :=
  match now.visits[number]? with
  | some (.opening (.opened name handle)) => some (name, handle)
  | _ => none

/-- An opening of the name returns the handle in the course of the moves. -/
def Returns (start : Sharing) (moves : List Move) (name : String) (handle : Handle) : Prop :=
  ∃ number, start.opened? number = none ∧ (start.after moves).opened? number = some (name, handle)

variable {start now : Sharing} {moves before later : List Move} {move : Move} {number : Nat}
  {name : String} {handle : Handle} {key : Key} {response : FetchResponse} {stamp : Timestamp}
  {allowed : FetchResponse → Prop}

theorem after_cons (now : Sharing) (move : Move) (moves : List Move) :
    now.after (move :: moves) = (now.next move).after moves := rfl

theorem after_append (now : Sharing) (first second : List Move) :
    now.after (first ++ second) = (now.after first).after second :=
  List.foldl_append

theorem opened?_eq_some_iff :
    now.opened? number = some (name, handle) ↔
      now.visits[number]? = some (.opening (.opened name handle)) := by
  unfold opened?
  split
  · next there => simp [there]
  · next other => exact ⟨fun none => (by cases none), fun there => absurd there (other name handle)⟩

/-- A move leaves the storage as it is, or opens a store as is done at once, or makes a call. -/
theorem storage_next_cases (now : Sharing) (move : Move) :
    (now.next move).storage = now.storage ∨
      (∃ opened, (now.next move).storage = (now.storage.openStore opened).2) ∨
      ∃ call, move = .call call ∧ (now.next move).storage = (call.perform now.storage).2 := by
  cases move with
  | call call => exact Or.inr (Or.inr ⟨call, rfl, rfl⟩)
  | opening | matching => exact Or.inl rfl
  | step number =>
    cases there : now.visits[number]? with
    | none => exact Or.inl (by simp only [next, there])
    | some visit =>
      simp only [next, there]
      cases visit with
      | matching stage => exact Or.inl rfl
      | opening stage =>
        rcases stage.step_cases now.storage with ⟨-, -, taken⟩ | ⟨-, taken⟩ | ⟨-, taken⟩
        · exact Or.inl (congrArg Prod.snd taken)
        · exact Or.inr (Or.inl ⟨stage.name, congrArg Prod.snd taken⟩)
        · exact Or.inl (congrArg Prod.snd taken)

/-- A visit goes on by its own steps and by no others. -/
theorem visit_next {visit : Visit} (there : now.visits[number]? = some visit) (move : Move) :
    (now.next move).visits[number]? =
      some (if move.isStep number then (visit.step now.storage).1 else visit) := by
  have bound : number < now.visits.length := (List.getElem?_eq_some_iff.mp there).1
  cases move with
  | call => exact there
  | opening | matching => exact (List.getElem?_append_left bound).trans there
  | step other =>
    by_cases same : other = number
    · subst same
      simp only [next, there, Move.isStep, beq_self_eq_true, if_true,
        List.getElem?_set_self bound]
    · simp only [next, Move.isStep, beq_eq_false_iff_ne.mpr same, Bool.false_eq_true, if_false]
      cases now.visits[other]? with
      | none => exact there
      | some => exact (List.getElem?_set_ne same).trans there

theorem begun_of_visit_next {visit : Visit} (absent : now.visits[number]? = none)
    (there : (now.next move).visits[number]? = some visit) :
    (∃ name, visit = .opening (.looking name)) ∨ ∃ key, visit = .matching (.listing key) := by
  have only {begun : Visit} (there : (now.visits ++ [begun])[number]? = some visit) :
      visit = begun := by
    rw [List.getElem?_append_right (List.getElem?_eq_none_iff.mp absent),
      List.getElem?_singleton] at there
    split at there
    · exact (Option.some.inj there).symm
    · cases there
  cases move with
  | call => exact absurd there (by simp [next, absent])
  | opening name => exact Or.inl ⟨name, only there⟩
  | matching key => exact Or.inr ⟨key, only there⟩
  | step other =>
    simp only [next] at there
    split at there
    · rw [List.getElem?_set] at there
      split at there
      · next taken same => simp [← same, taken] at absent
      · simp [absent] at there
    · simp [absent] at there

theorem opened?_next (returned : now.opened? number = some (name, handle)) (move : Move) :
    (now.next move).opened? number = some (name, handle) := by
  rw [opened?_eq_some_iff] at returned ⊢
  rw [visit_next returned]
  split <;> rfl

theorem storage_next_of_isStep {visit : Visit} (there : now.visits[number]? = some visit)
    (steps : move.isStep number) : (now.next move).storage = (visit.step now.storage).2 := by
  cases move with
  | step other =>
    obtain rfl : other = number := beq_iff_eq.mp steps
    simp only [next, there]
  | _ => cases steps

/-- When an opening returns, the name leads to the store that it returns. -/
theorem found_of_opened?_next (before : now.opened? number = none)
    (returned : (now.next move).opened? number = some (name, handle)) :
    (now.next move).storage.find? name = some handle := by
  rw [opened?_eq_some_iff] at returned
  cases there : now.visits[number]? with
  | none => rcases begun_of_visit_next there returned with ⟨_, other⟩ | ⟨_, other⟩ <;> cases other
  | some visit =>
    have went := Option.some.inj ((visit_next there move).symm.trans returned)
    by_cases steps : move.isStep number
    · rw [if_pos steps] at went
      rw [storage_next_of_isStep there steps]
      cases visit with
      | matching stage => cases went
      | opening stage =>
        refine Opening.found_of_step (fun ended => ?_) (Visit.opening.inj went)
        -- An opening with no steps left had returned before.
        obtain ⟨name, handle, rfl⟩ := Opening.left_eq_zero_iff.mp ended
        rw [opened?_eq_some_iff.mpr there] at before
        cases before
    · rw [if_neg steps] at went
      subst went
      rw [opened?_eq_some_iff.mpr there] at before
      cases before

theorem find?_next (found : now.storage.find? name = some handle)
    (undeleted : move ≠ .call (.delete name)) :
    (now.next move).storage.find? name = some handle := by
  rcases now.storage_next_cases move with same | ⟨opened, same⟩ | ⟨call, rfl, same⟩
  · rw [same, found]
  · rw [same, Storage.find?_openStore_of_found found]
  · rw [same, Storage.find?_call found fun deletes => undeleted (congrArg _ deletes)]

theorem lookup?_next
    (spared : ∀ asked : StoreCall, asked.Writes key → move ≠ .call (.through handle asked)) :
    ((now.next move).storage.store handle).lookup? key =
      (now.storage.store handle).lookup? key := by
  rcases now.storage_next_cases move with same | ⟨opened, same⟩ | ⟨call, rfl, same⟩
  · rw [same]
  · rw [same, Storage.lookup?_openStore]
  · rw [same, Storage.lookup?_call fun asked writes through =>
      spared asked writes (congrArg _ through)]

theorem find?_after (found : now.storage.find? name = some handle)
    (undeleted : .call (.delete name) ∉ moves) :
    (now.after moves).storage.find? name = some handle := by
  induction moves generalizing now with
  | nil => exact found
  | cons move moves ih =>
    have different := Ne.symm (List.ne_of_not_mem_cons undeleted)
    exact ih (find?_next found different) (List.not_mem_of_not_mem_cons undeleted)

theorem opened?_after (returned : now.opened? number = some (name, handle)) (moves : List Move) :
    (now.after moves).opened? number = some (name, handle) := by
  induction moves generalizing now with
  | nil => exact returned
  | cons move moves ih => exact ih (opened?_next returned move)

/-- The name leads to the store that any opening has returned, until it is deleted. -/
theorem Returns.found (returns : start.Returns moves name handle)
    (undeleted : .call (.delete name) ∉ moves) :
    (start.after moves).storage.find? name = some handle := by
  obtain ⟨number, before, returned⟩ := returns
  induction moves generalizing start with
  | nil => cases before.symm.trans returned
  | cons move moves ih =>
    have rest := List.not_mem_of_not_mem_cons undeleted
    rw [after_cons] at returned ⊢
    cases first : (start.next move).opened? number with
    | none => exact ih rest first returned
    | some pair =>
      -- It returns by the first move, and what it returned then it has returned in the end.
      obtain ⟨rfl, rfl⟩ : pair = (name, handle) :=
        Option.some.inj ((opened?_after first moves).symm.trans returned)
      exact find?_after (found_of_opened?_next before first) rest

/-- What stands a number of steps before its end has come to it when it has taken as many. -/
theorem visit_after_steps {stands : Nat → Visit → Prop}
    (steps : ∀ storage left visit, stands left visit → stands (left - 1) (visit.step storage).1)
    {left : Nat} {visit : Visit} (there : now.visits[number]? = some visit)
    (begun : stands left visit) (enough : left ≤ moves.countP (Move.isStep number)) :
    ∃ ended, (now.after moves).visits[number]? = some ended ∧ stands 0 ended := by
  induction moves generalizing now left visit with
  | nil =>
    obtain rfl : left = 0 := Nat.le_zero.mp enough
    exact ⟨visit, there, begun⟩
  | cons move moves ih =>
    have went := visit_next there move
    by_cases own : move.isStep number
    · rw [if_pos own] at went
      rw [List.countP_cons_of_pos own] at enough
      exact ih went (steps _ _ _ begun) (Nat.sub_le_of_le_add enough)
    · rw [if_neg own] at went
      rw [List.countP_cons_of_neg own] at enough
      exact ih went begun enough

/-- An opening returns when it has taken two steps, whatever else is done. -/
theorem opened?_of_steps {stage : Opening} (there : now.visits[number]? = some (.opening stage))
    (enough : stage.left ≤ moves.countP (Move.isStep number)) :
    ∃ handle, (now.after moves).opened? number = some (stage.name, handle) := by
  obtain ⟨visit, ended, stands⟩ := visit_after_steps (fun storage _ _ begun => begun.step storage)
    there (Visit.opensWithin_left stage) enough
  obtain ⟨handle, rfl⟩ := stands.eq_opened
  exact ⟨handle, opened?_eq_some_iff.mpr ended⟩

/-- A request is matched when each store that was listed has been asked, whatever else is done. -/
theorem matched_of_steps {key : Key} {handles : List Handle}
    (there : now.visits[number]? = some (.matching (.asking key handles)))
    (enough : handles.length < moves.countP (Move.isStep number)) :
    ∃ response, (now.after moves).visits[number]? = some (.matching (.matched key response)) := by
  obtain ⟨visit, ended, stands⟩ := visit_after_steps (fun storage _ _ begun => begun.step storage)
    there (Visit.matchesWithin_asking key handles) enough
  obtain ⟨response, rfl⟩ := stands.eq_matched
  exact ⟨response, ended⟩

/-- What is under a key is found there as long as nothing else is written under it. -/
theorem lookup?_after
    (spared : ∀ asked : StoreCall, asked.Writes key → .call (.through handle asked) ∉ moves) :
    ((now.after moves).storage.store handle).lookup? key =
      (now.storage.store handle).lookup? key := by
  induction moves generalizing now with
  | nil => rfl
  | cons move moves ih =>
    rw [after_cons, ih fun asked writes => List.not_mem_of_not_mem_cons (spared asked writes)]
    exact lookup?_next fun asked writes => Ne.symm (List.ne_of_not_mem_cons (spared asked writes))

/-- Moves that leave the store of the name where it is and something under the key in it, and put
nothing under the key but what is allowed. -/
structure Spares (allowed : FetchResponse → Prop) (name : String) (handle : Handle) (key : Key)
    (moves : List Move) : Prop where
  undeleted : .call (.delete name) ∉ moves
  unerased : .call (.through handle (.erase key)) ∉ moves
  admits {through : Handle} {response : FetchResponse} {stamp : Timestamp}
    (puts : .call (.through through (.put key response stamp)) ∈ moves) : allowed response

theorem Spares.tail (spares : Spares allowed name handle key (move :: moves)) :
    Spares allowed name handle key moves :=
  ⟨List.not_mem_of_not_mem_cons spares.undeleted, List.not_mem_of_not_mem_cons spares.unerased,
    fun puts => spares.admits (List.mem_cons_of_mem move puts)⟩

theorem Spares.evolves (spares : Spares allowed name handle key (move :: moves)) (now : Sharing) :
    now.storage.Evolves (fun written response => written = key → allowed response)
      (now.next move).storage := by
  rcases now.storage_next_cases move with same | ⟨opened, same⟩ | ⟨call, rfl, same⟩
  · exact same ▸ .refl _
  · exact same ▸ .openStore _ opened
  · rw [same]
    refine .call _ ?_
    rintro through written response stamp rfl rfl
    exact spares.admits List.mem_cons_self

theorem Spares.prevails (spares : Spares allowed name handle key (move :: moves))
    (prevails : now.storage.Prevails allowed name handle key) :
    (now.next move).storage.Prevails allowed name handle key := by
  rcases now.storage_next_cases move with same | ⟨opened, same⟩ | ⟨call, rfl, same⟩
  · exact same ▸ prevails
  · exact same ▸ prevails.openStore opened
  · rw [same]
    refine prevails.call ?_ ?_ ?_
    · rintro rfl
      exact spares.undeleted List.mem_cons_self
    · rintro rfl
      exact spares.unerased List.mem_cons_self
    · rintro through response stamp rfl
      exact spares.admits List.mem_cons_self

/-- A request that meets the store goes on to meet it, or is answered as is allowed. -/
theorem Spares.meets (spares : Spares allowed name handle key (move :: moves))
    (prevails : now.storage.Prevails allowed name handle key)
    (meets : ∀ stage, now.visits[number]? = some (.matching stage) →
      stage.Meets allowed key handle now.storage)
    {stage : Matching} (there : (now.next move).visits[number]? = some (.matching stage)) :
    stage.Meets allowed key handle (now.next move).storage := by
  cases stood : now.visits[number]? with
  | none =>
    rcases begun_of_visit_next stood there with ⟨_, other⟩ | ⟨_, listing⟩
    · cases other
    · cases listing
      trivial
  | some visit =>
    have went := Option.some.inj ((visit_next stood move).symm.trans there)
    by_cases own : move.isStep number
    · rw [if_pos own] at went
      cases visit with
      | opening => cases went
      | matching asked =>
        obtain rfl := Visit.matching.inj went
        have same : (now.next move).storage = now.storage := storage_next_of_isStep stood own
        rw [same]
        exact (meets asked stood).step prevails
    · rw [if_neg own] at went
      exact (meets stage (went ▸ stood)).of_evolves (spares.evolves now)

theorem Spares.prevails_after (spares : Spares allowed name handle key moves)
    (prevails : now.storage.Prevails allowed name handle key) :
    (now.after moves).storage.Prevails allowed name handle key := by
  induction moves generalizing now with
  | nil => exact prevails
  | cons move moves ih => exact ih spares.tail (spares.prevails prevails)

theorem Spares.meets_after (spares : Spares allowed name handle key moves)
    (prevails : now.storage.Prevails allowed name handle key)
    (meets : ∀ stage, now.visits[number]? = some (.matching stage) →
      stage.Meets allowed key handle now.storage)
    {stage : Matching} (there : (now.after moves).visits[number]? = some (.matching stage)) :
    stage.Meets allowed key handle (now.after moves).storage := by
  induction moves generalizing now with
  | nil => exact meets stage there
  | cons move moves ih =>
    exact ih spares.tail (spares.prevails prevails)
      (fun _ stands => spares.meets prevails meets stands) there

/-- A response is put under a key through a handle that an opening of the name has returned. -/
def Places (start : Sharing) (moves before later : List Move) (name : String) (key : Key)
    (response : FetchResponse) (stamp : Timestamp) : Prop :=
  ∃ handle, start.Returns before name handle ∧
    moves = before ++ .call (.through handle (.put key response stamp)) :: later

/-- The handle that the response is put through is that of the store that the name leads to. -/
theorem Places.eq_append (places : start.Places moves before later name key response stamp)
    (undeleted : .call (.delete name) ∉ moves)
    (found : (start.after moves).storage.find? name = some handle) :
    moves = before ++ .call (.through handle (.put key response stamp)) :: later ∧
      (start.after before).storage.find? name = some handle := by
  obtain ⟨written, returns, rfl⟩ := places
  have led := returns.found fun deletes => undeleted (List.mem_append_left _ deletes)
  have kept := find?_after led fun deletes => undeleted (List.mem_append_right _ deletes)
  rw [← after_append] at kept
  obtain rfl : written = handle := Option.some.inj (kept.symm.trans found)
  exact ⟨rfl, led⟩

/-- The one store that a name has in the course of the moves, as it is after them. -/
structure OneStore (start : Sharing) (moves : List Move) (name : String) (handle : Handle) :
    Prop where
  /-- All that open the name are given this store. -/
  returned {other : Handle} (returns : start.Returns moves name other) : other = handle
  /-- Those that have not returned are given it by their next step, if they found none before or
  have not looked yet. -/
  next {stage : Opening} (opens : stage.name = name) (unfinished : stage.left ≠ 0) :
    stage.step (start.after moves).storage = (.opened name handle, (start.after moves).storage)
  whole : (start.after moves).storage.openStore name = (handle, (start.after moves).storage)
  /-- Where the stores are listed to be asked, it is the one of its name. -/
  listed (other : Handle) :
    other ∈ (start.after moves).storage.handles ∧
      ((start.after moves).storage.store other).name = name ↔ other = handle
  /-- Nothing that it holds is lost but by what is written through its handle. -/
  keeps {before later : List Move} {key : Key} (split : moves = before ++ later)
    (unwritten : ∀ asked : StoreCall, asked.Writes key → .call (.through handle asked) ∉ later) :
    ((start.after moves).storage.store handle).lookup? key =
      ((start.after before).storage.store handle).lookup? key
  /-- What was put through the handle of any opening is found through this one. -/
  visible {before later : List Move} {key : Key} {response : FetchResponse} {stamp : Timestamp}
    (places : start.Places moves before later name key response stamp)
    (unwritten : ∀ asked : StoreCall, asked.Writes key → .call (.through handle asked) ∉ later) :
    ((start.after moves).storage.store handle).lookup? key = some ⟨response, stamp⟩
  /-- Where nothing but what is allowed is put under the key since, or held by stores of lesser
  names before, a request for the key is answered as is allowed, be it matched at once or step by
  step. -/
  matched {before later : List Move} {key : Key} {response : FetchResponse} {stamp : Timestamp}
    (places : start.Places moves before later name key response stamp)
    (unerased : .call (.through handle (.erase key)) ∉ later)
    (allowed : FetchResponse → Prop) (admitted : allowed response)
    (admits : ∀ {through new stamp}, .call (.through through (.put key new stamp)) ∈ later →
      allowed new)
    (lesser : ∀ {other entry}, other < name →
      (start.after before).storage.held? other key = some entry → allowed entry.response) :
    (∃ found, (start.after moves).storage.matchRequest key = some found ∧ allowed found) ∧
      ∀ {number : Nat} {answer : Option FetchResponse},
        (∀ stage, (start.after before).visits[number]? = some (.matching stage) →
          ∃ sought, stage = .listing sought) →
        (start.after moves).visits[number]? = some (.matching (.matched key answer)) →
        ∃ found, answer = some found ∧ allowed found

/-- What openings of a name come to that share a storage with whatever else is done. -/
structure Shares (start : Sharing) (moves : List Move) (name : String) : Prop where
  /-- Whoever opens the name is given a store by two steps. -/
  returns {before later : List Move} {number : Nat} {stage : Opening}
    (split : moves = before ++ later)
    (there : (start.after before).visits[number]? = some (.opening stage))
    (opens : stage.name = name) (unfinished : stage.left ≠ 0)
    (enough : stage.left ≤ later.countP (Move.isStep number)) :
    ∃ handle, start.Returns moves name handle ∧
      (start.after moves).opened? number = some (name, handle)
  /-- Whoever listed the stores for a request has an answer when each of them was asked. -/
  answers {before later : List Move} {number : Nat} {key : Key} {handles : List Handle}
    (split : moves = before ++ later)
    (there : (start.after before).visits[number]? = some (.matching (.asking key handles)))
    (enough : handles.length < later.countP (Move.isStep number)) :
    ∃ answer, (start.after moves).visits[number]? = some (.matching (.matched key answer))
  one {handle : Handle} (returns : start.Returns moves name handle) :
    start.OneStore moves name handle

theorem Returns.oneStore (returns : start.Returns moves name handle)
    (undeleted : .call (.delete name) ∉ moves) : start.OneStore moves name handle where
  returned other := Option.some.inj ((other.found undeleted).symm.trans (returns.found undeleted))
  next := by
    rintro stage rfl unfinished
    exact Opening.step_of_found (returns.found undeleted) unfinished
  whole := by simp only [Storage.openStore, returns.found undeleted]
  listed other := by
    have found := returns.found undeleted
    constructor
    · rintro ⟨listed, rfl⟩
      obtain ⟨bears, leads⟩ := Storage.mem_handles.mp listed
      rw [Storage.name_store leads] at found
      exact Option.some.inj (leads.symm.trans found)
    · rintro rfl
      exact ⟨Storage.mem_handles.mpr ⟨name, found⟩, Storage.name_store found⟩
  keeps split unwritten := by rw [split, after_append, lookup?_after unwritten]
  visible places unwritten := by
    obtain ⟨rfl, led⟩ := places.eq_append undeleted (returns.found undeleted)
    rw [after_append, after_cons, lookup?_after unwritten]
    exact Storage.lookup?_put_self led _ _ _
  matched {before later key response stamp} places unerased allowed admitted admits lesser := by
    obtain ⟨rfl, led⟩ := places.eq_append undeleted (returns.found undeleted)
    have prevails : ((start.after before).next
        (.call (.through handle (.put key response stamp)))).storage.Prevails allowed name handle
          key := .put stamp led admitted lesser
    have spares : Spares allowed name handle key later :=
      ⟨fun deletes => undeleted (by simp [deletes]), unerased, admits⟩
    rw [after_append]
    refine ⟨(spares.prevails_after prevails).matchRequest, fun unlisted ended => ?_⟩
    refine spares.meets_after prevails (fun stage stands => ?_) ended rfl
    -- Before the stores are listed there is none that the request could have gone by.
    obtain ⟨sought, rfl⟩ := unlisted stage stands
    trivial

/-- However openings of a name are interleaved with one another and with whatever else is done, as
long as the name is not deleted all of them return the one store that it has. -/
theorem openings_share_store (start : Sharing) {moves : List Move} {name : String}
    (undeleted : .call (.delete name) ∉ moves) : start.Shares moves name where
  returns := by
    rintro before later number stage rfl there rfl unfinished enough
    obtain ⟨handle, returned⟩ := opened?_of_steps there enough
    rw [← after_append] at returned
    refine ⟨handle, ⟨number, ?_, returned⟩, returned⟩
    cases early : start.opened? number with
    | none => rfl
    | some pair =>
      have stood := (opened?_eq_some_iff.mp (opened?_after early before)).symm.trans there
      cases stood
      exact absurd rfl unfinished
  answers := by
    rintro before later number key handles rfl there enough
    rw [after_append]
    exact matched_of_steps there enough
  one returns := returns.oneStore undeleted

/-- Two openings of a name that both find no store at first. The first one has put a page into the
store that it added before the second one goes on; then the page is asked for. -/
def contested : List Move :=
  [.opening "v1", .opening "v1", .step 0, .step 1, .call (.openStore "v0"), .step 0,
    .call (.through 1 (.put ⟨"GET", "http://localhost/"⟩ ⟨200, [], .empty⟩ default)),
    .call (.delete "v0"), .step 1, .matching ⟨"GET", "http://localhost/"⟩, .step 2, .step 2,
    .step 2]

/-- Who adds a store late is given the one with the page in it, and the page is found. -/
theorem late_adder_adopts :
    .call (.delete "v1") ∉ contested ∧
      ((Sharing.mk .empty []).after contested).opened? 0 = some ("v1", 1) ∧
      ((Sharing.mk .empty []).after contested).opened? 1 = some ("v1", 1) ∧
      (((Sharing.mk .empty []).after contested).storage.store 1).lookup?
        ⟨"GET", "http://localhost/"⟩ = some ⟨⟨200, [], .empty⟩, default⟩ ∧
      ((Sharing.mk .empty []).after contested).visits[2]? =
        some (.matching (.matched ⟨"GET", "http://localhost/"⟩ (some ⟨200, [], .empty⟩))) := by
  have undeleted : .call (.delete "v1") ∉ contested := by simp [contested]
  have shares := openings_share_store ⟨.empty, []⟩ undeleted
  have first : (Sharing.mk .empty []).Returns (contested.take 6) "v1" 1 := ⟨0, rfl, rfl⟩
  obtain ⟨handle, returns, second⟩ :=
    @Shares.returns _ _ _ shares (contested.take 4) (contested.drop 4) 1 (.adding "v1") rfl rfl rfl
      (by decide) (by decide)
  have one := shares.one returns
  have zeroth : (Sharing.mk .empty []).Returns contested "v1" 1 := ⟨0, rfl, rfl⟩
  obtain rfl : 1 = handle := one.returned zeroth
  have places : (Sharing.mk .empty []).Places contested (contested.take 6) (contested.drop 7) "v1"
      ⟨"GET", "http://localhost/"⟩ ⟨200, [], .empty⟩ default := ⟨1, first, rfl⟩
  obtain ⟨answer, ended⟩ :=
    @Shares.answers _ _ _ shares (contested.take 11) (contested.drop 11) 2
      ⟨"GET", "http://localhost/"⟩ _ rfl rfl (by decide)
  have empty (other : String) : ((Sharing.mk .empty []).after (contested.take 6)).storage.held?
      other ⟨"GET", "http://localhost/"⟩ = none := by
    change ((Storage.empty.openStore "v0").2.openStore "v1").2.held? other _ = none
    rw [Storage.held?_openStore, Storage.held?_openStore, Storage.held?_empty]
  refine ⟨undeleted, rfl, second, one.visible places ?_, ?_⟩
  · simp [contested]
  · obtain ⟨found, rfl, rfl⟩ :=
      (one.matched places (by simp [contested]) (· = ⟨200, [], .empty⟩) rfl (by simp [contested])
        (by simp [empty])).2 (by simp [contested, after, next]) ended
    exact ended

end Sharing

end OfflineSite.Cache
