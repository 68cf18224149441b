import Mathlib.Data.List.Perm.Subperm
import Mathlib.Logic.Function.Basic
import OfflineSite.Proofs.Cache.Order
import OfflineSite.Proofs.Worker.Rollover

namespace OfflineSite.Worker

open Cache (Storage)
open Cache.Storage (Changes)

variable {worker : Worker} {state : State}

namespace Activation

/-- The stores that an activation has deleted so far. -/
def deleted : Activation → List String
  | starting | listing => []
  | deleting _ names | claiming names | ending names | ended names => names

/-- A step deletes the store whose turn it is, if it is there, and nothing else. -/
theorem step_cases (worker : Worker) (state : State) (activation : Activation) :
    (∃ name names gone, activation = deleting (name :: names) gone ∧
        state.storage.contains name ∧
        (activation.step worker state).next = deleting names (gone ++ [name]) ∧
        (activation.step worker state).state.storage = state.storage.delete name) ∨
      (activation.step worker state).next.deleted = activation.deleted ∧
        (activation.step worker state).state.storage = state.storage := by
  cases activation with
  | deleting names gone =>
    cases names with
    | nil => exact Or.inr ⟨rfl, rfl⟩
    | cons name names =>
      by_cases there : state.storage.contains name
      · left
        refine ⟨name, names, gone, rfl, there, ?_, ?_⟩
        · simp only [step, there, if_true]
        · simp only [step, there, if_true]
      · right
        simp only [step, there, Bool.false_eq_true, if_false]
        exact ⟨rfl, rfl⟩
  | _ => exact Or.inr ⟨rfl, rfl⟩

/-- What an activation knows of the names that it lists and of those that it may leave behind. -/
structure Informed (worker : Worker) (storage : Storage) (activation : Activation) : Prop where
  ordered : (activation.deleted ++ activation.targets).Pairwise (· < ·)
  others {name : String} (listed : name ∈ activation.targets) : name ≠ worker.version
  knows : activation.Knows worker storage

theorem informed_starting (worker : Worker) (storage : Storage) :
    starting.Informed worker storage := ⟨.nil, (fun listed => by cases listed), trivial⟩

theorem Informed.of_changes {deletes : String → Prop} {puts : Cache.Key → FetchResponse → Prop}
    {before after : Storage} {activation : Activation} (informed : activation.Informed worker before)
    (changes : Changes worker.version deletes puts before after) :
    activation.Informed worker after :=
  ⟨informed.ordered, informed.others, informed.knows.of_changes changes⟩

theorem Informed.step {activation : Activation}
    (informed : activation.Informed worker state.storage) :
    (activation.step worker state).next.Informed worker
      (activation.step worker state).state.storage where
  ordered := by
    have ordered := informed.ordered
    cases activation with
    | listing => exact state.storage.ordered_keys.filter _
    | deleting names gone =>
      cases names with
      | nil => exact ordered
      | cons name names =>
        simp only [Activation.step]
        split
        · simpa [deleted, targets] using ordered
        · exact ordered.sublist ((List.sublist_cons_self name names).append_left gone)
    | _ => exact ordered
  others listed := (mem_targets_step listed).elim informed.others id
  knows := informed.knows.step

/-- How many steps are left at most where no more than `count` names will be listed. -/
def left (count : Nat) : Activation → Nat
  | starting => count + 5
  | listing => count + 4
  | deleting names _ => names.length + 3
  | claiming _ => 2
  | ending _ => 1
  | ended _ => 0

theorem left_step_le {count : Nat} (few : state.storage.keys.length ≤ count)
    (activation : Activation) :
    (activation.step worker state).next.left count ≤ activation.left count - 1 := by
  cases activation with
  | listing =>
    have listed := List.length_filter_le (· != worker.version) state.storage.keys
    simp only [step, Turn.quiet, left]
    omega
  | deleting names gone =>
    cases names with
    | nil => simp [step, Turn.quiet, left]
    | cons name names =>
      simp only [step]
      split <;> simp [Turn.quiet, left]
  | _ => simp [step, Turn.quiet, left]

theorem exists_ended_of_left {count : Nat} {activation : Activation}
    (none : activation.left count = 0) : ∃ gone, activation = ended gone := by
  cases activation with
  | ended gone => exact ⟨gone, rfl⟩
  | _ => simp [left] at none

end Activation

/-- Activations over one storage, each of one of the workers. What the state of a single worker says
of the storage is not looked at. -/
structure Activations (κ ι : Type) where
  storage : Storage
  state : κ → State
  stage : ι → Activation

namespace Activations

variable {κ ι : Type} [DecidableEq κ] [DecidableEq ι] {workers : κ → Worker} {whose : ι → κ}
  {version : String} {storage : Storage} {now : Activations κ ι}

def initial (storage : Storage) (state : κ → State) : Activations κ ι :=
  ⟨storage, state, fun _ => .starting⟩

/-- What the next step of an activation makes, over the storage as it is now. -/
def turn (workers : κ → Worker) (whose : ι → κ) (now : Activations κ ι) (which : ι) :
    Turn Activation :=
  (now.stage which).step (workers (whose which))
    { now.state (whose which) with storage := now.storage }

def step (workers : κ → Worker) (whose : ι → κ) (now : Activations κ ι) (which : ι) :
    Activations κ ι :=
  let turn := now.turn workers whose which
  ⟨turn.state.storage, Function.update now.state (whose which) turn.state,
    Function.update now.stage which turn.next⟩

/-- The activations after steps, each of one of them. -/
def after (workers : κ → Worker) (whose : ι → κ) (now : Activations κ ι) (schedule : List ι) :
    Activations κ ι :=
  schedule.foldl (step workers whose) now

/-- What every step keeps is kept by all of them. -/
theorem after_induction {motive : Activations κ ι → Prop}
    (step : ∀ now which, motive now → motive (now.step workers whose which)) (start : motive now)
    (schedule : List ι) : motive (now.after workers whose schedule) := by
  induction schedule generalizing now with
  | nil => exact start
  | cons which rest ih => exact ih (step now which start)

theorem stage_step (workers : κ → Worker) (whose : ι → κ) (now : Activations κ ι) (which : ι) :
    (now.step workers whose which).stage which = (now.turn workers whose which).next :=
  Function.update_self ..

theorem stage_step_of_ne (now : Activations κ ι) {which other : ι} (different : other ≠ which) :
    (now.step workers whose which).stage other = now.stage other :=
  Function.update_of_ne different ..

/-- A step deletes one store and tells so, or deletes none. -/
theorem step_cases (workers : κ → Worker) (whose : ι → κ) (now : Activations κ ι) (which : ι) :
    (∃ name ∈ (now.stage which).targets, now.storage.contains name ∧
        (now.step workers whose which).storage = now.storage.delete name ∧
        ∀ other found, found ∈ ((now.step workers whose which).stage other).deleted ↔
          found ∈ (now.stage other).deleted ∨ other = which ∧ found = name) ∨
      (now.step workers whose which).storage = now.storage ∧
        ∀ other, ((now.step workers whose which).stage other).deleted =
          (now.stage other).deleted := by
  rcases (now.stage which).step_cases (workers (whose which))
      { now.state (whose which) with storage := now.storage } with
    ⟨name, names, gone, stands, there, next, storage⟩ | ⟨same, storage⟩
  · refine Or.inl ⟨name, ?_, there, storage, fun other found => ?_⟩
    · rw [stands]
      exact List.mem_cons_self
    · by_cases self : other = which
      · subst self
        have reported : ((now.step workers whose other).stage other).deleted = gone ++ [name] := by
          rw [stage_step, turn, next, Activation.deleted]
        rw [reported, stands, List.mem_append, List.mem_singleton]
        simp [Activation.deleted]
      · rw [stage_step_of_ne now self]
        simp [self]
  · refine Or.inr ⟨storage, fun other => ?_⟩
    by_cases self : other = which
    · subst self
      rw [stage_step, turn, same]
    · rw [stage_step_of_ne now self]

/-- What is told of stores and of those who delete them: the store of another version is there, or
the one activation that deleted it tells so. -/
structure Parted (storage : Storage) (version : String) (now : Activations κ ι) : Prop where
  /-- No store is made or changed. -/
  stores : now.storage.stores = storage.stores
  current : now.storage.find? version = storage.find? version
  kept {name : String} (present : now.storage.contains name) : storage.contains name
  told {name : String} (present : storage.contains name) :
    now.storage.contains name ∨ ∃ which, name ∈ (now.stage which).deleted
  gone {which : ι} {name : String} (reported : name ∈ (now.stage which).deleted) :
    storage.contains name ∧ name ≠ version ∧ now.storage.contains name = false
  apart {which other : ι} {name : String} (reported : name ∈ (now.stage which).deleted)
    (reportedToo : name ∈ (now.stage other).deleted) : which = other

omit [DecidableEq κ] [DecidableEq ι] in
theorem parted_initial (storage : Storage) (version : String) (state : κ → State) :
    (initial storage state : Activations κ ι).Parted storage version where
  stores := rfl
  current := rfl
  kept := id
  told := Or.inl
  gone reported := by cases reported
  apart reported := by cases reported

theorem Parted.step (parted : now.Parted storage version) (which : ι)
    (others : ∀ name ∈ (now.stage which).targets, name ≠ version) :
    (now.step workers whose which).Parted storage version := by
  rcases step_cases workers whose now which with
    ⟨name, listed, there, deleted, reports⟩ | ⟨same, reports⟩
  · have left (other : String) : (now.storage.delete name).contains other =
        (decide (name ≠ other) && now.storage.contains other) := by
      rw [Storage.contains_eq_isSome, Storage.contains_eq_isSome, Storage.find?_delete]
      by_cases equal : name = other <;> simp [equal]
    refine ⟨?_, ?_, fun {other} present => ?_, fun {other} present => ?_,
      fun {reporter other} reported => ?_, fun {one two other} reported reportedToo => ?_⟩
    · rw [deleted]
      exact parted.stores
    · rw [deleted, Storage.find?_delete, if_neg (others name listed), parted.current]
    · rw [deleted, left, Bool.and_eq_true] at present
      exact parted.kept present.2
    · by_cases equal : name = other
      · subst equal
        exact Or.inr ⟨which, (reports which name).mpr (Or.inr ⟨rfl, rfl⟩)⟩
      · rcases parted.told present with still | ⟨reporter, reported⟩
        · left
          simp [deleted, left, equal, still]
        · exact Or.inr ⟨reporter, (reports reporter other).mpr (Or.inl reported)⟩
    · rw [deleted, left]
      rcases (reports reporter other).mp reported with earlier | ⟨_, rfl⟩
      · obtain ⟨was, different, absent⟩ := parted.gone earlier
        exact ⟨was, different, by simp [absent]⟩
      · exact ⟨parted.kept there, others other listed, by simp⟩
    · -- A store that has just been deleted was there, so that nobody has told of it yet.
      have unreported (reporter : ι) : name ∉ (now.stage reporter).deleted := fun earlier => by
        simp [(parted.gone earlier).2.2] at there
      rcases (reports one other).mp reported with earlier | ⟨rfl, rfl⟩
      · rcases (reports two other).mp reportedToo with earlierToo | ⟨_, rfl⟩
        · exact parted.apart earlier earlierToo
        · exact absurd earlier (unreported one)
      · rcases (reports two other).mp reportedToo with earlierToo | ⟨same, _⟩
        · exact absurd earlierToo (unreported two)
        · exact same.symm
  · refine ⟨?_, ?_, ?_, ?_, ?_, ?_⟩
    · rw [same]
      exact parted.stores
    · rw [same]
      exact parted.current
    · rw [same]
      exact parted.kept
    · simp only [same, reports]
      exact parted.told
    · simp only [same, reports]
      exact parted.gone
    · simp only [reports]
      exact parted.apart

/-- What holds wherever activations stand that were begun over a storage. -/
structure Reached (workers : κ → Worker) (whose : ι → κ) (storage : Storage) (version : String)
    (now : Activations κ ι) : Prop where
  parted : now.Parted storage version
  informed (which : ι) : (now.stage which).Informed (workers (whose which)) now.storage

theorem Reached.step (reached : now.Reached workers whose storage version)
    (same : ∀ who, (workers who).version = version) (which : ι) :
    (now.step workers whose which).Reached workers whose storage version where
  parted := reached.parted.step which fun name listed =>
    same (whose which) ▸ (reached.informed which).others listed
  informed other := by
    by_cases self : other = which
    · subst self
      rw [stage_step]
      exact (reached.informed other).step
    · have changes : Changes (workers (whose which)).version (fun _ => True) (fun _ _ => False)
          now.storage (now.turn workers whose which).state.storage :=
        Activation.step_changes { now.state (whose which) with storage := now.storage }
          fun _ _ => trivial
      rw [stage_step_of_ne now self]
      rw [same (whose which), ← same (whose other)] at changes
      exact (reached.informed other).of_changes changes

theorem reached_after (workers : κ → Worker) (whose : ι → κ) (storage : Storage)
    (state : κ → State) (same : ∀ who, (workers who).version = version) (schedule : List ι) :
    ((initial storage state).after workers whose schedule).Reached workers whose storage version :=
  after_induction (fun _ which reached => reached.step same which)
    ⟨parted_initial storage version state, fun which =>
      Activation.informed_starting (workers (whose which)) storage⟩ schedule

omit [DecidableEq κ] [DecidableEq ι] in
/-- Once an activation has ended, no store of another version is left. -/
theorem Reached.contains_of_ended (reached : now.Reached workers whose storage version)
    (same : ∀ who, (workers who).version = version) {which : ι} {gone : List String}
    (ended : now.stage which = .ended gone) {name : String} (other : name ≠ version) :
    now.storage.contains name = false := by
  have knows := (reached.informed which).knows
  rw [ended] at knows
  have only : OnlyCurrent (workers (whose which)) now.storage := knows
  exact Bool.eq_false_iff.mpr fun present => other ((only name present).trans (same _))

/-- A name is never listed that was not there at the start, so every activation comes to its end. -/
theorem left_after (same : ∀ who, (workers who).version = version)
    (reached : now.Reached workers whose storage version) (schedule : List ι) (which : ι) :
    ((now.after workers whose schedule).stage which).left storage.keys.length ≤
      (now.stage which).left storage.keys.length - schedule.count which := by
  induction schedule generalizing now with
  | nil => exact Nat.le_refl _
  | cons next rest ih =>
    have later := ih (reached.step same next)
    by_cases self : next = which
    · subst self
      have few : now.storage.keys.length ≤ storage.keys.length := by
        refine (List.Nodup.subperm now.storage.nodup_keys fun name listed => ?_).length_le
        rw [Storage.mem_keys, ← Storage.contains_eq_isSome] at listed ⊢
        exact reached.parted.kept listed
      have fewer : ((now.step workers whose next).stage next).left storage.keys.length ≤
          (now.stage next).left storage.keys.length - 1 := by
        rw [stage_step]
        exact Activation.left_step_le few _
      have counted : (next :: rest).count next = rest.count next + 1 := List.count_cons_self
      have onward : (now.after workers whose (next :: rest)) =
          (now.step workers whose next).after workers whose rest := rfl
      rw [onward, counted]
      omega
    · rw [stage_step_of_ne now (Ne.symm self)] at later
      rw [List.count_cons_of_ne self]
      exact later

end Activations

theorem mem_activate (worker : Worker) (state : State) (name : String) :
    name ∈ (worker.activate state).next ↔
      state.storage.contains name ∧ name ≠ worker.version := by
  rw [activate_eq, outdated, List.mem_filter, Storage.mem_keys, Storage.contains_eq_isSome,
    bne_iff_ne]

/-- Where no store of another version is left there is nothing to delete. -/
theorem activate_of_onlyCurrent (only : OnlyCurrent worker state.storage) :
    (worker.activate state).next = [] ∧
      (worker.activate state).state.storage = state.storage := by
  have nothing : worker.outdated state.storage = [] := by
    refine List.eq_nil_iff_forall_not_mem.mpr fun name listed => ?_
    have reported : name ∈ (worker.activate state).next := by
      rw [activate_eq]
      exact listed
    obtain ⟨present, other⟩ := (mem_activate worker state name).mp reported
    exact other (only name present)
  rw [activate_eq, nothing]
  exact ⟨rfl, rfl⟩

/-- An activation deletes the stores of other versions and none else. Those it reports are the names
that are not the current one, in order; the current store stays as it is if there is one, and none is
made; and when the worker is activated again there is nothing to delete. Where activations for the
same version share the storage, in whatever order they list the names and delete them one by one,
each of them ends after few steps of its own, none reports what was not there, and once one has ended
every store of another version has been reported by exactly one of them. -/
theorem other_versions_deleted_once {κ ι : Type} [DecidableEq κ] [DecidableEq ι] (worker : Worker)
    (state : State) (workers : κ → Worker) (whose : ι → κ) (states : κ → State)
    (schedule : List ι) (same : ∀ who, (workers who).version = worker.version) :
    let turn := worker.activate state
    let now := (Activations.initial state.storage states).after workers whose schedule
    (turn.next.Pairwise (· < ·) ∧
      (∀ name, name ∈ turn.next ↔ state.storage.contains name ∧ name ≠ worker.version) ∧
      turn.state.storage.stores = state.storage.stores ∧
      (∀ name, turn.state.storage.find? name =
        if name = worker.version then state.storage.find? name else none) ∧
      (worker.activate turn.state).next = [] ∧
      (worker.activate turn.state).state.storage = turn.state.storage) ∧
    (∀ which, state.storage.keys.length + 5 ≤ schedule.count which →
      ∃ gone, now.stage which = .ended gone) ∧
    (∀ which, (now.stage which).deleted.Pairwise (· < ·) ∧
      ∀ name ∈ (now.stage which).deleted, state.storage.contains name ∧ name ≠ worker.version) ∧
    ((∃ which gone, now.stage which = .ended gone) →
      ∀ name, state.storage.contains name → name ≠ worker.version →
        ∃! which, name ∈ (now.stage which).deleted) ∧
    now.storage.stores = state.storage.stores ∧
    now.storage.find? worker.version = state.storage.find? worker.version := by
  intro turn now
  have reached : now.Reached workers whose state.storage worker.version :=
    Activations.reached_after workers whose state.storage states same schedule
  have second := activate_of_onlyCurrent (onlyCurrent_activate worker state)
  refine ⟨⟨?_, mem_activate worker state, ?_, find?_activate worker state, second⟩,
    fun which turns => ?_, fun which => ⟨?_, fun name reported => ?_⟩, ?_, reached.parted.stores,
    reached.parted.current⟩
  · simp only [turn, activate_eq]
    exact state.storage.ordered_keys.filter _
  · simp only [turn, activate_eq]
    exact Storage.stores_foldl_delete _ state.storage
  · have start : (Activations.initial state.storage states).Reached workers whose state.storage
        worker.version :=
      Activations.reached_after workers whose state.storage states same []
    have left : (now.stage which).left state.storage.keys.length ≤
        state.storage.keys.length + 5 - schedule.count which :=
      Activations.left_after same start schedule which
    have none : (now.stage which).left state.storage.keys.length = 0 := by omega
    exact Activation.exists_ended_of_left none
  · exact (List.pairwise_append.mp (reached.informed which).ordered).1
  · obtain ⟨was, other, _⟩ := reached.parted.gone reported
    exact ⟨was, other⟩
  · rintro ⟨which, gone, ended⟩ name present other
    rcases reached.parted.told present with left | ⟨reporter, reported⟩
    · rw [reached.contains_of_ended same ended other] at left
      cases left
    · exact ⟨reporter, reported, fun another reportedToo =>
        reached.parted.apart reportedToo reported⟩

namespace Outdated

def storedToo : Storage := (stored.create "v2").2

/-- Both list the names before either deletes one. -/
def turns : List Bool :=
  [true, false, true, false, false, true, true, false, true, true, true, false, false, false]

end Outdated

open Outdated in
/-- Two activations that take turns over a storage with two older versions. -/
theorem both_names_reported_once :
    let now := (Activations.initial storedToo fun _ : Unit => State.initial storedToo).after
      (fun _ => newer) (fun _ => ()) turns
    (∃! which, "v0" ∈ (now.stage which).deleted) ∧
      ∃! which, "v2" ∈ (now.stage which).deleted := by
  intro now
  obtain ⟨_, ends, _, reported, _⟩ := other_versions_deleted_once newer (State.initial storedToo)
    (fun _ : Unit => newer) (fun _ : Bool => ()) (fun _ => State.initial storedToo) turns
    fun _ => rfl
  have ended : ∃ which gone, now.stage which = .ended gone := ⟨true, ends true (by decide +kernel)⟩
  exact ⟨reported ended "v0" (by decide +kernel) (by decide),
    reported ended "v2" (by decide +kernel) (by decide)⟩

end OfflineSite.Worker
