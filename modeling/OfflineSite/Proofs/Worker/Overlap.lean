import OfflineSite.Proofs.Worker.Interleaving

namespace OfflineSite.Worker

variable {worker : Worker} {state : State}

namespace Activation

theorem phase_step (worker : Worker) (state : State) (activation : Activation) :
    activation = .starting ∧ (activation.step worker state).state.phase = .activating ∨
      (∃ deleted, activation = .ending deleted) ∧
        (activation.step worker state).state.phase = .activated ∨
      activation ≠ .starting ∧ (activation.step worker state).state.phase = state.phase := by
  cases activation with
  | starting => exact Or.inl ⟨rfl, rfl⟩
  | ending deleted => exact Or.inr (Or.inl ⟨⟨deleted, rfl⟩, rfl⟩)
  | deleting names deleted =>
    right; right
    refine ⟨by simp, ?_⟩
    cases names with
    | nil => rfl
    | cons name names =>
      simp only [step]
      split <;> rfl
  | _ => exact Or.inr (Or.inr ⟨by simp, rfl⟩)

theorem controlsClients_step {activation : Activation} (claimed : state.controlsClients = true) :
    (activation.step worker state).state.controlsClients = true := by
  cases activation with
  | claiming deleted => rfl
  | deleting names deleted =>
    cases names with
    | nil => exact claimed
    | cons name names =>
      simp only [step]
      split <;> exact claimed
  | _ => exact claimed

theorem skipsWaiting_step (worker : Worker) (state : State) (activation : Activation) :
    (activation.step worker state).state.skipsWaiting = state.skipsWaiting := by
  cases activation with
  | deleting names deleted =>
    cases names with
    | nil => rfl
    | cons name names =>
      simp only [step]
      split <;> rfl
  | _ => rfl

theorem step_ne_starting (worker : Worker) (state : State) (activation : Activation) :
    (activation.step worker state).next ≠ .starting := by
  cases activation with
  | deleting names deleted =>
    cases names with
    | nil => simp [step, Turn.quiet]
    | cons name names =>
      simp only [step]
      split <;> simp [Turn.quiet]
  | _ => simp [step, Turn.quiet]

/-- An activation that is about to end, or has, comes of one that has claimed the pages. -/
theorem rank_step {activation : Activation} (unfinished : activation.result? = none)
    (late : (activation.step worker state).next.rank ≤ 1) :
    (∃ deleted, activation = .claiming deleted) ∨ ∃ deleted, activation = .ending deleted := by
  cases activation with
  | claiming deleted => exact Or.inl ⟨deleted, rfl⟩
  | ending deleted => exact Or.inr ⟨deleted, rfl⟩
  | ended deleted => cases unfinished
  | deleting names deleted =>
    cases names with
    | nil => simp [step, Turn.quiet, rank] at late
    | cons name names =>
      simp only [step] at late
      split at late <;> simp [Turn.quiet, rank] at late
  | _ => simp [step, Turn.quiet, rank] at late

theorem eq_ended {activation : Activation} {deleted : List String}
    (finished : activation.result? = some deleted) : ∃ deleted, activation = .ended deleted := by
  cases activation with
  | ended names => exact ⟨names, rfl⟩
  | _ => cases finished

end Activation

/-- What the state tells of activations, each at its place, and what they tell of it. -/
structure Coherent (state : State) (stages : Place → Option Activation) : Prop where
  late {place : Place} {activation : Activation} (there : stages place = some activation) :
    state.phase = .installed ∨ state.phase = .activating ∨ state.phase = .activated
  waits (waiting : state.phase = .installed) {place : Place} {activation : Activation}
    (there : stages place = some activation) : activation = .starting
  claims {place : Place} {activation : Activation} (there : stages place = some activation)
    (claimed : activation.rank ≤ 1) : state.controlsClients = true
  activated (active : state.phase = .activated) : state.controlsClients = true
  activating (active : state.phase = .activating) : ∃ place activation,
    stages place = some activation ∧ activation ≠ .starting ∧ activation.result? = none
  unclaimed (early : state.phase ≠ .activating) (notYet : state.phase ≠ .activated) :
    state.controlsClients = false

namespace Coherent

variable {stages : Place → Option Activation} {place : Place} {activation : Activation}

theorem of_vacant (vacant : ∀ place, stages place = none) (early : state.phase ≠ .activating)
    (notYet : state.phase ≠ .activated) (unclaimed : state.controlsClients = false) :
    Coherent state stages where
  late there := by simp [vacant] at there
  waits _ _ _ there := by simp [vacant] at there
  claims there := by simp [vacant] at there
  activated active := absurd active notYet
  activating active := absurd active early
  unclaimed _ _ := unclaimed

theorem of_eq {later : State} (coherent : Coherent state stages)
    (phase : later.phase = state.phase)
    (controls : later.controlsClients = state.controlsClients) : Coherent later stages where
  late there := phase ▸ coherent.late there
  waits waiting _ _ there := coherent.waits (phase ▸ waiting) there
  claims there claimed := controls ▸ coherent.claims there claimed
  activated active := controls ▸ coherent.activated (phase ▸ active)
  activating active := coherent.activating (phase ▸ active)
  unclaimed early notYet := controls ▸ coherent.unclaimed (phase ▸ early) (phase ▸ notYet)

/-- An activation that takes a step has the worker activating or activated. -/
theorem phase_step (worker : Worker) (coherent : Coherent state stages)
    (there : stages place = some activation) :
    (activation.step worker state).state.phase = .activating ∨
      (activation.step worker state).state.phase = .activated := by
  rcases activation.phase_step worker state with ⟨_, active⟩ | ⟨_, active⟩ | ⟨begun, same⟩
  · exact Or.inl active
  · exact Or.inr active
  · rw [same]
    rcases coherent.late there with waiting | active
    · exact absurd (coherent.waits waiting there) begun
    · exact active

theorem step (coherent : Coherent state stages) (there : stages place = some activation)
    (unfinished : activation.result? = none) :
    Coherent (activation.step worker state).state
      (Function.update stages place (some (activation.step worker state).next)) := by
  have phases := phase_step worker coherent there
  refine ⟨fun _ => Or.inr phases, fun waiting => ?_, fun {other stage} found claimed => ?_,
    fun active => ?_, fun active => ?_, fun early notYet => ?_⟩
  · simp [waiting] at phases
  · by_cases same : other = place
    · subst same
      rw [Function.update_self] at found
      obtain rfl := Option.some.inj found
      rcases Activation.rank_step unfinished claimed with ⟨deleted, rfl⟩ | ⟨deleted, rfl⟩
      · rfl
      · exact coherent.claims there (Nat.le_refl 1)
    · rw [Function.update_of_ne same] at found
      exact Activation.controlsClients_step (coherent.claims found claimed)
  · rcases activation.phase_step worker state with ⟨_, other⟩ | ⟨⟨deleted, rfl⟩, _⟩ | ⟨_, same⟩
    · rw [other] at active
      cases active
    · exact coherent.claims there (Nat.le_refl 1)
    · exact Activation.controlsClients_step (coherent.activated (same.symm.trans active))
  · refine ⟨place, _, Function.update_self .., activation.step_ne_starting worker state, ?_⟩
    cases finished : (activation.step worker state).next.result? with
    | none => rfl
    | some deleted =>
      -- Only the step that sets the phase ends an activation.
      have rank : (activation.step worker state).next.rank ≤ 1 := by
        cases stands : (activation.step worker state).next <;> simp_all [Activation.result?,
          Activation.rank]
      rcases Activation.rank_step unfinished rank with ⟨names, rfl⟩ | ⟨names, rfl⟩
      · cases finished
      · cases active
  · exact phases.elim (absurd · early) (absurd · notYet)

theorem begin (coherent : Coherent state stages) (vacant : stages place = none)
    (late : state.phase = .installed ∨ state.phase = .activating ∨ state.phase = .activated) :
    Coherent state (Function.update stages place (some .starting)) := by
  refine ⟨fun _ => late, fun waiting {other stage} found => ?_,
    fun {other stage} found claimed => ?_,
    coherent.activated, fun active => ?_, coherent.unclaimed⟩
  · by_cases same : other = place
    · rw [same, Function.update_self] at found
      exact (Option.some.inj found).symm
    · rw [Function.update_of_ne same] at found
      exact coherent.waits waiting found
  · by_cases same : other = place
    · rw [same, Function.update_self] at found
      obtain rfl := Option.some.inj found
      simp [Activation.rank] at claimed
    · rw [Function.update_of_ne same] at found
      exact coherent.claims found claimed
  · obtain ⟨other, stage, found, underWay⟩ := coherent.activating active
    refine ⟨other, stage, ?_, underWay⟩
    rw [Function.update_of_ne, found]
    rintro rfl
    simp [vacant] at found

theorem leave (coherent : Coherent state stages) {deleted : List String}
    (there : stages place = some (.ended deleted)) :
    Coherent state (Function.update stages place none) := by
  have kept {other : Place} {stage : Activation}
      (found : Function.update stages place none other = some stage) :
      stages other = some stage := by
    by_cases same : other = place
    · rw [same, Function.update_self] at found
      cases found
    · rwa [Function.update_of_ne same] at found
  refine ⟨fun found => coherent.late (kept found), fun waiting _ _ found =>
    coherent.waits waiting (kept found), fun found => coherent.claims (kept found),
    coherent.activated, fun active => ?_, coherent.unclaimed⟩
  obtain ⟨other, stage, found, begun, unfinished⟩ := coherent.activating active
  refine ⟨other, stage, ?_, begun, unfinished⟩
  rw [Function.update_of_ne, found]
  rintro rfl
  obtain rfl := Option.some.inj (there.symm.trans found)
  cases unfinished

end Coherent

end OfflineSite.Worker
