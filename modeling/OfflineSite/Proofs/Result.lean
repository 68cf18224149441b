namespace OfflineSite

theorem exists_of_bind_eq_ok {ε α β : Type}
    {first : Except ε α} {rest : α → Except ε β} {result : β}
    (ended : (first >>= rest) = .ok result) :
    ∃ value, first = .ok value ∧ rest value = .ok result := by
  cases first with
  | error cause => cases ended
  | ok value => exact ⟨value, rfl, ended⟩

theorem eq_ok_of_toOption {ε α : Type} {result : Except ε α} {value : α}
    (same : result.toOption = some value) : result = .ok value := by
  cases result with
  | error cause => cases same
  | ok found => exact congrArg Except.ok (Option.some.inj same)

theorem mapM_eq_ok {ε α β : Type} {step : α → Except ε β} {result : α → β} {list : List α}
    (each : ∀ element ∈ list, step element = .ok (result element)) :
    list.mapM step = .ok (list.map result) := by
  induction list with
  | nil => rfl
  | cons first rest ih =>
    have others := ih fun element member => each element (List.mem_cons_of_mem first member)
    rw [List.mapM_cons, each first (List.mem_cons_self ..), others]
    rfl

theorem exists_mapM_eq_error {ε α β : Type} {step : α → Except ε β} {list : List α} {element : α}
    (member : element ∈ list) {fault : ε} (fails : step element = .error fault) :
    ∃ cause, list.mapM step = .error cause := by
  induction list with
  | nil => cases member
  | cons first rest ih =>
    rw [List.mapM_cons]
    cases begun : step first with
    | error cause => exact ⟨cause, rfl⟩
    | ok value =>
      rcases List.mem_cons.mp member with rfl | later
      · rw [begun] at fails
        cases fails
      · obtain ⟨cause, stops⟩ := ih later
        rw [stops]
        exact ⟨cause, rfl⟩

end OfflineSite
