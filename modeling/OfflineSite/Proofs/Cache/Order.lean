import OfflineSite.Proofs.Cache.Storage

namespace OfflineSite.Cache

/-- Keys go by their method first, then by their URL. -/
def Key.Before (first second : Key) : Prop :=
  first.method < second.method ∨ first.method = second.method ∧ first.url < second.url

theorem compare_eq_lt {first second : String} : compare first second = .lt ↔ first < second :=
  compareOfLessAndEq_eq_lt

theorem Key.compare_eq_lt {first second : Key} :
    compare first second = .lt ↔ first.Before second := by
  have lexed : compare first second =
      (compare first.method second.method).then (compare first.url second.url) := rfl
  rw [lexed, Ordering.then_eq_lt, Std.LawfulEqCmp.compare_eq_iff_eq, Cache.compare_eq_lt,
    Cache.compare_eq_lt, Before]

namespace Store

theorem keys_eq (store : Store) : store.keys = store.toList.map Prod.fst :=
  Std.TreeMap.map_fst_toList_eq_keys.symm

theorem ordered_toList (store : Store) :
    store.toList.Pairwise fun first second => first.1.Before second.1 :=
  Std.TreeMap.ordered_keys_toList.imp Key.compare_eq_lt.mp

theorem ordered_keys (store : Store) : store.keys.Pairwise Key.Before :=
  Std.TreeMap.ordered_keys.imp Key.compare_eq_lt.mp

theorem size_eq (store : Store) : store.size = store.toList.length :=
  Std.TreeMap.length_toList.symm

theorem isEmpty_eq (store : Store) : store.isEmpty = store.toList.isEmpty :=
  Std.TreeMap.isEmpty_toList.symm

theorem contains_eq_isSome (store : Store) (key : Key) :
    store.contains key = (store.lookup? key).isSome :=
  Std.TreeMap.contains_eq_isSome_getElem?

end Store

namespace Storage

theorem ordered_keys (storage : Storage) : storage.keys.Pairwise (· < ·) :=
  Std.TreeMap.ordered_keys.imp compare_eq_lt.mp

theorem ordered_toList (storage : Storage) :
    storage.toList.Pairwise fun first second => first.1 < second.1 :=
  List.pairwise_map.mpr (Std.TreeMap.ordered_keys_toList.imp compare_eq_lt.mp)

/-- The response to a request comes from the first store by name that holds one. -/
theorem matchRequest_eq_some_iff {storage : Storage} {key : Key} {response : FetchResponse} :
    storage.matchRequest key = some response ↔
      ∃ name entry, storage.held? name key = some entry ∧ entry.response = response ∧
        ∀ before < name, storage.held? before key = none := by
  have ordered := storage.ordered_toList
  constructor
  · intro found
    obtain ⟨front, ⟨name, store⟩, back, split, held, missing⟩ :=
      List.findSome?_eq_some_iff.mp found
    have listed : (name, store) ∈ storage.toList := by simp [split]
    obtain ⟨entry, present, value⟩ := Option.map_eq_some_iff.mp held
    refine ⟨name, entry, (lookup?_of_mem_toList listed key).symm.trans present, value, ?_⟩
    intro before less
    cases other : storage.held? before key with
    | none => rfl
    | some earlier =>
      -- What is listed before the name holds nothing, and what is listed after it comes later.
      obtain ⟨handle, leads, there⟩ := Option.bind_eq_some_iff.mp other
      have member : (before, storage.store handle) ∈ storage.toList :=
        mem_toList.mpr ⟨handle, leads, rfl⟩
      rw [split] at member ordered
      rcases List.mem_append.mp member with inFront | later
      · have none := missing _ inFront
        simp [Store.get?, there] at none
      · obtain ⟨same, -⟩ | inBack := (List.mem_cons.mp later).imp_left Prod.mk.inj
        · exact absurd (same ▸ less) (String.lt_irrefl _)
        · have after := (List.pairwise_cons.mp (List.pairwise_append.mp ordered).2.1).1 _ inBack
          exact absurd (String.lt_trans less after) (String.lt_irrefl _)
  · rintro ⟨name, entry, held, rfl, missing⟩
    obtain ⟨handle, leads, there⟩ := Option.bind_eq_some_iff.mp held
    obtain ⟨front, back, split⟩ := List.append_of_mem (mem_toList.mpr ⟨handle, leads, rfl⟩)
    refine List.findSome?_eq_some_iff.mpr
      ⟨front, _, back, split, by simp [Store.get?, there], fun ⟨before, store⟩ inFront => ?_⟩
    have less := (List.pairwise_append.mp (split ▸ ordered)).2.2 _ inFront _ List.mem_cons_self
    have listed : (before, store) ∈ storage.toList := by simp [split, inFront]
    simp [Store.get?, lookup?_of_mem_toList listed, missing before less]

theorem matchRequest_eq_none_iff {storage : Storage} {key : Key} :
    storage.matchRequest key = none ↔ ∀ name, storage.held? name key = none := by
  refine ⟨held?_eq_none, fun missing => ?_⟩
  cases found : storage.matchRequest key with
  | none => rfl
  | some response =>
    obtain ⟨name, entry, held, -⟩ := exists_held_of_matchRequest found
    exact absurd held (by simp [missing name])

end Storage

end OfflineSite.Cache
