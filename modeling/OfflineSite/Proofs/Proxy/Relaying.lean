import OfflineSite.Proofs.Http.Header
import OfflineSite.Proofs.Result
import OfflineSite.Proxy.Relay

namespace OfflineSite.Proxy

open Http (LegalName LegalValue lowered)

theorem lowered_of_mem_hopByHop : ∀ name ∈ hopByHop, lowered name = name := by
  decide +kernel

theorem isHopByHop_iff {name : String} : isHopByHop name ↔ lowered name ∈ hopByHop := by
  have same (field : String) : Http.sameName name field ↔ lowered name = lowered field := by
    rw [Http.sameName, beq_iff_eq, lowered, lowered, String.ofList_inj]
  rw [isHopByHop, List.any_eq_true]
  constructor
  · rintro ⟨field, listed, equal⟩
    rw [(same field).mp equal, lowered_of_mem_hopByHop field listed]
    exact listed
  · intro listed
    refine ⟨_, listed, (same _).mpr ?_⟩
    rw [lowered_of_mem_hopByHop _ listed]

theorem status_eq (number : UInt16) :
    status number = if 100 ≤ number.toNat ∧ number.toNat ≤ 999 then number.toNat else 502 := by
  simp only [status, UInt16.le_iff_toNat_le]
  rfl

/-- A header that may be sent. -/
def Legal (header : String × String) : Prop := LegalName header.1 ∧ LegalValue header.2

instance : DecidablePred Legal := fun header =>
  inferInstanceAs (Decidable (LegalName header.1 ∧ LegalValue header.2))

/-- The headers of a response that are not bound to a connection. -/
def unbound (headers : List (String × String)) : List (String × String) :=
  headers.filter fun header => lowered header.1 ∉ hopByHop

theorem unbound_eq (headers : List (String × String)) :
    headers.filter (fun header => !isHopByHop header.1) = unbound headers := by
  refine List.filter_congr fun header _ => ?_
  rw [Bool.eq_iff_iff]
  simpa using not_congr isHopByHop_iff

/-- A field as a header, if its value is text. -/
def passed? (field : String × ByteArray) : Option (String × String) :=
  (Http.fieldText? field.2).map (field.1, ·)

theorem legal_of_passed? {field : String × ByteArray} {header : String × String}
    (passes : passed? field = some header) (named : LegalName field.1) : Legal header := by
  obtain ⟨text, read, rfl⟩ := Option.map_eq_some_iff.mp passes
  exact ⟨named, Http.legalValue_of_fieldText? read⟩

theorem field_of_legal {header : String × String} (legal : Legal header) :
    field header = .ok (lowered header.1, header.2.toUTF8) := by
  simp only [field, Http.fieldName?_of_legal legal.1, Http.fieldValue?_of_legal legal.2]

theorem exists_field_of_illegal {header : String × String} (illegal : ¬ Legal header) :
    ∃ fault, field header = .error fault := by
  unfold field
  by_cases named : LegalName header.1
  · have spoilt := Http.fieldValue?_of_illegal fun valued => illegal ⟨named, valued⟩
    simp only [Http.fieldName?_of_legal named, spoilt]
    exact ⟨_, rfl⟩
  · simp only [Http.fieldName?_of_illegal named]
    exact ⟨_, rfl⟩

theorem relay_of_legal {reply : Worker.Reply}
    (legal : ∀ header ∈ unbound reply.response.headers, Legal header) :
    (relay reply).1 = ⟨status reply.response.status,
      (unbound reply.response.headers).map (fun header => (lowered header.1, header.2.toUTF8)) ++
        [(sourceField, reply.source.name.toUTF8)], reply.response.body⟩ := by
  unfold relay
  simp only [unbound_eq, mapM_eq_ok fun header member => field_of_legal (legal header member)]

theorem relay_of_illegal {reply : Worker.Reply} {header : String × String}
    (member : header ∈ unbound reply.response.headers) (illegal : ¬ Legal header) :
    (relay reply).1 = badGateway := by
  obtain ⟨fault, fails⟩ := exists_field_of_illegal illegal
  obtain ⟨cause, stops⟩ := exists_mapM_eq_error member fails
  unfold relay
  simp only [unbound_eq, stops]

end OfflineSite.Proxy
