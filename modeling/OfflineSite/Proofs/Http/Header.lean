import OfflineSite.Http.Message
import OfflineSite.Proofs.Text.Utf8

namespace OfflineSite.Http

/-- A name that may be sent: a token that is not too long. -/
structure LegalName (name : String) : Prop where
  nonempty : name ≠ ""
  token : ∀ c ∈ name.toList, isTokenChar c
  short : name.length ≤ nameLimit

/-- A text that may be sent as a value: one without control characters, a tab excepted. -/
def LegalValue (value : String) : Prop :=
  ∀ byte ∈ value.toUTF8.toList, byte = 9 ∨ 32 ≤ byte ∧ byte ≠ 127

theorem fieldName?_of_legal {name : String} (legal : LegalName name) :
    fieldName? name = some (lowered name) := by
  have named : !name.isEmpty := by simpa using legal.nonempty
  have token : name.toList.all isTokenChar := List.all_eq_true.mpr legal.token
  simp [fieldName?, named, token, legal.short]

theorem fieldName?_of_illegal {name : String} (illegal : ¬ LegalName name) :
    fieldName? name = none := by
  rw [fieldName?, if_neg]
  intro passes
  simp only [Bool.and_eq_true, decide_eq_true_eq, List.all_eq_true] at passes
  exact illegal ⟨by simpa using passes.1.1, passes.1.2, passes.2⟩

instance : DecidablePred LegalName := fun name =>
  decidable_of_iff (fieldName? name).isSome <| by
    by_cases legal : LegalName name
    · simp [legal, fieldName?_of_legal legal]
    · simp [legal, fieldName?_of_illegal legal]

theorem all_isValueByte_iff {value : String} :
    value.toUTF8.toList.all isValueByte ↔ LegalValue value := by
  simp only [LegalValue, List.all_eq_true, isValueByte, Bool.or_eq_true, Bool.and_eq_true,
    beq_iff_eq, bne_iff_ne, decide_eq_true_eq, ge_iff_le]

instance : DecidablePred LegalValue := fun value =>
  decidable_of_iff (value.toUTF8.toList.all isValueByte) all_isValueByte_iff

theorem fieldValue?_of_legal {value : String} (legal : LegalValue value) :
    fieldValue? value = some value.toUTF8 :=
  if_pos (all_isValueByte_iff.mpr legal)

theorem fieldValue?_of_illegal {value : String} (illegal : ¬ LegalValue value) :
    fieldValue? value = none :=
  if_neg fun passes => illegal (all_isValueByte_iff.mp passes)

/-- Whether a value is printable ASCII with tabs. -/
def isVisible (value : ByteArray) : Bool :=
  value.toList.all fun byte => byte == 9 || (32 ≤ byte && byte ≤ 126)

theorem all_isTextByte (value : ByteArray) : value.toList.all isTextByte = isVisible value := by
  rw [isVisible]
  congr 1
  funext byte
  have bounds : byte < 127 ↔ byte ≤ 126 := by
    rw [UInt8.lt_iff_toNat_lt, UInt8.le_iff_toNat_le]
    exact Nat.lt_succ_iff
  simp only [isTextByte, bounds, ge_iff_le]

/-- A visible value is read as the text that it is made of. -/
theorem exists_fieldText? {value : ByteArray} (visible : isVisible value) :
    ∃ text, fieldText? value = some text ∧ text.toUTF8 = value := by
  have ascii (byte : UInt8) (member : byte ∈ value.toList) : byte.toNat < 128 := by
    have low := List.all_eq_true.mp visible byte member
    simp only [Bool.or_eq_true, beq_iff_eq, Bool.and_eq_true, decide_eq_true_eq] at low
    rcases low with rfl | ⟨_, low⟩
    · decide
    · exact Nat.lt_of_le_of_lt (UInt8.le_iff_toNat_le.mp low) (by decide)
  obtain ⟨text, rfl⟩ := exists_toUTF8 ascii
  exact ⟨text, by rw [fieldText?, all_isTextByte, if_pos visible, fromUTF8?_toUTF8], rfl⟩

theorem fieldText?_of_hidden {value : ByteArray} (hidden : ¬ isVisible value) :
    fieldText? value = none := by
  rw [fieldText?, all_isTextByte, if_neg hidden]

theorem legalValue_of_fieldText? {value : ByteArray} {text : String}
    (read : fieldText? value = some text) : LegalValue text := by
  by_cases visible : isVisible value
  · obtain ⟨_, same, rfl⟩ := exists_fieldText? visible
    obtain rfl := Option.some.inj (same.symm.trans read)
    intro byte member
    have bounds := List.all_eq_true.mp visible byte member
    simp only [Bool.or_eq_true, beq_iff_eq, Bool.and_eq_true, decide_eq_true_eq] at bounds
    refine bounds.imp_right fun range => ⟨range.1, ?_⟩
    rintro rfl
    exact absurd range.2 (by decide)
  · rw [fieldText?_of_hidden visible] at read
    cases read

/-- A test of keys keeps all or none of what lies under one key. -/
theorem filter_key {α : Type} (key : α → String) (keeps : String → Bool) (list : List α)
    (name : String) : (list.filter fun element => keeps (key element)).filter (key · = name) =
      if keeps name then list.filter (key · = name) else [] := by
  rw [List.filter_filter]
  split
  · next kept =>
    refine List.filter_congr fun element _ => ?_
    by_cases same : key element = name
    · simp [same, kept]
    · simp [same]
  · next dropped =>
    refine List.filter_eq_nil_iff.mpr fun element _ both => ?_
    simp only [Bool.and_eq_true, decide_eq_true_eq] at both
    exact dropped (both.1 ▸ both.2)

namespace Fields

/-- The values of the fields of a name, in order. -/
def values (fields : Fields) (name : String) : List ByteArray :=
  (fields.filter (·.1 = name)).map (·.2)

/-- Of lists that belong to names all but one are empty, so that one is all there is. -/
theorem flatMap_eraseDups {α : Type} {list : String → List α} (name : String)
    (others : ∀ other, other ≠ name → list other = []) (names : List String) :
    names.eraseDups.flatMap list = if name ∈ names then list name else [] := by
  match names with
  | [] => rfl
  | first :: rest =>
    have onward := flatMap_eraseDups name others (rest.filter fun other => !other == first)
    rw [List.eraseDups_cons, List.flatMap_cons, onward]
    by_cases same : first = name
    · subst same
      simp
    · simp [others first same, Ne.symm same]
  termination_by names.length
  decreasing_by exact Nat.lt_succ_of_le (List.length_filter_le ..)

theorem filter_grouped (fields : Fields) (name : String) :
    fields.grouped.filter (·.1 = name) = fields.filter (·.1 = name) := by
  have one (other : String) : (fields.filter (·.1 == other)).filter (·.1 = name) =
      if name == other then fields.filter (·.1 = name) else [] :=
    filter_key (·.1) (· == other) fields name
  simp only [grouped, List.filter_flatMap, one]
  have others (other : String) (different : other ≠ name) :
      (if name == other then fields.filter (·.1 = name) else []) = [] :=
    if_neg (by simpa using different.symm)
  rw [flatMap_eraseDups name others, if_pos (beq_self_eq_true name)]
  split
  · rfl
  · next absent =>
    refine (List.filter_eq_nil_iff.mpr fun field member same => absent ?_).symm
    exact List.mem_map.mpr ⟨field, member, of_decide_eq_true same⟩

end Fields

namespace Response

variable (response : Response) (method : String)

theorem status_framed : (response.framed method).status = response.status := by
  unfold framed
  split <;> rfl

theorem body_framed (response : Response) {method : String} (tunnels : method ≠ "CONNECT")
    (silent : method ≠ "HEAD") : (response.framed method).body = response.body := by
  simp [framed, tunnels, silent]

/-- Framing speaks of the length only. -/
theorem values_framed {name : String} (other : name ≠ "content-length") :
    (response.framed method).fields.values name = response.fields.values name := by
  unfold framed
  split
  · have kept : (name != "content-length") = true := by simpa using other
    have same := filter_key (fun field => field.1) (· != "content-length") response.fields name
    rw [if_pos kept] at same
    exact congrArg (List.map (·.2)) same
  · dsimp only
    split
    · rfl
    · simp [Fields.values, other.symm]

end Response

end OfflineSite.Http
