import OfflineSite.Json.Literal
import OfflineSite.Proofs.Json.Reading

namespace OfflineSite.Json

theorem spells_letter {c mark : Char} (listed : (mark, c) ∈ letters) :
    Spells c (Utf8.encode ['\\', mark]) := by
  have ascii : ∀ entry ∈ letters,
      Utf8.encode ['\\', entry.1] = [byte '\\', byte entry.1] := by decide
  rw [ascii (mark, c) listed]
  exact .letter listed

theorem encode_lower : ∀ n < 32,
    Utf8.encode ['\\', 'u', '0', '0', Hex.lower (n / 16), Hex.lower (n % 16)] =
      byte '\\' :: byte 'u' ::
        [byte (Hex.lower 0), byte (Hex.lower 0), byte (Hex.lower (n / 16)),
          byte (Hex.lower (n % 16))] := by
  decide

theorem hexNumber_lower {n : Nat} (bound : n < 32) :
    HexNumber n [byte (Hex.lower 0), byte (Hex.lower 0), byte (Hex.lower (n / 16)),
      byte (Hex.lower (n % 16))] := by
  have digit (n : Nat) (bound : n < 16) : HexDigit (byte (Hex.lower n)) n := ⟨bound, Or.inl rfl⟩
  have number := HexNumber.digits (digit 0 (by decide)) (digit 0 (by decide))
    (digit (n / 16) (by omega)) (digit (n % 16) (by omega))
  have whole : ((0 * 16 + 0) * 16 + n / 16) * 16 + n % 16 = n := by omega
  rwa [whole] at number

/-- A character is written as itself or as an escape that spells it. -/
theorem spells_literalChar (c : Char) : Spells c (Utf8.encode (literalChar c)) := by
  unfold literalChar
  split
  · next quote =>
    rw [quote]
    exact spells_letter (by decide)
  split
  · next backslash =>
    rw [backslash]
    exact spells_letter (by decide)
  split
  · next backspace =>
    rw [backspace]
    exact spells_letter (by decide)
  split
  · next feed =>
    rw [feed]
    exact spells_letter (by decide)
  split
  · next line =>
    rw [line]
    exact spells_letter (by decide)
  split
  · next back =>
    rw [back]
    exact spells_letter (by decide)
  split
  · next tab =>
    rw [tab]
    exact spells_letter (by decide)
  split
  · next control =>
    rw [encode_lower c.toNat control]
    exact .number (hexNumber_lower control)
  · next quote backslash _ _ _ _ _ control =>
    have whole : Utf8.encode [c] = String.utf8EncodeChar c := List.flatMap_singleton ..
    rw [whole]
    exact .itself quote backslash control

theorem inside_literal (chars : List Char) :
    Inside chars (Utf8.encode (chars.flatMap literalChar)) := by
  induction chars with
  | nil => exact .nil
  | cons c chars ih =>
    rw [List.flatMap_cons, Utf8.encode_append]
    exact .cons (spells_literalChar c) ih

theorem string_literal (text : String) (rest : List UInt8) :
    string (Utf8.encode (text.toList.flatMap literalChar) ++ byte '"' :: rest) =
      .ok (text, rest) :=
  (inside_literal text.toList).read rest

/-- Reads a string. -/
def readText : Reader String
  | [] => faultAtNext [] .endInValue
  | b :: rest => if b = byte '"' then string rest else faultAtNext (b :: rest) .expectedValue

/-- Reads the items of a list and its bracket. -/
def readItems {α : Type} (item : Reader α) : Nat → Bool → Reader (List α)
  | 0, _, text => faultAt text .endInList
  | fuel + 1, first, text => do
    let (more, rest) ← nextItem first text
    if more then
      let (value, rest) ← item rest
      let (others, rest) ← readItems item fuel false rest
      return (value :: others, rest)
    else return ([], rest.tail)

/-- Reads a list of strings. -/
def readTexts : Reader (List String)
  | [] => faultAtNext [] .endInValue
  | b :: rest =>
    if b = byte '[' then readItems readText (rest.length + 1) true rest
    else faultAtNext (b :: rest) .expectedValue

/-- Counting the items of a list reads it as far as keeping them does. -/
theorem items_eq (item : Reader Unit) (fuel : Nat) (first : Bool) (text : List UInt8) :
    items item fuel first text =
      (readItems item fuel first text).map fun read => (read.1.length, read.2) := by
  induction fuel generalizing first text with
  | zero => rfl
  | succ fuel ih =>
    simp only [items, readItems, bind, Except.bind]
    cases nextItem first text with
    | error => rfl
    | ok next =>
      obtain ⟨more, rest⟩ := next
      cases more with
      | false => rfl
      | true =>
        dsimp only
        cases item rest with
        | error => rfl
        | ok read =>
          simp only [ih]
          cases readItems item fuel false read.2 <;> rfl

/-- The bytes of a literal. -/
def literalBytes (text : String) : List UInt8 := Utf8.encode (literal text).toList

theorem literalBytes_append (text : String) (rest : List UInt8) :
    literalBytes text ++ rest =
      byte '"' :: (Utf8.encode (text.toList.flatMap literalChar) ++ byte '"' :: rest) := by
  simp only [literalBytes, literal, String.toList_ofList, Utf8.encode, List.cons_append,
    List.flatMap_cons, List.flatMap_append, List.append_assoc]
  rfl

theorem readText_literal (text : String) (rest : List UInt8) :
    readText (literalBytes text ++ rest) = .ok (text, rest) := by
  rw [literalBytes_append, readText, if_pos rfl, string_literal]

theorem quoted_literal (text : String) : Quoted text (literalBytes text) := by
  have whole := literalBytes_append text []
  rw [List.append_nil] at whole
  rw [whole]
  exact .quotes (inside_literal text.toList)

theorem value_literal (depth : Nat) (text : String) (rest : List UInt8) :
    value depth (literalBytes text ++ rest) = .ok ((), rest) :=
  (quoted_literal text).value depth rest

/-- The bytes between the brackets of a list literal. -/
def itemBytes : List String → List UInt8
  | [] => []
  | first :: others =>
    literalBytes first ++ others.flatMap fun text => byte ',' :: literalBytes text

theorem encode_intercalate (texts : List String) :
    Utf8.encode (String.intercalate "," (texts.map literal)).toList = itemBytes texts := by
  have append (front back : String) : Utf8.encode (front ++ back).toList =
      Utf8.encode front.toList ++ Utf8.encode back.toList := by
    rw [String.toList_append, Utf8.encode_append]
  have comma : Utf8.encode ",".toList = [byte ','] := by decide
  cases texts with
  | nil => rfl
  | cons first others =>
    induction others generalizing first with
    | nil => simp [itemBytes, literalBytes]
    | cons second others ih =>
      have later := ih second
      rw [List.map_cons, List.map_cons, String.intercalate_cons_cons, append, append, comma,
        ← List.map_cons, later]
      simp [itemBytes, literalBytes]

theorem encode_listLiteral (texts : List String) :
    Utf8.encode (listLiteral texts).toList = byte '[' :: (itemBytes texts ++ [byte ']']) := by
  have between := encode_intercalate texts
  unfold Utf8.encode at between ⊢
  rw [listLiteral, String.toList_append, String.toList_append, List.flatMap_append,
    List.flatMap_append, between]
  rfl

theorem nextItem_first (text : String) (rest : List UInt8) :
    nextItem true (literalBytes text ++ rest) = .ok (true, literalBytes text ++ rest) := by
  rw [literalBytes_append]
  rfl

theorem nextItem_comma (text : String) (rest : List UInt8) :
    nextItem false (byte ',' :: (literalBytes text ++ rest)) =
      .ok (true, literalBytes text ++ rest) := by
  rw [literalBytes_append]
  rfl

section

variable {α : Type} {item : Reader α} {kept : String → α}
  (reads : ∀ text rest, item (literalBytes text ++ rest) = .ok (kept text, rest))

include reads

theorem readItems_others (texts : List String) {fuel : Nat} (enough : texts.length < fuel)
    (rest : List UInt8) :
    readItems item fuel false
      ((texts.flatMap fun text => byte ',' :: literalBytes text) ++ byte ']' :: rest) =
        .ok (texts.map kept, rest) := by
  induction texts generalizing fuel with
  | nil =>
    obtain ⟨fuel, rfl⟩ := Nat.exists_eq_add_of_lt enough
    rw [readItems]
    rfl
  | cons text texts ih =>
    obtain ⟨more, rfl⟩ := Nat.exists_eq_add_one_of_ne_zero (Nat.ne_zero_of_lt enough)
    have later := ih (Nat.lt_of_succ_lt_succ enough)
    simp only [List.flatMap_cons, List.cons_append, List.append_assoc, readItems, nextItem_comma,
      bind, Except.bind, if_true, reads, later]
    rfl

theorem readItems_literals (texts : List String) {fuel : Nat} (enough : texts.length < fuel)
    (rest : List UInt8) :
    readItems item fuel true (itemBytes texts ++ byte ']' :: rest) = .ok (texts.map kept, rest) := by
  obtain ⟨more, rfl⟩ := Nat.exists_eq_add_one_of_ne_zero (Nat.ne_zero_of_lt enough)
  cases texts with
  | nil =>
    rw [readItems]
    rfl
  | cons text texts =>
    have later := readItems_others reads texts (Nat.lt_of_succ_lt_succ enough) rest
    simp only [itemBytes, List.append_assoc, readItems, nextItem_first, bind, Except.bind, if_true,
      reads, later]
    rfl

end

theorem length_le_itemBytes (texts : List String) : texts.length ≤ (itemBytes texts).length := by
  have some (text : String) : 1 ≤ (literalBytes text).length := by
    have whole := literalBytes_append text []
    rw [List.append_nil] at whole
    simp [whole]
  cases texts with
  | nil => exact Nat.le_refl _
  | cons first others =>
    have rest : others.length ≤
        (others.flatMap fun text => byte ',' :: literalBytes text).length := by
      induction others with
      | nil => exact Nat.le_refl _
      | cons text others ih =>
        simp only [List.flatMap_cons, List.length_append, List.length_cons]
        omega
    have front := some first
    simp only [itemBytes, List.length_append, List.length_cons]
    omega

theorem readTexts_listLiteral (texts : List String) (rest : List UInt8) :
    readTexts (Utf8.encode (listLiteral texts).toList ++ rest) = .ok (texts, rest) := by
  have enough : texts.length < (itemBytes texts ++ byte ']' :: rest).length + 1 := by
    have short := length_le_itemBytes texts
    rw [List.length_append]
    omega
  have read := readItems_literals readText_literal texts enough rest
  rw [List.map_id'] at read
  rw [encode_listLiteral, List.cons_append, List.append_assoc, List.singleton_append, readTexts,
    if_pos rfl, read]

theorem value_listLiteral (depth : Nat) (texts : List String) (rest : List UInt8) :
    value (depth + 1) (Utf8.encode (listLiteral texts).toList ++ rest) = .ok ((), rest) := by
  have noBlank (more : List UInt8) : skipBlanks (byte '[' :: more) = byte '[' :: more := rfl
  have bracket : Char.ofNat (byte '[').toNat = '[' := by decide
  have enough : texts.length < (itemBytes texts ++ byte ']' :: rest).length + 1 := by
    have short := length_le_itemBytes texts
    rw [List.length_append]
    omega
  have read := readItems_literals (value_literal depth) texts enough rest
  rw [encode_listLiteral, List.cons_append, List.append_assoc, List.singleton_append, value.eq_def]
  simp only [noBlank, bracket, items_eq, read]
  rfl

theorem newline_not_mem_literalChar (c : Char) : '\n' ∉ literalChar c := by
  have digits : ∀ n < 32, '\n' ≠ Hex.lower (n / 16) ∧ '\n' ≠ Hex.lower (n % 16) := by decide
  unfold literalChar
  split
  · decide
  split
  · decide
  split
  · decide
  split
  · decide
  split
  · decide
  split
  · decide
  split
  · decide
  split
  · next control => simp [digits _ control]
  · next newline _ _ _ => simpa using Ne.symm newline

theorem newline_not_mem_literal (text : String) : '\n' ∉ (literal text).toList := by
  intro inside
  rw [literal, String.toList_ofList] at inside
  simp only [List.cons_append, List.mem_cons, List.mem_append, List.mem_flatMap,
    List.not_mem_nil, or_false] at inside
  rcases inside with quote | ⟨c, _, inside⟩ | quote
  · exact absurd quote (by decide)
  · exact newline_not_mem_literalChar c inside
  · exact absurd quote (by decide)

theorem newline_not_mem_listLiteral (texts : List String) :
    '\n' ∉ (listLiteral texts).toList := by
  have between : '\n' ∉ (String.intercalate "," (texts.map literal)).toList := by
    cases texts with
    | nil => decide
    | cons first others =>
      induction others generalizing first with
      | nil => simpa using newline_not_mem_literal first
      | cons second others ih =>
        have later := ih second
        rw [List.map_cons, List.map_cons, String.intercalate_cons_cons, ← List.map_cons,
          String.toList_append, String.toList_append, List.mem_append, List.mem_append]
        rintro ((front | comma) | back)
        · exact newline_not_mem_literal first front
        · exact absurd comma (by decide)
        · exact later back
  simpa [listLiteral] using between

/-- A literal on one line that is one value and nothing else, and is read as what it stands for. -/
structure Denotes {α : Type} (reader : Reader α) (literal : String) (content : α) : Prop where
  newline_not_mem : '\n' ∉ literal.toList
  single : value 1 (Utf8.encode literal.toList) = .ok ((), [])
  read : reader (Utf8.encode literal.toList) = .ok (content, [])

/-- A literal stands for one thing only. -/
theorem Denotes.unique {α : Type} {reader : Reader α} {literal : String} {content other : α}
    (denotes : Denotes reader literal content) (denotesToo : Denotes reader literal other) :
    content = other :=
  congrArg Prod.fst (Except.ok.inj (denotes.read.symm.trans denotesToo.read))

theorem denotes_literal (text : String) : Denotes readText (literal text) text where
  newline_not_mem := newline_not_mem_literal text
  single := by simpa [literalBytes] using value_literal 1 text []
  read := by simpa [literalBytes] using readText_literal text []

theorem denotes_listLiteral (texts : List String) :
    Denotes readTexts (listLiteral texts) texts where
  newline_not_mem := newline_not_mem_listLiteral texts
  single := by simpa using value_listLiteral 0 texts []
  read := by simpa using readTexts_listLiteral texts []

end OfflineSite.Json
