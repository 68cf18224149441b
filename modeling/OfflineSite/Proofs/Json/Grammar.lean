import OfflineSite.Json.Reader

namespace OfflineSite.Json

/-- A value. The members of an object stand in the order in which they were written, and a key as
often as it was. Numbers with a point or an exponent are left out. -/
inductive Tree where
  | null
  | boolean (value : Bool)
  | integer (value : Int)
  | string (content : String)
  | array (items : List Tree)
  | object (members : List (String × Tree))

/-- Text between tokens. -/
def Blank (text : List UInt8) : Prop :=
  ∀ b ∈ text, b ∈ [byte ' ', byte '\t', byte '\n', byte '\r']

/-- A hexadecimal digit of either case. -/
def HexDigit (b : UInt8) (n : Nat) : Prop :=
  n < 16 ∧ (b = byte (Hex.lower n) ∨ b = byte (Hex.upper n))

/-- A number in four hexadecimal digits. -/
inductive HexNumber : Nat → List UInt8 → Prop
  | digits {a b c d : UInt8} {i j k l : Nat} :
      HexDigit a i → HexDigit b j → HexDigit c k → HexDigit d l →
      HexNumber (((i * 16 + j) * 16 + k) * 16 + l) [a, b, c, d]

/-- The letters that stand for a character after a backslash. -/
def letters : List (Char × Char) :=
  [('"', '"'), ('\\', '\\'), ('/', '/'), ('b', '\x08'), ('f', '\x0C'), ('n', '\n'), ('r', '\r'),
    ('t', '\t')]

/-- The ways to write a character in a string. Past U+FFFF it takes the numbers of two surrogates,
which have no other use. -/
inductive Spells : Char → List UInt8 → Prop
  | itself {c : Char} : c ≠ '"' → c ≠ '\\' → ¬ c.toNat < 32 → Spells c (String.utf8EncodeChar c)
  | letter {c mark : Char} : (mark, c) ∈ letters → Spells c [byte '\\', byte mark]
  | number {c : Char} {digits : List UInt8} :
      HexNumber c.toNat digits → Spells c (byte '\\' :: byte 'u' :: digits)
  | pair {c : Char} {high low : Nat} {first second : List UInt8} :
      high < 0x400 → low < 0x400 → c.toNat = 0x10000 + high * 0x400 + low →
      HexNumber (0xD800 + high) first → HexNumber (0xDC00 + low) second →
      Spells c (byte '\\' :: byte 'u' :: first ++ byte '\\' :: byte 'u' :: second)

/-- The inside of a string. -/
inductive Inside : List Char → List UInt8 → Prop
  | nil : Inside [] []
  | cons {c : Char} {chars : List Char} {text rest : List UInt8} :
      Spells c text → Inside chars rest → Inside (c :: chars) (text ++ rest)

/-- A string with its quotes. -/
inductive Quoted (content : String) : List UInt8 → Prop
  | quotes {text : List UInt8} :
      Inside content.toList text → Quoted content (byte '"' :: text ++ [byte '"'])

/-- The number that decimal digits spell, those before them having spelled another. -/
def spelled (total : Nat) (digits : List UInt8) : Nat :=
  digits.foldl (fun total b => total * 10 + (b.toNat - 48)) total

theorem spelled_cons (total : Nat) (b : UInt8) (rest : List UInt8) :
    spelled total (b :: rest) = spelled (total * 10 + (b.toNat - 48)) rest := by
  simp only [spelled, List.foldl_cons]

/-- A number in decimal digits, with no zero in front of others. -/
structure Digits (n : Nat) (text : List UInt8) : Prop where
  digit : ∀ b ∈ text, isDigit b
  nonempty : text ≠ []
  zero : text.head? = some (byte '0') → text = [byte '0']
  spells : spelled 0 text = n

/-- An integer of 64 bits, with a sign or without. -/
inductive Integer : Int → List UInt8 → Prop
  | plain {n : Nat} {text : List UInt8} :
      Digits n text → n ≤ 0xFFFFFFFFFFFFFFFF → Integer n text
  | minus {n : Nat} {text : List UInt8} :
      Digits n text → n ≤ 0x8000000000000000 → Integer (-n) (byte '-' :: text)

/-- What comes before an item or a member: blanks, and a comma unless it is the first. -/
inductive Lead : Bool → List UInt8 → Prop
  | first {blanks : List UInt8} : Blank blanks → Lead true blanks
  | next {before after : List UInt8} :
      Blank before → Blank after → Lead false (before ++ byte ',' :: after)

/-- Items or members with what comes between them, up to the bracket or brace. -/
inductive Listed : Bool → List (List UInt8) → List UInt8 → Prop
  | done {first : Bool} {blanks : List UInt8} : Blank blanks → Listed first [] blanks
  | next {first : Bool} {lead text rest : List UInt8} {texts : List (List UInt8)} :
      Lead first lead → Listed false texts rest → Listed first (text :: texts) (lead ++ text ++ rest)

/-- A member whose value has the given text. -/
inductive Keyed (key : String) (value : List UInt8) : List UInt8 → Prop
  | member {quoted before after : List UInt8} :
      Quoted key quoted → Blank before → Blank after →
      Keyed key value (quoted ++ before ++ byte ':' :: after ++ value)

/-- A member of an object with the text of its value and its own. -/
structure Member where
  key : String
  value : Tree
  valueText : List UInt8
  text : List UInt8

/-- The texts of a value in which lists and objects nest up to a depth. -/
inductive Writes : Nat → Tree → List UInt8 → Prop
  | null {depth : Nat} : Writes depth .null [byte 'n', byte 'u', byte 'l', byte 'l']
  | yes {depth : Nat} : Writes depth (.boolean true) [byte 't', byte 'r', byte 'u', byte 'e']
  | no {depth : Nat} :
      Writes depth (.boolean false) [byte 'f', byte 'a', byte 'l', byte 's', byte 'e']
  | integer {depth : Nat} {n : Int} {text : List UInt8} :
      Integer n text → Writes depth (.integer n) text
  | string {depth : Nat} {content : String} {text : List UInt8} :
      Quoted content text → Writes depth (.string content) text
  | array {depth : Nat} {items : List (Tree × List UInt8)} {text : List UInt8} :
      (∀ item ∈ items, Writes depth item.1 item.2) → Listed true (items.map (·.2)) text →
      Writes (depth + 1) (.array (items.map (·.1))) (byte '[' :: text ++ [byte ']'])
  | object {depth : Nat} {members : List Member} {text : List UInt8} :
      (∀ member ∈ members, Writes depth member.value member.valueText) →
      (∀ member ∈ members, Keyed member.key member.valueText member.text) →
      Listed true (members.map (·.text)) text →
      Writes (depth + 1) (.object (members.map fun member => (member.key, member.value)))
        (byte '\x7b' :: text ++ [byte '\x7d'])

theorem Quoted.begins {content : String} {text : List UInt8} (quoted : Quoted content text) :
    ∃ rest, text = byte '"' :: rest := by
  cases quoted
  exact ⟨_, rfl⟩

theorem Keyed.nonempty {key : String} {value text : List UInt8} (keyed : Keyed key value text) :
    text ≠ [] := by
  cases keyed
  simp

theorem Digits.begins {n : Nat} {text : List UInt8} (digits : Digits n text) :
    ∃ b rest, text = b :: rest ∧ isDigit b := by
  obtain ⟨b, rest, rfl⟩ := List.exists_cons_of_ne_nil digits.nonempty
  exact ⟨b, rest, rfl, digits.digit b List.mem_cons_self⟩

/-- A byte that a value other than a string may begin with. -/
def Begins (b : UInt8) : Prop :=
  isDigit b ∨ b ∈ [byte 'n', byte 't', byte 'f', byte '-', byte '[', byte '\x7b']

theorem Writes.begins {depth : Nat} {tree : Tree} {text : List UInt8}
    (writes : Writes depth tree text) :
    (∃ content, tree = .string content ∧ Quoted content text) ∨
      (∀ content, tree ≠ .string content) ∧ ∃ b rest, text = b :: rest ∧ Begins b := by
  cases writes with
  | null => exact Or.inr ⟨nofun, _, _, rfl, Or.inr (by simp)⟩
  | yes => exact Or.inr ⟨nofun, _, _, rfl, Or.inr (by simp)⟩
  | no => exact Or.inr ⟨nofun, _, _, rfl, Or.inr (by simp)⟩
  | integer spells =>
    cases spells with
    | plain digits =>
      obtain ⟨b, rest, rfl, digit⟩ := digits.begins
      exact Or.inr ⟨nofun, b, rest, rfl, Or.inl digit⟩
    | minus digits => exact Or.inr ⟨nofun, _, _, rfl, Or.inr (by simp)⟩
  | string quoted => exact Or.inl ⟨_, rfl, quoted⟩
  | array each listed => exact Or.inr ⟨nofun, _, _, rfl, Or.inr (by simp)⟩
  | object each keyed listed => exact Or.inr ⟨nofun, _, _, rfl, Or.inr (by simp)⟩

end OfflineSite.Json
