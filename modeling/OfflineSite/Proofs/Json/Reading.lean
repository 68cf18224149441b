import OfflineSite.Proofs.Json.Grammar
import OfflineSite.Proofs.Text.Utf8

namespace OfflineSite.Json

theorem Blank.isBlank {text : List UInt8} (blank : Blank text) {b : UInt8} (inside : b ∈ text) :
    isBlank b := by
  have listed := blank b inside
  simp only [List.mem_cons, List.not_mem_nil, or_false] at listed
  rcases listed with rfl | rfl | rfl | rfl <;> rfl

theorem Blank.skip {blanks : List UInt8} (blank : Blank blanks) (rest : List UInt8) :
    skipBlanks (blanks ++ rest) = skipBlanks rest :=
  List.dropWhile_append_of_pos fun _ => blank.isBlank

theorem skipBlanks_cons {b : UInt8} (token : isBlank b = false) (rest : List UInt8) :
    skipBlanks (b :: rest) = b :: rest :=
  List.dropWhile_cons_of_neg (by simp [token])

theorem value?_digit : ∀ n < 16,
    Hex.value? (Char.ofNat (byte (Hex.lower n)).toNat) = some n ∧
      Hex.value? (Char.ofNat (byte (Hex.upper n)).toNat) = some n := by
  decide

theorem HexDigit.value? {b : UInt8} {n : Nat} (digit : HexDigit b n) :
    Hex.value? (Char.ofNat b.toNat) = some n := by
  obtain ⟨bound, rfl | rfl⟩ := digit
  · exact (value?_digit n bound).1
  · exact (value?_digit n bound).2

theorem HexNumber.read {n : Nat} {text : List UInt8} (number : HexNumber n text)
    (rest : List UInt8) : hexDigits (text ++ rest) = .ok (n, rest) := by
  cases number with
  | @digits a b c d i j k l first second third fourth =>
    have values : ([a, b, c, d].mapM fun b => Hex.value? (Char.ofNat b.toNat)) =
        some [i, j, k, l] := by
      simp [first.value?, second.value?, third.value?, fourth.value?]
    simp only [List.cons_append, List.nil_append, hexDigits, values]
    simp [Hex.ofDigits]

theorem unicodeEscape_number {c : Char} {digits : List UInt8} (number : HexNumber c.toNat digits)
    (rest : List UInt8) : unicodeEscape (digits ++ rest) = .ok (c, rest) := by
  have scalar : c.toNat < 0xD800 ∨ 0xDFFF < c.toNat := by
    rcases c.valid with low | ⟨high, _⟩
    · exact Or.inl low
    · exact Or.inr high
  simp only [unicodeEscape, number.read, bind, Except.bind]
  rw [if_neg (by omega), if_pos (by omega), Char.ofNat_toNat]
  rfl

theorem unicodeEscape_pair {c : Char} {high low : Nat} {first second : List UInt8}
    (highBound : high < 0x400) (lowBound : low < 0x400)
    (whole : c.toNat = 0x10000 + high * 0x400 + low) (front : HexNumber (0xD800 + high) first)
    (back : HexNumber (0xDC00 + low) second) (rest : List UInt8) :
    unicodeEscape (first ++ byte '\\' :: byte 'u' :: (second ++ rest)) = .ok (c, rest) := by
  have joined : 0x10000 + (0xD800 + high - 0xD800) * 0x400 + (0xDC00 + low - 0xDC00) = c.toNat := by
    rw [whole, Nat.add_sub_cancel_left, Nat.add_sub_cancel_left]
  simp only [unicodeEscape, front.read, bind, Except.bind]
  rw [if_neg (by omega), if_neg (by omega)]
  simp only [expectByte, if_true, back.read]
  rw [if_neg (by omega), joined, Char.ofNat_toNat]
  rfl

theorem escape_unicode (rest : List UInt8) : escape (byte 'u' :: rest) = unicodeEscape rest := rfl

theorem escape_letter : ∀ entry ∈ letters, ∀ rest : List UInt8,
    escape (byte entry.1 :: rest) = .ok (entry.2, rest) := by
  intro entry listed rest
  simp only [letters, List.mem_cons, List.not_mem_nil, or_false] at listed
  rcases listed with rfl | rfl | rfl | rfl | rfl | rfl | rfl | rfl <;> rfl

/-- The bytes that stand for themselves in a string. -/
def StandsForItself (b : UInt8) : Prop := b ≠ byte '"' ∧ b ≠ byte '\\' ∧ ¬ b < 32

theorem standsForItself_of_mem {c : Char} (noQuote : c ≠ '"') (noBackslash : c ≠ '\\')
    (noControl : ¬ c.toNat < 32) {b : UInt8} (inside : b ∈ String.utf8EncodeChar c) :
    StandsForItself b := by
  by_cases short : c.toNat ≤ 0x7F
  · have only := Utf8.utf8EncodeChar_ofNat c.toNat (Nat.lt_succ_of_le short)
    rw [Char.ofNat_toNat] at only
    obtain rfl : b = UInt8.ofNat c.toNat := by simpa [only] using inside
    have number : (UInt8.ofNat c.toNat).toNat = c.toNat := by
      rw [UInt8.toNat_ofNat']
      exact Nat.mod_eq_of_lt (by omega)
    refine ⟨fun same => noQuote ?_, fun same => noBackslash ?_, fun control => noControl ?_⟩
    · exact Char.toNat_inj.mp (number.symm.trans (congrArg UInt8.toNat same))
    · exact Char.toNat_inj.mp (number.symm.trans (congrArg UInt8.toNat same))
    · exact number ▸ UInt8.lt_iff_toNat_lt.mp control
  · have large := Utf8.le_of_mem_utf8EncodeChar (Nat.lt_of_not_le short) inside
    refine ⟨?_, ?_, fun control => ?_⟩
    · rintro rfl
      exact absurd large (by decide)
    · rintro rfl
      exact absurd large (by decide)
    · have far : 32 ≤ b.toNat := Nat.le_trans (by decide) large
      exact absurd (UInt8.lt_iff_toNat_lt.mp control) (Nat.not_lt.mpr far)

/-- What is read up to the closing quote, whatever fuel there is from some amount on. -/
def Reads (fuel : Nat) (text bytes rest : List UInt8) : Prop :=
  ∀ more, fuel ≤ more → stringBytes more text = .ok (bytes, rest)

theorem reads_quote (rest : List UInt8) : Reads 1 (byte '"' :: rest) [] rest := by
  intro more enough
  obtain ⟨fuel, rfl⟩ := Nat.exists_eq_add_of_le' enough
  rw [stringBytes, if_pos rfl]

section

variable {fuel : Nat} {text bytes rest : List UInt8}

theorem Reads.cons {b : UInt8} (reads : Reads fuel text bytes rest) (itself : StandsForItself b) :
    Reads (fuel + 1) (b :: text) (b :: bytes) rest := by
  intro more enough
  obtain ⟨extra, rfl⟩ := Nat.exists_eq_add_of_le' enough
  have later := reads (extra + fuel) (Nat.le_add_left ..)
  rw [← Nat.add_assoc, stringBytes, if_neg itself.1, if_neg itself.2.1, if_neg itself.2.2, later]
  rfl

theorem Reads.append (reads : Reads fuel text bytes rest) {front : List UInt8}
    (itself : ∀ b ∈ front, StandsForItself b) :
    Reads (fuel + front.length) (front ++ text) (front ++ bytes) rest := by
  induction front with
  | nil => exact reads
  | cons b front ih =>
    exact (ih fun other inside => itself other (List.mem_cons_of_mem b inside)).cons
      (itself b List.mem_cons_self)

theorem Reads.escape {c : Char} {escaped : List UInt8} (reads : Reads fuel text bytes rest)
    (read : Json.escape (escaped ++ text) = .ok (c, text)) :
    Reads (fuel + 1) (byte '\\' :: escaped ++ text) (String.utf8EncodeChar c ++ bytes) rest := by
  intro more enough
  obtain ⟨extra, rfl⟩ := Nat.exists_eq_add_of_le' enough
  have later := reads (extra + fuel) (Nat.le_add_left ..)
  rw [← Nat.add_assoc, List.cons_append, stringBytes, if_neg (by decide), if_pos rfl, read]
  simp only [bind, Except.bind, later]
  rfl

theorem Reads.mono (reads : Reads fuel text bytes rest) {more : Nat} (enough : fuel ≤ more) :
    Reads more text bytes rest :=
  fun amount most => reads amount (Nat.le_trans enough most)

/-- A character is read from any of its spellings. -/
theorem Reads.spells (reads : Reads fuel text bytes rest) {c : Char} {front : List UInt8}
    (spells : Spells c front) :
    Reads (fuel + front.length) (front ++ text) (String.utf8EncodeChar c ++ bytes) rest := by
  have short (escaped : List UInt8) : fuel + 1 ≤ fuel + (byte '\\' :: escaped).length :=
    Nat.add_le_add_left (Nat.le_add_left ..) fuel
  cases spells with
  | itself noQuote noBackslash noControl =>
    exact reads.append fun b => standsForItself_of_mem noQuote noBackslash noControl
  | letter listed => exact (reads.escape (escape_letter _ listed text)).mono (short _)
  | @number digits number =>
    have read : Json.escape ((byte 'u' :: digits) ++ text) = .ok (c, text) := by
      rw [List.cons_append, escape_unicode, unicodeEscape_number number]
    exact (reads.escape read).mono (short _)
  | @pair high low first second highBound lowBound whole front back =>
    have read : Json.escape ((byte 'u' :: first ++ byte '\\' :: byte 'u' :: second) ++ text) =
        .ok (c, text) := by
      simp only [List.cons_append, List.append_assoc, escape_unicode,
        unicodeEscape_pair highBound lowBound whole front back]
    exact (reads.escape read).mono (short _)

end

theorem Inside.reads {chars : List Char} {text : List UInt8} (inside : Inside chars text)
    (rest : List UInt8) :
    Reads (text.length + 1) (text ++ byte '"' :: rest) (Utf8.encode chars) rest := by
  induction inside with
  | nil => exact reads_quote rest
  | @cons c chars text others spells later ih =>
    have read := ih.spells spells
    rw [List.length_append, List.append_assoc]
    exact read.mono (by omega)

/-- A string is read up to its quote as the text that it spells. -/
theorem Inside.read {content : String} {text : List UInt8} (inside : Inside content.toList text)
    (rest : List UInt8) : string (text ++ byte '"' :: rest) = .ok (content, rest) := by
  have read := inside.reads rest ((text ++ byte '"' :: rest).length + 1) (by simp)
  simp only [string, read, bind, Except.bind, Utf8.decode?_encode, String.ofList_toList]
  rfl

/-- A text that does not go on with a number. -/
def Stops (rest : List UInt8) : Prop :=
  ∀ b ∈ rest.head?, isDigit b = false ∧ b ≠ byte '.' ∧ b ≠ byte 'e' ∧ b ≠ byte 'E'

theorem Stops.noDigit {rest : List UInt8} (stops : Stops rest) :
    rest.head?.any isDigit = false ∧ rest.takeWhile isDigit = [] := by
  cases rest with
  | nil => exact ⟨rfl, rfl⟩
  | cons b rest =>
    have other : isDigit b = false := (stops b rfl).1
    exact ⟨other, List.takeWhile_cons_of_neg (by simp [other])⟩

theorem le_spelled (total : Nat) (digits : List UInt8) : total ≤ spelled total digits := by
  induction digits generalizing total with
  | nil => exact Nat.le_refl _
  | cons b digits ih =>
    have later := ih (total * 10 + (b.toNat - 48))
    rw [spelled_cons]
    omega

theorem gather_digits {digits : List UInt8} (digit : ∀ b ∈ digits, isDigit b) {total : Nat}
    (bound : spelled total digits ≤ largest) {rest : List UInt8} (stops : Stops rest) :
    gather total (digits ++ rest) = (spelled total digits, digits.length, rest) := by
  induction digits generalizing total with
  | nil =>
    cases rest with
    | nil => rfl
    | cons b rest => simp [gather, (stops b rfl).1, spelled]
  | cons b digits ih =>
    rw [spelled_cons] at bound ⊢
    have fits : total * 10 + (b.toNat - 48) ≤ largest := Nat.le_trans (le_spelled _ digits) bound
    have here : isDigit b = true := digit b List.mem_cons_self
    have later := ih (fun other inside => digit other (List.mem_cons_of_mem b inside)) bound
    rw [List.cons_append, gather, here, Bool.true_and, if_pos (decide_eq_true fits), later]
    rfl

theorem Digits.read {n : Nat} {text : List UInt8} (digits : Digits n text) (bound : n ≤ largest)
    (negative : Bool) {rest : List UInt8} (stops : Stops rest) :
    number negative (text ++ rest) = afterDigits negative n none rest := by
  obtain ⟨b, more, rfl, digit⟩ := digits.begins
  have spells := digits.spells
  by_cases zero : b = byte '0'
  · obtain rfl : more = [] := by simpa [zero] using digits.zero (congrArg some zero)
    obtain rfl : 0 = n := by rw [← spells, zero]; rfl
    simp [number, zero, stops.noDigit.1]
  · have first : b.toNat - 48 = 0 * 10 + (b.toNat - 48) := by omega
    have whole : spelled (b.toNat - 48) more = n := by rw [first, ← spells, spelled_cons]
    have others : ∀ other ∈ more, isDigit other := fun other inside =>
      digits.digit other (List.mem_cons_of_mem b inside)
    have gathered := gather_digits others (whole ▸ bound) stops
    rw [List.cons_append, number, if_neg zero, if_pos digit, gathered, whole]
    simp [stops.noDigit.2]

theorem afterDigits_of_stops {rest : List UInt8} (stops : Stops rest) (n : Nat) :
    afterDigits false n none rest = .ok (.integer n, rest) := by
  cases rest with
  | nil => rfl
  | cons b rest => simp [afterDigits, stops b rfl]

theorem floatOf_zero (rest : List UInt8) :
    floatOf true 0 0 rest = .ok (.float true .zero, rest) := by
  have value : (Binary64.ofFraction? 0 1).bind (·.scale? 0) = some .zero := by
    rw [show Binary64.ofFraction? 0 1 = some .zero from rfl, Option.bind_some, Binary64.scale?]
    decide
  simp only [floatOf, value]

theorem exists_afterDigits {rest : List UInt8} (stops : Stops rest) {n : Nat}
    (bound : n ≤ 0x8000000000000000) :
    ∃ number, afterDigits true n none rest = .ok (number, rest) := by
  have plain : afterDigits true n none rest =
      if n = 0 || n > 0x8000000000000000 then floatOf true n 0 rest
      else .ok (.integer (-n), rest) := by
    cases rest with
    | nil => simp [afterDigits]
    | cons b rest => simp [afterDigits, stops b rfl]
  by_cases zero : n = 0
  · exact ⟨_, by rw [plain, zero]; exact floatOf_zero rest⟩
  · exact ⟨_, by rw [plain, if_neg (by simp; omega)]⟩

/-- Blanks, a comma and what closes a list or an object go on with no number. -/
theorem stops_append {blanks : List UInt8} (blank : Blank blanks) {mark : UInt8}
    (closes : mark ∈ [byte ',', byte ']', byte '\x7d']) (rest : List UInt8) :
    Stops (blanks ++ mark :: rest) := by
  intro b first
  cases blanks with
  | nil =>
    obtain rfl : mark = b := Option.some.inj first
    simp only [List.mem_cons, List.not_mem_nil, or_false] at closes
    rcases closes with rfl | rfl | rfl <;> decide
  | cons c blanks =>
    obtain rfl : c = b := Option.some.inj first
    have listed := blank c List.mem_cons_self
    simp only [List.mem_cons, List.not_mem_nil, or_false] at listed
    rcases listed with rfl | rfl | rfl | rfl <;> decide

theorem Listed.stops {texts : List (List UInt8)} {text : List UInt8}
    (listed : Listed false texts text) (mark : UInt8)
    (closes : mark ∈ [byte ',', byte ']', byte '\x7d']) (rest : List UInt8) :
    Stops (text ++ mark :: rest) := by
  cases listed with
  | done blank => exact stops_append blank closes rest
  | next lead later =>
    cases lead with
    | next before after =>
      simp only [List.append_assoc, List.cons_append]
      exact stops_append before (by simp) _

theorem nextItem_lead {first : Bool} {lead : List UInt8} (leads : Lead first lead) {b : UInt8}
    (token : isBlank b = false) (notClosed : b ≠ byte ']') (rest : List UInt8) :
    nextItem first (lead ++ b :: rest) = .ok (true, b :: rest) := by
  cases leads with
  | first blank =>
    rw [nextItem, blank.skip, skipBlanks_cons token]
    simp [notClosed]
  | @next before after blank blankAfter =>
    have comma : skipBlanks (before ++ byte ',' :: after ++ b :: rest) =
        byte ',' :: (after ++ b :: rest) := by
      rw [List.append_assoc, blank.skip, List.cons_append, skipBlanks_cons rfl]
    have next : skipBlanks (after ++ b :: rest) = b :: rest := by
      rw [blankAfter.skip, skipBlanks_cons token]
    simp only [nextItem, comma, next, if_neg notClosed]
    rfl

theorem nextItem_close (first : Bool) {blanks : List UInt8} (blank : Blank blanks)
    (rest : List UInt8) :
    nextItem first (blanks ++ byte ']' :: rest) = .ok (false, byte ']' :: rest) := by
  rw [nextItem, blank.skip, skipBlanks_cons rfl]
  rfl

theorem nextKey_lead {first : Bool} {lead : List UInt8} (leads : Lead first lead)
    (rest : List UInt8) :
    nextKey first (lead ++ byte '"' :: rest) = .ok (true, byte '"' :: rest) := by
  cases leads with
  | first blank =>
    rw [nextKey, blank.skip, skipBlanks_cons rfl]
    rfl
  | @next before after blank blankAfter =>
    have comma : skipBlanks (before ++ byte ',' :: after ++ byte '"' :: rest) =
        byte ',' :: (after ++ byte '"' :: rest) := by
      rw [List.append_assoc, blank.skip, List.cons_append, skipBlanks_cons rfl]
    have next : skipBlanks (after ++ byte '"' :: rest) = byte '"' :: rest := by
      rw [blankAfter.skip, skipBlanks_cons rfl]
    simp only [nextKey, comma, next]
    rfl

theorem nextKey_close (first : Bool) {blanks : List UInt8} (blank : Blank blanks)
    (rest : List UInt8) :
    nextKey first (blanks ++ byte '\x7d' :: rest) = .ok (false, byte '\x7d' :: rest) := by
  rw [nextKey, blank.skip, skipBlanks_cons rfl]
  rfl

/-- A member is read up to its value. -/
theorem Keyed.read {key : String} {value text : List UInt8} (keyed : Keyed key value text)
    {first : Bool} {lead : List UInt8} (leads : Lead first lead) (rest : List UInt8) :
    ∃ keyText colonText blanks,
      nextKey first (lead ++ text ++ rest) = .ok (true, byte '"' :: keyText) ∧
      string keyText = .ok (key, colonText) ∧
      colon colonText = .ok ((), blanks ++ (value ++ rest)) ∧ Blank blanks := by
  cases keyed with
  | @member quoted before after quotes blank blankAfter =>
    cases quotes with
    | @quotes inner inside =>
      refine ⟨inner ++ byte '"' :: (before ++ byte ':' :: (after ++ (value ++ rest))), _, after,
        ?_, inside.read _, ?_, blankAfter⟩
      · have next := nextKey_lead leads
          (inner ++ byte '"' :: (before ++ byte ':' :: (after ++ (value ++ rest))))
        simpa only [List.append_assoc, List.cons_append, List.nil_append] using next
      · rw [Json.colon, blank.skip, skipBlanks_cons rfl]
        rfl

theorem value_quote (depth : Nat) (rest : List UInt8) :
    value depth (byte '"' :: rest) = (string rest).map fun read => ((), read.2) := by
  rw [value.eq_def]
  rfl

theorem value_minus (depth : Nat) (rest : List UInt8) :
    value depth (byte '-' :: rest) = (number true rest).map fun read => ((), read.2) := by
  rw [value.eq_def]
  rfl

theorem value_bracket (depth : Nat) (rest : List UInt8) :
    value (depth + 1) (byte '[' :: rest) =
      (items (value depth) (rest.length + 1) true rest).map fun read => ((), read.2) := by
  rw [value.eq_def]
  rfl

theorem value_brace (depth : Nat) (rest : List UInt8) :
    value (depth + 1) (byte '\x7b' :: rest) = entries (value depth) (rest.length + 1) true rest := by
  rw [value.eq_def]
  rfl

theorem toNat_of_ofNat {b : UInt8} {c : Char} (same : Char.ofNat b.toNat = c) :
    b.toNat = c.toNat := by
  have valid : b.toNat.isValidChar := Or.inl (Nat.lt_trans b.toNat_lt (by decide))
  rw [← same, Char.ofNat, dif_pos valid]
  rfl

theorem toNat_of_isDigit {b : UInt8} (digit : isDigit b) : 48 ≤ b.toNat ∧ b.toNat ≤ 57 := by
  simpa [isDigit, UInt8.le_iff_toNat_le] using digit

theorem isBlank_of_isDigit {b : UInt8} (digit : isDigit b) : isBlank b = false := by
  have range := toNat_of_isDigit digit
  simp only [isBlank, Bool.or_eq_false_iff, beq_eq_false_iff_ne]
  refine ⟨⟨⟨?_, ?_⟩, ?_⟩, ?_⟩ <;> (rintro rfl; exact absurd range (by decide))

theorem value_digit (depth : Nat) {b : UInt8} (digit : isDigit b) (rest : List UInt8) :
    value depth (b :: rest) = (number false (b :: rest)).map fun read => ((), read.2) := by
  have other (c : Char) (far : ¬ (48 ≤ c.toNat ∧ c.toNat ≤ 57)) : Char.ofNat b.toNat ≠ c :=
    fun same => far (toNat_of_ofNat same ▸ toNat_of_isDigit digit)
  rw [value.eq_def]
  simp only [skipBlanks_cons (isBlank_of_isDigit digit)]
  split <;> first
    | exact absurd (by assumption) (other _ (by decide))
    | exact if_pos digit

/-- A text that is read as one value, whatever comes after it. -/
def Readable (depth : Nat) (text : List UInt8) : Prop :=
  ∀ rest, Stops rest → value depth (text ++ rest) = .ok ((), rest)

theorem value_blanks (depth : Nat) {blanks : List UInt8} (blank : Blank blanks)
    (rest : List UInt8) : value depth (blanks ++ rest) = value depth rest := by
  rw [value.eq_def, value.eq_def depth rest]
  simp only [blank.skip]

/-- As many steps as there are bytes left are enough for what comes before the closing mark. -/
theorem length_lt_append (text : List UInt8) (mark : UInt8) (rest : List UInt8) :
    text.length < (text ++ mark :: rest).length + 1 := by
  rw [List.length_append]
  omega

theorem length_lt_of_nonempty {lead text rest : List UInt8} {fuel : Nat} (nonempty : text ≠ [])
    (enough : (lead ++ text ++ rest).length < fuel + 1) : rest.length < fuel := by
  have some := List.length_pos_iff.mpr nonempty
  rw [List.length_append, List.length_append] at enough
  omega

theorem items_listed {depth : Nat} {texts : List (List UInt8)} {first : Bool} {text : List UInt8}
    (listed : Listed first texts text) (readable : ∀ one ∈ texts, Readable depth one)
    (begins : ∀ one ∈ texts, ∃ b rest, one = b :: rest ∧ isBlank b = false ∧ b ≠ byte ']')
    {fuel : Nat} (enough : text.length < fuel) (rest : List UInt8) :
    items (value depth) fuel first (text ++ byte ']' :: rest) = .ok (texts.length, rest) := by
  induction listed generalizing fuel with
  | @done first blanks blank =>
    obtain ⟨fuel, rfl⟩ := Nat.exists_eq_add_one_of_ne_zero (Nat.ne_zero_of_lt enough)
    rw [items, nextItem_close first blank]
    rfl
  | @next first lead one others texts leads later ih =>
    obtain ⟨fuel, rfl⟩ := Nat.exists_eq_add_one_of_ne_zero (Nat.ne_zero_of_lt enough)
    obtain ⟨b, more, rfl, token, notClosed⟩ := begins one List.mem_cons_self
    have next := nextItem_lead leads token notClosed (more ++ (others ++ byte ']' :: rest))
    have here := readable _ List.mem_cons_self _ (later.stops (byte ']') (by simp) rest)
    have shorter := length_lt_of_nonempty (List.cons_ne_nil b more) enough
    have onward := ih (fun one inside => readable one (List.mem_cons_of_mem _ inside))
      (fun one inside => begins one (List.mem_cons_of_mem _ inside)) shorter
    simp only [List.append_assoc, List.cons_append] at here ⊢
    simp only [items, next, bind, Except.bind, if_true, here, onward]
    rfl

theorem entries_listed {depth : Nat} {members : List Member} {first : Bool} {text : List UInt8}
    (listed : Listed first (members.map (·.text)) text)
    (keyed : ∀ member ∈ members, Keyed member.key member.valueText member.text)
    (readable : ∀ member ∈ members, Readable depth member.valueText)
    {fuel : Nat} (enough : text.length < fuel) (rest : List UInt8) :
    entries (value depth) fuel first (text ++ byte '\x7d' :: rest) = .ok ((), rest) := by
  induction members generalizing first text fuel with
  | nil =>
    cases listed with
    | done blank =>
      obtain ⟨fuel, rfl⟩ := Nat.exists_eq_add_one_of_ne_zero (Nat.ne_zero_of_lt enough)
      rw [entries, nextKey_close first blank]
      rfl
  | cons member members ih =>
    obtain ⟨fuel, rfl⟩ := Nat.exists_eq_add_one_of_ne_zero (Nat.ne_zero_of_lt enough)
    rw [List.map_cons] at listed
    cases listed with
    | @next _ lead _ others _ leads later =>
      have here := keyed member List.mem_cons_self
      obtain ⟨keyText, colonText, blanks, next, key, colon, blank⟩ :=
        here.read leads (others ++ byte '\x7d' :: rest)
      have read := readable member List.mem_cons_self _ (later.stops (byte '\x7d') (by simp) rest)
      have shorter := length_lt_of_nonempty here.nonempty enough
      have onward := ih later (fun other inside => keyed other (List.mem_cons_of_mem _ inside))
        (fun other inside => readable other (List.mem_cons_of_mem _ inside)) shorter
      simp only [List.append_assoc] at next ⊢
      simp only [entries, next, bind, Except.bind, if_true, List.tail_cons, key, colon,
        value_blanks depth blank, read, onward]

/-- A string is a value, whatever comes after it. -/
theorem Quoted.value {content : String} {text : List UInt8} (quoted : Quoted content text)
    (depth : Nat) (rest : List UInt8) : Json.value depth (text ++ rest) = .ok ((), rest) := by
  cases quoted with
  | quotes inside =>
    rw [List.append_assoc, List.cons_append, value_quote, List.singleton_append, inside.read]
    rfl

theorem Integer.readable {depth : Nat} {n : Int} {text : List UInt8} (integer : Integer n text) :
    Readable depth text := by
  intro rest stops
  cases integer with
  | plain digits bound =>
    obtain ⟨b, more, rfl, digit⟩ := digits.begins
    rw [List.cons_append, value_digit depth digit, ← List.cons_append,
      digits.read bound false stops, afterDigits_of_stops stops]
    rfl
  | minus digits bound =>
    obtain ⟨number, read⟩ := exists_afterDigits stops bound
    rw [List.cons_append, value_minus, digits.read (Nat.le_trans bound (by decide)) true stops, read]
    rfl

/-- No value begins with a blank or a bracket that closes, and none but a string with a quote. -/
theorem Begins.token {b : UInt8} (begins : Begins b) :
    isBlank b = false ∧ b ≠ byte ']' ∧ b ≠ byte '"' := by
  rcases begins with digit | listed
  · refine ⟨isBlank_of_isDigit digit, ?_, ?_⟩ <;> (rintro rfl; exact absurd digit (by decide))
  · simp only [List.mem_cons, List.not_mem_nil, or_false] at listed
    rcases listed with rfl | rfl | rfl | rfl | rfl | rfl <;> decide

theorem Writes.token {depth : Nat} {tree : Tree} {text : List UInt8}
    (writes : Writes depth tree text) :
    ∃ b rest, text = b :: rest ∧ isBlank b = false ∧ b ≠ byte ']' := by
  rcases writes.begins with ⟨content, _, quoted⟩ | ⟨_, b, rest, rfl, begins⟩
  · obtain ⟨rest, rfl⟩ := quoted.begins
    exact ⟨_, rest, rfl, rfl, by decide⟩
  · exact ⟨b, rest, rfl, begins.token.1, begins.token.2.1⟩

/-- Every text of a value is read as one, lists and objects by the depth they are written for. -/
theorem Writes.readable {depth : Nat} {tree : Tree} {text : List UInt8}
    (writes : Writes depth tree text) : Readable depth text := by
  induction writes with
  | null =>
    intro rest _
    rw [value.eq_def]
    rfl
  | yes =>
    intro rest _
    rw [value.eq_def]
    rfl
  | no =>
    intro rest _
    rw [value.eq_def]
    rfl
  | integer spells => exact spells.readable
  | @string depth content text quoted => exact fun rest _ => quoted.value depth rest
  | @array depth items text each listed ih =>
    intro rest _
    have readable : ∀ one ∈ items.map (·.2), Readable depth one := by
      intro one inside
      obtain ⟨item, present, rfl⟩ := List.mem_map.mp inside
      exact ih item present
    have tokens : ∀ one ∈ items.map (·.2),
        ∃ b more, one = b :: more ∧ isBlank b = false ∧ b ≠ byte ']' := by
      intro one inside
      obtain ⟨item, present, rfl⟩ := List.mem_map.mp inside
      exact (each item present).token
    have read := items_listed listed readable tokens (length_lt_append text (byte ']') rest) rest
    rw [List.append_assoc, List.cons_append, List.singleton_append, value_bracket, read]
    rfl
  | @object depth members text each keyed listed ih =>
    intro rest _
    have read := entries_listed listed keyed ih (length_lt_append text (byte '\x7d') rest) rest
    rw [List.append_assoc, List.cons_append, List.singleton_append, value_brace, read]

end OfflineSite.Json
