import OfflineSite.Control.Message
import OfflineSite.Proofs.Json.Literal
import OfflineSite.Worker.Handling

namespace OfflineSite.ControlMessage

open Json

theorem ofTag?_eq_some_iff {text : String} {message : ControlMessage} :
    ofTag? text = some message ↔ text = message.tag := by
  by_cases skips : text = skipWaiting.tag
  · cases message <;> simp [ofTag?, skips, tag]
  · by_cases clears : text = clearCache.tag
    · cases message <;> simp [ofTag?, clears, tag]
    · cases message <;> simp [ofTag?, skips, clears]

/-- The values of the members that are named for the type, in their order. -/
def types (members : List (String × Tree)) : List Tree :=
  (members.filter (·.1 = "type")).map (·.2)

theorem types_cons (member : String × Tree) (members : List (String × Tree)) :
    types (member :: members) = types [member] ++ types members := by
  simp only [types, ← List.map_append, ← List.filter_append, List.singleton_append]

/-- The types that were read before, by the message that was found. -/
def taken : Option ControlMessage → List Tree
  | some message => [.string message.tag]
  | none => []

variable {depth : Nat} {blanks rest : List UInt8}

/-- The names of messages are read, and no other value is. -/
theorem readTag_cases {tree : Tree} {text : List UInt8} (writes : Writes depth tree text)
    (blank : Blank blanks) (rest : List UInt8) :
    (∃ message : ControlMessage, tree = .string message.tag ∧
      readTag (blanks ++ (text ++ rest)) = .ok (message, rest)) ∨
    ((∀ message : ControlMessage, tree ≠ .string message.tag) ∧
      ∃ mistake, readTag (blanks ++ (text ++ rest)) = .error mistake) := by
  rcases writes.begins with ⟨content, rfl, quoted⟩ | ⟨other, b, more, rfl, begins⟩
  · cases quoted with
    | @quotes inner inside =>
      have quote : skipBlanks (blanks ++ (byte '"' :: inner ++ [byte '"'] ++ rest)) =
          byte '"' :: (inner ++ byte '"' :: rest) := by
        rw [blank.skip, List.append_assoc, List.cons_append, skipBlanks_cons rfl,
          List.singleton_append]
      simp only [readTag, quote, if_true, inside.read, bind, Except.bind]
      cases known : ofTag? content with
      | none =>
        refine Or.inr ⟨fun message same => ?_, _, rfl⟩
        rw [ofTag?_eq_some_iff.mpr (Tree.string.inj same)] at known
        cases known
      | some message => exact Or.inl ⟨message, by rw [ofTag?_eq_some_iff.mp known], rfl⟩
  · have first : skipBlanks (blanks ++ (b :: more ++ rest)) = b :: (more ++ rest) := by
      rw [blank.skip, List.cons_append, skipBlanks_cons begins.token.1]
    refine Or.inr ⟨fun message => other message.tag, ?_⟩
    simp only [readTag, first, if_neg begins.token.2.2, bind, Except.bind]
    cases describe (b :: (more ++ rest)) with
    | error mistake => exact ⟨mistake, rfl⟩
    | ok found => exact ⟨_, rfl⟩

/-- One member is passed, or taken for the message, or else the object is refused, and then no
member that comes later can make it the object of a message. -/
theorem members_cases {member : Member} (keyed : Keyed member.key member.valueText member.text)
    (writes : Writes nestingLimit member.value member.valueText) {first : Bool} {lead : List UInt8}
    (leads : Lead first lead) (stops : Stops rest) (found : Option ControlMessage) (fuel : Nat) :
    (∃ next, taken found ++ types [(member.key, member.value)] = taken next ∧
      members (fuel + 1) first found (lead ++ member.text ++ rest) =
        members fuel false next rest) ∨
    ((∀ later, ∀ message : ControlMessage,
        taken found ++ types [(member.key, member.value)] ++ later ≠ [.string message.tag]) ∧
      ∃ mistake, members (fuel + 1) first found (lead ++ member.text ++ rest) = .error mistake) := by
  obtain ⟨keyText, colonText, blanks, next, key, colon, blank⟩ := keyed.read leads rest
  simp only [members, next, bind, Except.bind, if_true, List.tail_cons, key]
  by_cases named : member.key = "type"
  · have only : types [(member.key, member.value)] = [member.value] := by simp [types, named]
    rw [only, if_pos named]
    cases found with
    | some message => exact Or.inr ⟨fun later other => by simp [taken], _, rfl⟩
    | none =>
      simp only [Option.isSome_none, Bool.false_eq_true, if_false, colon]
      rcases readTag_cases writes blank rest with ⟨message, same, read⟩ | ⟨other, mistake, read⟩
      · refine Or.inl ⟨some message, by simp [taken, same], ?_⟩
        rw [read]
      · refine Or.inr ⟨fun later message same => other message ?_, mistake, by rw [read]⟩
        simpa [taken] using (List.cons.inj same).1
  · have none : types [(member.key, member.value)] = [] := by simp [types, named]
    refine Or.inl ⟨found, by rw [none, List.append_nil], ?_⟩
    simp only [if_neg named, colon, value_blanks nestingLimit blank, writes.readable rest stops]

/-- What becomes of an object whose types are given: the message that the only one names, or else a
mistake. -/
def Told (values : List Tree) (read : Except Mistake (ControlMessage × List UInt8))
    (rest : List UInt8) : Prop :=
  (∃ message : ControlMessage, values = [.string message.tag] ∧ read = .ok (message, rest)) ∨
    ((∀ message : ControlMessage, values ≠ [.string message.tag]) ∧
      ∃ mistake, read = .error mistake)

/-- The members come to what their types tell, together with what was found before them. -/
theorem members_listed {written : List Member} {first : Bool} {text : List UInt8}
    (listed : Listed first (written.map (·.text)) text)
    (keyed : ∀ member ∈ written, Keyed member.key member.valueText member.text)
    (writes : ∀ member ∈ written, Writes nestingLimit member.value member.valueText)
    {fuel : Nat} (enough : text.length < fuel) (rest : List UInt8)
    (found : Option ControlMessage) :
    Told (taken found ++ types (written.map fun member => (member.key, member.value)))
      (members fuel first found (text ++ byte '\x7d' :: rest)) rest := by
  induction written generalizing first text fuel found with
  | nil =>
    cases listed with
    | done blank =>
      obtain ⟨fuel, rfl⟩ := Nat.exists_eq_add_one_of_ne_zero (Nat.ne_zero_of_lt enough)
      simp only [members, nextKey_close first blank, bind, Except.bind]
      cases found with
      | some message => exact Or.inl ⟨message, rfl, rfl⟩
      | none => exact Or.inr ⟨nofun, _, rfl⟩
  | cons member written ih =>
    obtain ⟨fuel, rfl⟩ := Nat.exists_eq_add_one_of_ne_zero (Nat.ne_zero_of_lt enough)
    rw [List.map_cons] at listed
    cases listed with
    | @next _ lead _ others _ leads later =>
      have here := keyed member List.mem_cons_self
      have shorter := length_lt_of_nonempty here.nonempty enough
      have onward := ih later (fun other inside => keyed other (List.mem_cons_of_mem _ inside))
        (fun other inside => writes other (List.mem_cons_of_mem _ inside)) shorter
      have stops := later.stops (byte '\x7d') (by simp) rest
      -- What was found and what is still to come are together the same after the member.
      rw [List.map_cons, types_cons, ← List.append_assoc, List.append_assoc _ others]
      rcases members_cases here (writes member List.mem_cons_self) leads stops found fuel with
        ⟨next, counted, step⟩ | ⟨never, refused⟩
      · rw [counted, step]
        exact onward next
      · exact Or.inr ⟨never _, refused⟩

theorem read_written {members : List (String × Tree)} {text : List UInt8}
    (writes : Writes (nestingLimit + 1) (.object members) text) (blank : Blank blanks)
    (rest : List UInt8) :
    Told (types members) (read (blanks ++ (text ++ rest))) rest := by
  cases writes with
  | @object _ written text each keyed listed =>
    have brace : skipBlanks (blanks ++ (byte '\x7b' :: text ++ [byte '\x7d'] ++ rest)) =
        byte '\x7b' :: (text ++ byte '\x7d' :: rest) := by
      rw [blank.skip, List.append_assoc, List.cons_append, skipBlanks_cons rfl,
        List.singleton_append]
    have told := members_listed listed keyed each (length_lt_append text (byte '\x7d') rest) rest none
    simp only [read, brace, if_true]
    exact told

/-- The texts of an object with the given members: blanks may stand around it, and lists and objects
nest as deep as the reader lets them, the object itself being one. -/
inductive Sent (members : List (String × Tree)) : List UInt8 → Prop
  | object {before text after : List UInt8} :
      Blank before → Blank after → Writes (nestingLimit + 1) (.object members) text →
      Sent members (before ++ text ++ after)

theorem Sent.parse_cases {members : List (String × Tree)} {raw : ByteArray}
    (sent : Sent members raw.data.toList) :
    (∃ message : ControlMessage, types members = [.string message.tag] ∧ parse raw = .ok message) ∨
      ((∀ message : ControlMessage, types members ≠ [.string message.tag]) ∧
        ∃ failure, parse raw = .error failure) := by
  generalize whole : raw.data.toList = text at sent
  cases sent with
  | @object before text after blankBefore blankAfter writes =>
    have ends : (skipBlanks after).isEmpty := by
      have skipped := blankAfter.skip []
      rw [List.append_nil] at skipped
      rw [skipped]
      rfl
    rw [List.append_assoc] at whole
    rcases read_written writes blankBefore after with ⟨message, same, read⟩ | ⟨other, mistake, read⟩
    · refine Or.inl ⟨message, same, ?_⟩
      simp only [parse, readAll, whole, read, bind, Except.bind, ends, if_true]
      rfl
    · refine Or.inr ⟨other, ?_⟩
      simp only [parse, readAll, whole, read, bind, Except.bind]
      exact ⟨_, rfl⟩

/-- An object whose only type names a message is that message. Any other is refused, and a worker
that it is sent to goes on as it was. -/
theorem recognised_by_type {members : List (String × Tree)} {raw : ByteArray}
    (sent : Sent members raw.data.toList) :
    (types members = [.string "SKIP_WAITING"] → parse raw = .ok .skipWaiting) ∧
    (types members = [.string "CLEAR_CACHE"] → parse raw = .ok .clearCache) ∧
    (types members ≠ [.string "SKIP_WAITING"] → types members ≠ [.string "CLEAR_CACHE"] →
      ∃ failure, parse raw = .error failure ∧
        ∀ (worker : Worker) (state : Worker.State),
          worker.handleRaw raw state = ⟨(), state, [.messageIgnored (.message failure)]⟩) := by
  rcases sent.parse_cases with ⟨message, only, parsed⟩ | ⟨other, failure, parsed⟩
  · rw [only, parsed]
    cases message with
    | skipWaiting => exact ⟨fun _ => rfl, by simp [tag], fun skips => absurd rfl skips⟩
    | clearCache => exact ⟨by simp [tag], fun _ => rfl, fun _ clears => absurd rfl clears⟩
  · refine ⟨fun skips => absurd skips (other .skipWaiting),
      fun clears => absurd clears (other .clearCache), fun _ _ => ⟨failure, parsed, ?_⟩⟩
    intro worker state
    simp only [Worker.handleRaw, parsed]

/-- A message whose type comes last, after a list that holds another, with an escape in its key. -/
def surrounded : ByteArray :=
  ⟨("\x7b\"a\":[\x7b\"type\":\"RELOAD\"\x7d,-0] ,\n\"\\u0074ype\":\"CLEAR_CACHE\"\x7d".toList.map
    byte).toArray⟩

def surroundedMembers : List (String × Tree) :=
  [("a", .array [.object [("type", .string "RELOAD")], .integer 0]), ("type", .string "CLEAR_CACHE")]

theorem sent_surrounded : Sent surroundedMembers surrounded.data.toList := by
  have none : Blank [] := nofun
  have space : Blank [byte ' '] := by simp [Blank]
  have line : Blank [byte '\n'] := by simp [Blank]
  have written (content : String) (depth : Nat) :
      Writes depth (.string content) (literalBytes content) := .string (quoted_literal content)
  have keyed (key : String) (value : List UInt8) :
      Keyed key value (literalBytes key ++ byte ':' :: value) := by
    simpa using Keyed.member (quoted_literal key) none none
  have object : Writes 125 (.object [("type", .string "RELOAD")])
      (byte '\x7b' :: (literalBytes "type" ++ byte ':' :: literalBytes "RELOAD") ++ [byte '\x7d']) :=
    @Writes.object 124 [⟨"type", .string "RELOAD", literalBytes "RELOAD", _⟩] _
      (by simpa using written "RELOAD" 124) (by simpa using keyed "type" _)
      (by simpa using Listed.next (.first none) (.done none))
  have digit : ∀ b ∈ [byte '0'], isDigit b := by
    intro b inside
    rw [List.mem_singleton.mp inside]
    rfl
  have zero : Writes 125 (.integer 0) [byte '-', byte '0'] :=
    .integer (@Integer.minus 0 _ ⟨digit, List.cons_ne_nil _ _, fun _ => rfl, rfl⟩ (by decide))
  have list := @Writes.array 125 [(_, _), (_, _)] _ (by simpa using ⟨object, zero⟩)
    (.next (.first none) (.next (.next none none) (.done none)))
  have escaped : Quoted "type" (byte '"' :: [byte '\\', byte 'u', byte '0', byte '0', byte '7',
      byte '4', byte 'y', byte 'p', byte 'e'] ++ [byte '"']) := by
    have t : HexNumber 't'.toNat [byte '0', byte '0', byte '7', byte '4'] :=
      @HexNumber.digits _ _ _ _ 0 0 7 4 ⟨by decide, .inl rfl⟩ ⟨by decide, .inl rfl⟩
        ⟨by decide, .inl rfl⟩ ⟨by decide, .inl rfl⟩
    exact .quotes (.cons (.number t) (inside_literal ['y', 'p', 'e']))
  have whole := @Writes.object 126
    [⟨"a", _, _, _⟩, ⟨"type", .string "CLEAR_CACHE", literalBytes "CLEAR_CACHE", _⟩] _
    (by simpa using ⟨list, written "CLEAR_CACHE" 126⟩)
    (by simpa using ⟨keyed "a" _, Keyed.member escaped none none⟩)
    (.next (.first none) (.next (.next space line) (.done none)))
  exact Eq.subst (motive := Sent surroundedMembers) (by decide) (Sent.object none none whole)

theorem clearCache_surrounded :
    Sent surroundedMembers surrounded.data.toList ∧
      types surroundedMembers = [.string "CLEAR_CACHE"] ∧ parse surrounded = .ok .clearCache := by
  have only : types surroundedMembers = [.string "CLEAR_CACHE"] := by
    simp [types, surroundedMembers]
  exact ⟨sent_surrounded, only, (recognised_by_type sent_surrounded).2.1 only⟩

end OfflineSite.ControlMessage
