import OfflineSite.Proofs.Url.Host
import OfflineSite.Url.Parser

namespace OfflineSite

/-- What holds of a result, if there is one. -/
def Yields {ε α : Type} (holds : α → Prop) (outcome : Except ε α) : Prop :=
  ∀ result, outcome = .ok result → holds result

namespace Yields

variable {ε α β : Type} {holds : β → Prop}

theorem ok {result : β} (true : holds result) : Yields (ε := ε) holds (.ok result) := by
  rintro _ same
  cases same
  exact true

theorem error (cause : ε) : Yields holds (.error cause : Except ε β) := by
  rintro _ same
  cases same

theorem bind {outcome : Except ε α} {next : α → Except ε β}
    (later : ∀ result, outcome = .ok result → Yields holds (next result)) :
    Yields holds (outcome >>= next) := by
  cases outcome with
  | error cause => exact error cause
  | ok result => exact later result rfl

theorem mono {weaker : β → Prop} {outcome : Except ε β}
    (implies : ∀ result, holds result → weaker result) (yields : Yields holds outcome) :
    Yields weaker outcome :=
  fun result made => implies result (yields result made)

/-- An outcome that is stopped under a condition. -/
theorem unlessStopped {condition : Prop} [Decidable condition] {cause : ε}
    {next : Unit → Except ε β} (later : Yields holds (next ())) :
    Yields holds (if condition then throw cause >>= next else next ()) := by
  split
  · exact error cause
  · exact later

end Yields

namespace Url

theorem slash_not_mem_escaped (text : List Char) :
    '/' ∉ (escaped isReservedInUserinfo text).toList := by
  rw [escaped, String.toList_ofList]
  exact Percent.slash_not_mem_encode (by decide) text

theorem Authority.slash_not_mem_text {text : List Char} {host : Host} {port : Option Nat}
    (free : '/' ∉ host.text.toList) :
    '/' ∉ (Authority.mk (credentials text).1 (credentials text).2 host port).text.toList := by
  have username : '/' ∉ (credentials text).1.toList := slash_not_mem_escaped _
  have password : '/' ∉ (credentials text).2.toList := slash_not_mem_escaped _
  have userinfo :
      '/' ∉ (Authority.mk (credentials text).1 (credentials text).2 host port).userinfo.toList := by
    unfold Authority.userinfo
    split
    · simp
    · split <;> simp [username, password]
  rw [Authority.text, String.toList_append, String.toList_append]
  refine List.not_mem_append (List.not_mem_append userinfo free) ?_
  cases port with
  | none => simp
  | some port => simpa using slash_not_mem_toDigits 10 port

/-- A URL whose path begins with a slash, the first after those of its authority. -/
structure Placed (url : Url) : Prop where
  authority : ∃ authority, url.authority = some authority ∧ '/' ∉ authority.text.toList
  path : ∃ first rest, url.path = .pieces (first :: rest)

/-- A URL as it is read. -/
structure Regular (url : Url) : Prop where
  scheme : ':' ∉ url.scheme.toList
  placed : (defaultPort? url.scheme).isSome → url.Placed

theorem Draft.exists_path (draft : Draft) (scheme : String) :
    ∃ first rest, draft.path scheme = .pieces (first :: rest) := by
  have front (pieces : List String) : ∃ first rest, withoutEmptyFront pieces = first :: rest := by
    unfold withoutEmptyFront
    split
    · exact ⟨_, _, rfl⟩
    · next nonempty => exact List.exists_cons_of_ne_nil nonempty
  unfold Draft.path
  split
  · obtain ⟨first, rest, same⟩ := front draft.pieces
    exact ⟨first, rest, congrArg Path.pieces same⟩
  · have nonempty : draft.pieces ≠ [] := by simp [Draft.pieces]
    obtain ⟨first, rest, same⟩ := List.exists_cons_of_ne_nil nonempty
    exact ⟨first, rest, congrArg Path.pieces same⟩

variable {scheme : String} {authority : Option Authority} {draft : Draft} {text : List Char}
  {base url : Url}

theorem regular_withPath (free : ':' ∉ scheme.toList)
    (server : (defaultPort? scheme).isSome →
      ∃ named, authority = some named ∧ '/' ∉ named.text.toList) :
    (withPath scheme authority draft text).Regular where
  scheme := free
  placed special := ⟨server special, Draft.exists_path _ scheme⟩

theorem Regular.withPath (regular : base.Regular) (draft : Draft) (text : List Char) :
    (Url.withPath base.scheme base.authority draft text).Regular :=
  regular_withPath regular.scheme fun special => (regular.placed special).authority

theorem regular_afterAuthority {named : Authority} (free : ':' ∉ scheme.toList)
    (server : (defaultPort? scheme).isSome → '/' ∉ named.text.toList) :
    (afterAuthority scheme named text).Regular := by
  have placed (draft : Draft) (text : List Char) :
      (Url.withPath scheme (some named) draft text).Regular :=
    regular_withPath free fun special => ⟨named, rfl, server special⟩
  unfold afterAuthority
  split
  · split
    · exact placed _ _
    · split
      · next plain =>
        have other : defaultPort? scheme = none := by
          simp [isSpecial] at plain
          exact plain.1.1
        exact ⟨free, fun special => absurd special (by simp [other])⟩
      · exact placed _ _
  · refine ⟨free, fun special => ⟨⟨named, rfl, server special⟩, "", [], ?_⟩⟩
    have rooted : isSpecial scheme = true := by
      simp only [isSpecial, Bool.or_eq_true]
      exact Or.inl special
    simp only [rooted, if_true]

theorem regular_withAuthority (free : ':' ∉ scheme.toList) :
    Yields Regular (withAuthority scheme text) := by
  have made (userinfo : Option (List Char)) (host : Host) (port : Option Nat) (rest : List Char)
      (named : (defaultPort? scheme).isSome → '/' ∉ host.text.toList) :
      (afterAuthority scheme ⟨(credentials (userinfo.getD [])).1,
        (credentials (userinfo.getD [])).2, host, port⟩ rest).Regular :=
    regular_afterAuthority free fun special => Authority.slash_not_mem_text (named special)
  unfold withAuthority
  extract_lets special front
  split
  next userinfo text _ =>
  extract_lets hostText rest withUserinfo
  clear_value hostText rest
  refine .unlessStopped ?_
  unfold withUserinfo
  split
  next username password same =>
  have made := made userinfo
  rw [same] at made
  extract_lets withHost withText
  have regular (host : Host) (named : (defaultPort? scheme).isSome → '/' ∉ host.text.toList) :
      Yields Regular (withHost host) := by
    unfold withHost
    extract_lets withPort readPort
    have regular (port : Option Nat × List Char) : Yields Regular (withPort port) := by
      unfold withPort
      exact .unlessStopped (.ok (made host port.1 port.2 named))
    refine .unlessStopped ?_
    unfold readPort
    split
    · exact .bind fun port _ => regular port
    · exact .bind fun port _ => regular port
  refine .unlessStopped ?_
  unfold withText
  split
  · exact .bind fun host read => regular host fun _ => Host.slash_not_mem_text read
  · next plain =>
    refine .bind fun host _ => regular host fun server => absurd ?_ plain
    exact Bool.or_eq_true_iff.mpr (Or.inl server)

theorem Regular.of_same (regular : base.Regular) (sameScheme : url.scheme = base.scheme)
    (sameAuthority : url.authority = base.authority) (samePath : url.path = base.path) :
    url.Regular where
  scheme := sameScheme ▸ regular.scheme
  placed special := by
    obtain ⟨authority, path⟩ := regular.placed (sameScheme ▸ special)
    exact ⟨sameAuthority ▸ authority, samePath ▸ path⟩

theorem regular_of_file (file : url.scheme = "file") : url.Regular where
  scheme := by
    rw [file]
    decide
  placed special := by
    rw [file] at special
    cases special

theorem scheme_fileOnHost (text : List Char) :
    Yields (fun url => url.scheme = "file") (fileOnHost text) := by
  unfold fileOnHost
  extract_lets hostText name path draft machine withHost
  have file (host : Host) : Yields (fun url => url.scheme = "file") (withHost host) := by
    unfold withHost
    split <;> exact .ok rfl
  split
  · exact .ok rfl
  · split
    · exact .bind fun host _ => file host
    · exact .bind fun host _ => file host

theorem scheme_fileBelow (base : Option Url) (text : List Char) :
    (fileBelow base text).scheme = "file" := by
  unfold fileBelow
  split
  · rfl
  · split
    · rfl
    · split
      · split <;> rfl
      · rfl

theorem scheme_fileBeside (file : base.scheme = "file") (text : List Char) :
    (fileBeside base text).scheme = "file" := by
  unfold fileBeside
  split
  · exact file
  · exact file
  · exact file
  · split <;> rfl

theorem scheme_fileUrl {base : Option Url} (file : ∀ url, base = some url → url.scheme = "file")
    (text : List Char) : Yields (fun url => url.scheme = "file") (fileUrl base text) := by
  unfold fileUrl
  extract_lets afterSlash?
  split
  · split
    · exact scheme_fileOnHost _
    · exact .ok (scheme_fileBelow _ _)
  · exact .ok (scheme_fileBeside (file _ rfl) text)
  · exact .ok rfl

theorem Regular.relative (regular : base.Regular) (text : List Char) :
    Yields Regular (relative base text) := by
  unfold Url.relative
  split
  · exact .ok (regular.of_same rfl rfl rfl)
  · exact .ok (regular.of_same rfl rfl rfl)
  · exact .ok (regular.of_same rfl rfl rfl)
  · exact regular_withAuthority regular.scheme
  · split
    · split
      · exact regular_withAuthority regular.scheme
      · exact .ok (regular.withPath _ _)
    · exact .ok (regular.withPath _ _)

theorem regular_withoutRules (free : ':' ∉ scheme.toList) (plain : isSpecial scheme = false)
    (text : List Char) : Yields Regular (withoutRules scheme text) := by
  have noServer : defaultPort? scheme = none := by
    simp [isSpecial] at plain
    exact plain.1
  have placed {holds : Prop} (special : (defaultPort? scheme).isSome) : holds := by
    rw [noServer] at special
    cases special
  unfold withoutRules
  split
  · exact regular_withAuthority free
  · exact .ok (regular_withPath free placed)
  · exact .ok ⟨free, placed⟩

theorem toLower_ne_colon {c : Char} (allowed : isSchemeChar c) : c.toLower ≠ ':' := by
  intro same
  by_cases upper : 'A'.val ≤ c.val ∧ c.val ≤ 'Z'.val
  · have shifted : c.toLower = _ := dif_pos upper
    have lower : 65 ≤ c.toNat := UInt32.le_iff_toNat_le.mp upper.1
    have higher : c.toNat ≤ 90 := UInt32.le_iff_toNat_le.mp upper.2
    have value : (c.toNat + 32) % 4294967296 = 58 := congrArg (·.toNat) (shifted.symm.trans same)
    omega
  · have kept : c.toLower = c := dif_neg upper
    rw [← kept, same] at allowed
    cases allowed

theorem colon_not_mem_of_splitScheme? {text rest : List Char}
    (made : splitScheme? text = some (scheme, rest)) : ':' ∉ scheme.toList := by
  unfold splitScheme? at made
  split at made
  · next c after =>
    split at made
    · split at made
      · obtain ⟨rfl, _⟩ := Prod.mk.inj (Option.some.inj made)
        rw [String.toList_ofList]
        intro listed
        obtain ⟨d, member, same⟩ := List.mem_map.mp listed
        exact toLower_ne_colon (List.all_eq_true.mp List.all_takeWhile d member) same
      · cases made
    · cases made
  · cases made

theorem regular_withScheme {base : Option Url} (regular : ∀ url, base = some url → url.Regular)
    (free : ':' ∉ scheme.toList) (text : List Char) :
    Yields Regular (withScheme base scheme text) := by
  unfold withScheme
  split
  · split
    · split
      · exact (regular _ rfl).relative text
      · exact regular_withAuthority free
    · exact regular_withAuthority free
  · next plain => exact regular_withoutRules free (by simpa using plain) text

theorem regular_read {base : Option Url} (regular : ∀ url, base = some url → url.Regular)
    (text : String) : Yields Regular (read base text) := by
  unfold read
  extract_lets gapped plain
  split
  · next scheme rest made =>
    split
    · refine .mono (fun url => regular_of_file) (scheme_fileUrl (fun url same => ?_) _)
      simpa using (Option.filter_eq_some_iff.mp same).2
    · exact regular_withScheme regular (colon_not_mem_of_splitScheme? made) rest
  · split
    · exact .error _
    · next base =>
      have regular := regular base rfl
      split
      · exact .ok (regular.of_same rfl rfl rfl)
      · split
        · exact .error _
        · split
          · next file =>
            refine .mono (fun url => regular_of_file) (scheme_fileUrl (fun url same => ?_) _)
            obtain rfl := Option.some.inj same
            simpa using file
          · exact regular.relative plain

/-- What is read alone is regular. -/
theorem regular_of_parse {text : String} (made : parse text = .ok url) : url.Regular :=
  regular_read (fun _ none => by cases none) text url made

theorem Regular.join (regular : base.Regular) {text : String} (made : base.join text = .ok url) :
    url.Regular := by
  refine regular_read (fun other same => ?_) text url made
  obtain rfl := Option.some.inj same
  exact regular

theorem append_cons_inj {α : Type} {c : α} {front other rest more : List α} (free : c ∉ front)
    (freeToo : c ∉ other) (same : front ++ c :: rest = other ++ c :: more) :
    front = other ∧ rest = more := by
  induction front generalizing other with
  | nil =>
    cases other with
    | nil => exact ⟨rfl, (List.cons.inj same).2⟩
    | cons d other => exact absurd (List.cons.inj same).1 (List.ne_of_not_mem_cons freeToo)
  | cons d front ih =>
    cases other with
    | nil => exact absurd (List.cons.inj same).1.symm (List.ne_of_not_mem_cons free)
    | cons e other =>
      obtain ⟨rfl, further⟩ := List.cons.inj same
      obtain ⟨rfl, tails⟩ := ih (List.not_mem_of_not_mem_cons free)
        (List.not_mem_of_not_mem_cons freeToo) further
      exact ⟨rfl, tails⟩

theorem exists_text (url : Url) : ∃ rest, url.text.toList = url.scheme.toList ++ ':' :: rest := by
  simp only [text, front, String.toList_append, List.append_assoc]
  exact ⟨_, rfl⟩

/-- The text of a URL that names a server, cut at the slash that its path begins with. -/
theorem Placed.exists_text (placed : url.Placed) : ∃ authority rest,
    url.withoutFragment.text.toList =
        url.scheme.toList ++ ':' :: '/' :: '/' :: (authority ++ '/' :: rest) ∧
      '/' ∉ authority ∧ url.resource.toList = '/' :: rest := by
  obtain ⟨⟨authority, named, free⟩, first, rest, pieces⟩ := placed
  have path : url.path.text.toList =
      '/' :: (first.toList ++ (String.join (rest.map ("/" ++ ·))).toList) := by
    rw [pieces, Path.text, List.map_cons, String.join_cons, String.toList_append,
      String.toList_append]
    rfl
  have asked : url.resource.toList = '/' ::
      (first.toList ++ (String.join (rest.map ("/" ++ ·))).toList ++ url.queryText.toList) := by
    rw [resource, String.toList_append, path]
    rfl
  have kept : url.withoutFragment.text = url.scheme ++ ":" ++ ("//" ++ authority.text) ++
      url.path.text ++ url.queryText ++ "" := by
    simp only [text, front, withoutFragment, named, pieces, Path.trimmed, ite_self]
    rfl
  refine ⟨authority.text.toList, _, ?_, free, asked⟩
  rw [kept]
  simp only [String.toList_append, path]
  simp

theorem Regular.resource_of_text (regular : url.Regular) {other : Url} (regularToo : other.Regular)
    (server : (defaultPort? url.scheme).isSome)
    (same : url.withoutFragment.text = other.withoutFragment.text) :
    url.resource = other.resource := by
  have texts := congrArg String.toList same
  have schemes : url.scheme = other.scheme := by
    obtain ⟨rest, written⟩ := url.withoutFragment.exists_text
    obtain ⟨more, writtenToo⟩ := other.withoutFragment.exists_text
    rw [written, writtenToo] at texts
    exact String.toList_inj.mp (append_cons_inj regular.scheme regularToo.scheme texts).1
  obtain ⟨authority, rest, written, free, asked⟩ := (regular.placed server).exists_text
  obtain ⟨authorityToo, more, writtenToo, freeToo, askedToo⟩ :=
    (regularToo.placed (schemes ▸ server)).exists_text
  rw [written, writtenToo] at texts
  have tails := (append_cons_inj regular.scheme regularToo.scheme texts).2
  obtain ⟨_, rfl⟩ := append_cons_inj free freeToo (List.cons.inj (List.cons.inj tails).2).2
  exact String.toList_inj.mp (asked.trans askedToo.symm)

end Url

end OfflineSite
