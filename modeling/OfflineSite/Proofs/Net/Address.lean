import OfflineSite.Net.Address
import OfflineSite.Proofs.Text.Order

namespace OfflineSite

section

variable {α : Type} {le : α → α → Bool}

/-- Where the earliest of the least things of a list stands. -/
structure EarliestLeast (le : α → α → Bool) (list front : List α) (least : α) (back : List α) :
    Prop where
  placed : list = front ++ least :: back
  before : ∀ other ∈ front, ¬ le other least
  after : ∀ other ∈ back, le least other

variable (trans : ∀ a b c, le a b → le b c → le a c) (total : ∀ a b, (le a b || le b a) = true)

include trans total

theorem exists_earliestLeast {list : List α} (nonempty : list ≠ []) :
    ∃ front least back, EarliestLeast le list front least back := by
  induction list with
  | nil => exact absurd rfl nonempty
  | cons first rest ih =>
    by_cases alone : rest = []
    · exact ⟨[], first, [], by simp [alone], by simp, by simp⟩
    obtain ⟨front, least, back, placed, before, after⟩ := ih alone
    by_cases smaller : le first least
    · refine ⟨[], first, rest, rfl, by simp, fun other inside => ?_⟩
      rw [placed] at inside
      rcases List.mem_append.mp inside with early | late
      · have greater : le least other := by
          have either := total other least
          simpa [before other early] using either
        exact trans _ _ _ smaller greater
      · rcases List.mem_cons.mp late with rfl | later
        · exact smaller
        · exact trans _ _ _ smaller (after other later)
    · refine ⟨first :: front, least, back, by rw [placed]; rfl, fun other inside => ?_, after⟩
      rcases List.mem_cons.mp inside with rfl | early
      · exact smaller
      · exact before other early

/-- A stable sort keeps all that are as small as the least in their order, so it puts the earliest
of them in front. -/
theorem EarliestLeast.head?_mergeSort {list front back : List α} {least : α}
    (place : EarliestLeast le list front least back) :
    (list.mergeSort le).head? = some least := by
  obtain ⟨placed, before, after⟩ := place
  have itself : le least least := by
    have either := total least least
    simpa using either
  have smallest : list.filter (le · least) = least :: back.filter (le · least) := by
    have none : front.filter (le · least) = [] := List.filter_eq_nil_iff.mpr before
    rw [placed, List.filter_append, none, List.nil_append,
      List.filter_cons_of_pos (p := (le · least)) itself]
  have above {b : α} (inside : b ∈ list.filter (le · least)) : le least b := by
    rw [smallest] at inside
    rcases List.mem_cons.mp inside with rfl | later
    · exact itself
    · exact after b (List.mem_filter.mp later).1
  have level : (list.filter (le · least)).Pairwise fun a b => le a b :=
    List.pairwise_of_forall_mem_list fun a listed b listedToo =>
      trans a least b (List.mem_filter.mp listed).2 (above listedToo)
  have kept : (list.mergeSort le).filter (le · least) = list.filter (le · least) := by
    have inside := (List.sublist_mergeSort trans total level List.filter_sublist).filter (le · least)
    rw [List.filter_filter] at inside
    simp only [Bool.and_self] at inside
    have asMany := ((List.mergeSort_perm list le).filter (le · least)).length_eq
    exact (inside.eq_of_length asMany.symm).symm
  have sorted := List.pairwise_mergeSort trans total list
  cases whole : list.mergeSort le with
  | nil =>
    rw [whole, smallest] at kept
    cases kept
  | cons first rest =>
    -- The first is as small as the least, so it stays when only those are kept.
    rw [whole] at sorted kept
    have small : le first least := by
      have listed : least ∈ first :: rest := by
        rw [← whole, List.mem_mergeSort, placed]
        simp
      rcases List.mem_cons.mp listed with rfl | later
      · exact itself
      · exact (List.pairwise_cons.mp sorted).1 least later
    rw [List.filter_cons_of_pos (p := (le · least)) small, smallest] at kept
    rw [List.head?_cons, (List.cons.inj kept).1]

end

/-- The bytes of a name. -/
def nameBytes (name : String) : List UInt8 := Utf8.encode name.toList

theorem nameBytes_le_iff {name other : String} :
    nameBytes name ≤ nameBytes other ↔ (compare name other != .gt) = true := by
  have turned : compare name other = .gt ↔ other < name := by
    rw [Std.OrientedCmp.gt_iff_lt]
    exact compareOfLessAndEq_eq_lt
  rw [bne_iff_ne, Ne, turned, String.lt_iff, nameBytes, nameBytes, Utf8.encode_le_encode_iff]

theorem compare_fst_trans {α : Type} (a b c : String × α) (first : compare a.1 b.1 != .gt)
    (second : compare b.1 c.1 != .gt) : compare a.1 c.1 != .gt := by
  rw [← nameBytes_le_iff] at first second ⊢
  exact List.le_trans first second

theorem compare_fst_total {α : Type} (a b : String × α) :
    (compare a.1 b.1 != .gt || compare b.1 a.1 != .gt) = true := by
  rw [Bool.or_eq_true, ← nameBytes_le_iff, ← nameBytes_le_iff]
  exact List.le_total _ _

theorem nameBytes_inj {name other : String} (same : nameBytes name = nameBytes other) :
    name = other :=
  String.toList_inj.mp (Utf8.encode_inj same)

/-- An interface with an address that other machines could reach: of version 4, neither in 127.0.0.0/8
nor 0.0.0.0. -/
def Offered : String × IpAddress → Prop
  | (_, .v4 address) => address.a ≠ 127 ∧ address ≠ ⟨0, 0, 0, 0⟩
  | (_, .v6 _) => False

instance : DecidablePred Offered
  | (_, .v4 address) => inferInstanceAs (Decidable (address.a ≠ 127 ∧ address ≠ ⟨0, 0, 0, 0⟩))
  | (_, .v6 _) => inferInstanceAs (Decidable False)

theorem external?_eq_some_iff {name : String} {address : IpAddress} {found : Ipv4} :
    address.external? = some found ↔ address = .v4 found ∧ Offered (name, address) := by
  cases address with
  | v6 groups => simp [IpAddress.external?]
  | v4 own =>
    have reached : own.isExternal ↔ Offered (name, .v4 own) := by
      simp [Ipv4.isExternal, Ipv4.isLoopback, Ipv4.isUnspecified, Offered]
    rw [← reached]
    by_cases external : own.isExternal <;> simp [IpAddress.external?, external]

theorem mem_externalAddresses {interfaces : List (String × IpAddress)} {name : String}
    {address : Ipv4} : (name, address) ∈ externalAddresses interfaces ↔
      (name, .v4 address) ∈ interfaces ∧ Offered (name, .v4 address) := by
  rw [externalAddresses, List.mem_filterMap]
  constructor
  · rintro ⟨⟨_, given⟩, listed, read⟩
    obtain ⟨found, external, same⟩ := Option.map_eq_some_iff.mp read
    cases same
    obtain ⟨rfl, offered⟩ := external?_eq_some_iff.mp external
    exact ⟨listed, offered⟩
  · rintro ⟨listed, offered⟩
    have external := external?_eq_some_iff.mpr ⟨rfl, offered⟩
    exact ⟨_, listed, congrArg (Option.map (name, ·)) external⟩

/-- The address to advertise: the earliest listed under the name that is, byte by byte, the least of
those with an address that counts. -/
def Advertised (interfaces : List (String × IpAddress)) (address : Ipv4) : Prop :=
  ∃ name, (∀ pair ∈ interfaces, Offered pair → nameBytes name ≤ nameBytes pair.1) ∧
    interfaces.find? (fun pair => pair.1 = name ∧ Offered pair) = some (name, .v4 address)

theorem Advertised.earliestLeast {interfaces : List (String × IpAddress)} {address : Ipv4}
    (advertised : Advertised interfaces address) :
    ∃ front name back, EarliestLeast (fun x y => compare x.1 y.1 != .gt)
      (externalAddresses interfaces) front (name, address) back := by
  obtain ⟨name, least, found⟩ := advertised
  obtain ⟨counts, before, after, placed, earlier⟩ := List.find?_eq_some_iff_append.mp found
  have offered : Offered (name, .v4 address) := (of_decide_eq_true counts).2
  have external : IpAddress.external? (.v4 address) = some address :=
    external?_eq_some_iff.mpr ⟨rfl, offered⟩
  refine ⟨externalAddresses before, name, externalAddresses after, ?_, ?_, ?_⟩
  · simp [placed, externalAddresses, external]
  · rintro ⟨other, reached⟩ inside small
    obtain ⟨listed, counting⟩ := mem_externalAddresses.mp inside
    have listedToo : (other, .v4 reached) ∈ interfaces := by simp [placed, listed]
    have lower : nameBytes name ≤ nameBytes other := least (other, .v4 reached) listedToo counting
    have same : other = name := nameBytes_inj (List.le_antisymm (nameBytes_le_iff.mpr small) lower)
    have passed := earlier _ listed
    simp [same, same ▸ counting] at passed
  · rintro ⟨other, reached⟩ inside
    obtain ⟨listed, counting⟩ := mem_externalAddresses.mp inside
    have listedToo : (other, .v4 reached) ∈ interfaces := by simp [placed, listed]
    have lower : nameBytes name ≤ nameBytes other := least (other, .v4 reached) listedToo counting
    exact nameBytes_le_iff.mp lower

section

variable {interfaces other : List (String × IpAddress)}

theorem firstExternalIpv4_of_advertised {address : Ipv4}
    (advertised : Advertised interfaces address) : firstExternalIpv4 interfaces = some address := by
  obtain ⟨front, name, back, place⟩ := advertised.earliestLeast
  rw [firstExternalIpv4, place.head?_mergeSort compare_fst_trans compare_fst_total]
  rfl

theorem EarliestLeast.nameBytes_le {front back : List (String × Ipv4)} {name : String}
    {address : Ipv4} (place : EarliestLeast (fun x y => compare x.1 y.1 != .gt)
      (externalAddresses interfaces) front (name, address) back)
    {pair : String × IpAddress} (listed : pair ∈ interfaces) (offered : Offered pair) :
    nameBytes name ≤ nameBytes pair.1 := by
  obtain ⟨other, own | groups⟩ := pair
  · have inside : (other, own) ∈ externalAddresses interfaces :=
      mem_externalAddresses.mpr ⟨listed, offered⟩
    rw [place.placed] at inside
    rcases List.mem_append.mp inside with early | late
    · have greater := place.before _ early
      rw [← nameBytes_le_iff, List.not_le] at greater
      exact List.le_of_lt greater
    · rcases List.mem_cons.mp late with same | later
      · rw [(Prod.mk.inj same).1]
        exact List.le_refl _
      · have small : (compare name other != .gt) = true := place.after (other, own) later
        exact nameBytes_le_iff.mpr small
  · exact absurd offered id

theorem exists_advertised {pair : String × IpAddress} (listed : pair ∈ interfaces)
    (offered : Offered pair) : ∃ address, Advertised interfaces address := by
  have nonempty : externalAddresses interfaces ≠ [] := by
    obtain ⟨name, own | groups⟩ := pair
    · exact List.ne_nil_of_mem (mem_externalAddresses.mpr ⟨listed, offered⟩)
    · exact absurd offered id
  obtain ⟨front, ⟨name, address⟩, back, place⟩ :=
    exists_earliestLeast compare_fst_trans compare_fst_total nonempty
  have chosen : (name, address) ∈ externalAddresses interfaces := by simp [place.placed]
  obtain ⟨chosenListed, chosenOffered⟩ := mem_externalAddresses.mp chosen
  cases found : interfaces.find? fun pair => pair.1 = name ∧ Offered pair with
  | none =>
    have passed := List.find?_eq_none.mp found _ chosenListed
    simp [chosenOffered] at passed
  | some pair =>
    have counts := List.find?_some found
    obtain ⟨other, own | groups⟩ := pair
    · have same : other = name := (of_decide_eq_true counts).1
      subst same
      exact ⟨own, other, fun _ => place.nameBytes_le, found⟩
    · exact absurd (of_decide_eq_true counts).2 id

theorem firstExternalIpv4_eq_some_iff {address : Ipv4} :
    firstExternalIpv4 interfaces = some address ↔ Advertised interfaces address := by
  refine ⟨fun found => ?_, firstExternalIpv4_of_advertised⟩
  obtain ⟨pair, inside⟩ : ∃ pair, pair ∈ externalAddresses interfaces := by
    cases whole : externalAddresses interfaces with
    | nil => simp [firstExternalIpv4, whole] at found
    | cons pair _ => exact ⟨pair, List.mem_cons_self⟩
  obtain ⟨listed, offered⟩ := mem_externalAddresses.mp inside
  obtain ⟨chosen, advertised⟩ := exists_advertised listed offered
  have same := (firstExternalIpv4_of_advertised advertised).symm.trans found
  exact Option.some.inj same ▸ advertised

theorem firstExternalIpv4_eq_none_iff :
    firstExternalIpv4 interfaces = none ↔ ∀ pair ∈ interfaces, ¬ Offered pair := by
  constructor
  · intro none pair listed offered
    obtain ⟨address, advertised⟩ := exists_advertised listed offered
    have some := firstExternalIpv4_of_advertised advertised
    rw [none] at some
    cases some
  · intro free
    cases found : firstExternalIpv4 interfaces with
    | none => rfl
    | some address =>
      obtain ⟨name, _, first⟩ := firstExternalIpv4_eq_some_iff.mp found
      have counts := List.find?_some first
      exact absurd (of_decide_eq_true counts).2 (free _ (List.mem_of_find?_eq_some first))

/-- Nothing counts but the addresses that could be advertised, each in the order of its name. -/
theorem firstExternalIpv4_congr
    (same : ∀ name, interfaces.filter (fun pair => pair.1 = name ∧ Offered pair) =
      other.filter fun pair => pair.1 = name ∧ Offered pair) :
    firstExternalIpv4 interfaces = firstExternalIpv4 other := by
  have listed {one two : List (String × IpAddress)} {pair : String × IpAddress}
      (same : one.filter (fun own => own.1 = pair.1 ∧ Offered own) =
        two.filter fun own => own.1 = pair.1 ∧ Offered own)
      (inside : pair ∈ one) (offered : Offered pair) : pair ∈ two := by
    have kept : pair ∈ one.filter fun own => own.1 = pair.1 ∧ Offered own :=
      List.mem_filter.mpr ⟨inside, by simp [offered]⟩
    rw [same] at kept
    exact (List.mem_filter.mp kept).1
  refine Option.ext fun address => ?_
  rw [firstExternalIpv4_eq_some_iff, firstExternalIpv4_eq_some_iff]
  refine exists_congr fun name => and_congr ?_ ?_
  · exact ⟨fun least pair inside offered =>
        least pair (listed (same pair.1).symm inside offered) offered,
      fun least pair inside offered => least pair (listed (same pair.1) inside offered) offered⟩
  · rw [← List.head?_filter, ← List.head?_filter, same name]

end

/-- There is no address to advertise exactly if none in the list counts, and otherwise it is the
earliest listed of those under the least name. So it is the same for any two lists with the same
pairs in the same order under each name, as one has that is the other rearranged but for pairs of
one name, and for any two that differ only in pairs that do not count. -/
theorem least_name_advertised (interfaces : List (String × IpAddress)) :
    (firstExternalIpv4 interfaces = none ↔ ∀ pair ∈ interfaces, ¬ Offered pair) ∧
    (∀ address, firstExternalIpv4 interfaces = some address ↔ Advertised interfaces address) ∧
    (∀ other : List (String × IpAddress),
      (∀ name, interfaces.filter (·.1 = name) = other.filter (·.1 = name)) →
        firstExternalIpv4 interfaces = firstExternalIpv4 other) ∧
    ∀ other : List (String × IpAddress),
      interfaces.filter Offered = other.filter Offered →
        firstExternalIpv4 interfaces = firstExternalIpv4 other := by
  have apart (list : List (String × IpAddress)) (name : String) :
      list.filter (fun pair => pair.1 = name ∧ Offered pair) =
        (list.filter (·.1 = name)).filter Offered := by
    rw [List.filter_filter]
    exact List.filter_congr fun pair _ => by simp [Bool.and_comm]
  have apartToo (list : List (String × IpAddress)) (name : String) :
      list.filter (fun pair => pair.1 = name ∧ Offered pair) =
        (list.filter Offered).filter (·.1 = name) := by
    rw [List.filter_filter]
    exact List.filter_congr fun pair _ => by simp
  refine ⟨firstExternalIpv4_eq_none_iff, fun _ => firstExternalIpv4_eq_some_iff,
    fun other same => ?_, fun other same => ?_⟩
  · refine firstExternalIpv4_congr fun name => ?_
    rw [apart, apart, same name]
  · refine firstExternalIpv4_congr fun name => ?_
    rw [apartToo, apartToo, same]

/-- Interfaces of a host with two addresses on one of them. -/
def twoOnOne : List (String × IpAddress) :=
  [("wlan0", .v4 ⟨10, 0, 0, 7⟩), ("lo", .v4 ⟨127, 0, 0, 1⟩),
    ("eth0", .v6 [0xFE80, 0, 0, 0, 0, 0, 0, 1]), ("eth0", .v4 ⟨192, 168, 1, 21⟩),
    ("eth0", .v4 ⟨192, 168, 1, 20⟩)]

/-- The same interfaces as another run may list them. -/
def twoOnOneAgain : List (String × IpAddress) :=
  [("eth0", .v6 [0xFE80, 0, 0, 0, 0, 0, 0, 1]), ("eth0", .v4 ⟨192, 168, 1, 21⟩),
    ("lo", .v4 ⟨127, 0, 0, 1⟩), ("eth0", .v4 ⟨192, 168, 1, 20⟩), ("wlan0", .v4 ⟨10, 0, 0, 7⟩)]

/-- The first address of the first name is advertised, in whatever order the interfaces are listed
and whether or not the addresses that do not count are. -/
theorem first_of_two_advertised :
    Advertised twoOnOne ⟨192, 168, 1, 21⟩ ∧
    (∀ name, twoOnOne.filter (·.1 = name) = twoOnOneAgain.filter (·.1 = name)) ∧
    firstExternalIpv4 twoOnOneAgain = some ⟨192, 168, 1, 21⟩ ∧
    twoOnOne.filter Offered = (twoOnOne.filter Offered).filter Offered ∧
    firstExternalIpv4 (twoOnOne.filter Offered) = some ⟨192, 168, 1, 21⟩ := by
  have least (pair : String × IpAddress) (listed : pair ∈ twoOnOne) (offered : Offered pair) :
      nameBytes "eth0" ≤ nameBytes pair.1 := by
    simp only [twoOnOne, List.mem_cons, List.not_mem_nil, or_false] at listed
    rcases listed with rfl | rfl | rfl | rfl | rfl
    · decide
    · exact absurd rfl offered.1
    · exact List.le_refl _
    · exact List.le_refl _
    · exact List.le_refl _
  have chosen : Advertised twoOnOne ⟨192, 168, 1, 21⟩ := ⟨"eth0", least, by decide +kernel⟩
  have rearranged (name : String) :
      twoOnOne.filter (·.1 = name) = twoOnOneAgain.filter (·.1 = name) := by
    by_cases wired : "eth0" = name
    · subst wired
      decide +kernel
    · by_cases own : "lo" = name
      · subst own
        decide +kernel
      · simp [twoOnOne, twoOnOneAgain, List.filter_cons, wired, own]
  have thinned : twoOnOne.filter Offered = (twoOnOne.filter Offered).filter Offered := by
    decide +kernel
  obtain ⟨_, found, reordered, reduced⟩ := least_name_advertised twoOnOne
  have first := (found _).mpr chosen
  exact ⟨chosen, rearranged, (reordered _ rearranged).symm.trans first, thinned,
    (reduced _ thinned).symm.trans first⟩

end OfflineSite
