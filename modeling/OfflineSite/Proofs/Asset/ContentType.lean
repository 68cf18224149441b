import Mathlib.Data.List.Forall2
import Mathlib.Data.List.TakeWhile
import OfflineSite.Asset.Server
import OfflineSite.Proofs.Path.Case

namespace OfflineSite

open Ascii

namespace ContentTypes

/-- An extension as it may be given: with dots in front, and with letters of either case. -/
def Spells (spelling : String) (extension : List Char) : Prop :=
  ∃ dots bare, spelling.toList = List.replicate dots '.' ++ bare ∧ bare.head? ≠ some '.' ∧
    lowered bare = extension

theorem dropWhile_dots (dots : Nat) (bare : List Char) :
    (List.replicate dots '.' ++ bare).dropWhile (· == '.') = bare.dropWhile (· == '.') :=
  List.dropWhile_append_of_pos fun c inside => by simp [List.eq_of_mem_replicate inside]

theorem spells_iff {spelling : String} {extension : List Char} :
    Spells spelling extension ↔ normalize spelling.toList = String.ofList extension := by
  rw [normalize, map_toLower, String.ofList_inj]
  constructor
  · rintro ⟨dots, bare, whole, bareHead, same⟩
    rw [whole, dropWhile_dots, Split.dropWhile_eq_self bareHead, same]
  · intro same
    have front : spelling.toList.takeWhile (· == '.') =
        List.replicate (spelling.toList.takeWhile (· == '.')).length '.' :=
      List.eq_replicate_of_mem fun c inside => by simpa using List.mem_takeWhile_imp inside
    refine ⟨(spelling.toList.takeWhile (· == '.')).length, _, ?_, Split.head?_dropWhile_ne _, same⟩
    rw [← front, List.takeWhile_append_dropWhile]

/-- Two spellings of one extension: they differ in dots in front and in ASCII case. -/
def Respelled (spelling other : String) : Prop :=
  ∃ dots bare dotsToo bareToo, spelling.toList = List.replicate dots '.' ++ bare ∧
    other.toList = List.replicate dotsToo '.' ++ bareToo ∧ lowered bare = lowered bareToo

theorem lowered_dropWhile_dots (text : List Char) :
    lowered (text.dropWhile (· == '.')) = (lowered text).dropWhile (· == '.') := by
  have stays : (· == '.') ∘ lower = (· == '.') := by
    funext c
    rw [Bool.eq_iff_iff, Function.comp, beq_iff_eq, beq_iff_eq, lower_eq_dot_iff]
  rw [lowered, lowered, List.dropWhile_map, stays]

theorem Respelled.normalize_eq {spelling other : String} (respelled : Respelled spelling other) :
    normalize spelling.toList = normalize other.toList := by
  obtain ⟨dots, bare, dotsToo, bareToo, whole, wholeToo, same⟩ := respelled
  rw [normalize, normalize, map_toLower, map_toLower, whole, wholeToo, dropWhile_dots,
    dropWhile_dots, lowered_dropWhile_dots, lowered_dropWhile_dots, same]

/-- A mapping laid over a table hides what lies under it, and a later one an earlier. -/
theorem getElem?_withExtra (types : ContentTypes) (extra : List (String × String)) (key : String) :
    (types.withExtra extra).table[key]? =
      ((extra.reverse.find? fun pair => normalize pair.1.toList = key).map (·.2)).or
        types.table[key]? := by
  induction extra generalizing types with
  | nil => rfl
  | cons pair rest ih =>
    have step : types.withExtra (pair :: rest) = (types.insert pair.1 pair.2).withExtra rest := rfl
    have laid : (types.insert pair.1 pair.2).table[key]? =
        if normalize pair.1.toList = key then some pair.2 else types.table[key]? := by
      rw [insert, Std.TreeMap.getElem?_insert]
      simp only [Std.LawfulEqCmp.compare_eq_iff_eq]
    rw [step, ih, laid, List.reverse_cons, List.find?_append]
    cases later : rest.reverse.find? fun pair => normalize pair.1.toList = key with
    | some found => simp
    | none => by_cases same : normalize pair.1.toList = key <;> simp [same]

theorem withExtra_eq_insertMany (types : ContentTypes) {pairs : List (String × String)}
    (normal : ∀ pair ∈ pairs, normalize pair.1.toList = pair.1) :
    types.withExtra pairs = ⟨types.table.insertMany pairs⟩ := by
  induction pairs generalizing types with
  | nil => rfl
  | cons pair rest ih =>
    have later := ih (types.insert pair.1 pair.2) fun other inside =>
      normal other (List.mem_cons_of_mem pair inside)
    have own : (types.insert pair.1 pair.2).table = types.table.insert pair.1 pair.2 :=
      congrArg (types.table.insert · pair.2) (normal pair List.mem_cons_self)
    rw [Std.TreeMap.insertMany_cons, ← own]
    exact later

theorem normalize_builtin : ∀ pair ∈ builtin, normalize pair.1.toList = pair.1 := by
  decide +kernel

/-- The built-in table is what its own mappings lay over nothing. -/
theorem base_eq : base = (⟨∅⟩ : ContentTypes).withExtra builtin := by
  rw [withExtra_eq_insertMany _ normalize_builtin, base, Std.TreeMap.ofList_eq_insertMany_empty]

theorem find?_reverse_eq_some_iff {α : Type} {test : α → Bool} {list : List α} {found : α} :
    list.reverse.find? test = some found ↔ test found ∧
      ∃ before after, list = before ++ found :: after ∧ ∀ other ∈ after, ¬ test other := by
  rw [List.find?_eq_some_iff_append]
  refine and_congr_right fun _ => ⟨?_, ?_⟩
  · rintro ⟨front, back, whole, passed⟩
    refine ⟨back.reverse, front.reverse, ?_, fun other inside => ?_⟩
    · rw [← List.reverse_reverse list, whole]
      simp
    · simpa using passed other (List.mem_reverse.mp inside)
  · rintro ⟨before, after, rfl, passed⟩
    refine ⟨after.reverse, before.reverse, by simp, fun other inside => ?_⟩
    simpa using passed other (List.mem_reverse.mp inside)

/-- Every mapping of the built-in table is the only one of its extension there. -/
theorem find?_builtin : ∀ pair ∈ builtin,
    builtin.reverse.find? (fun other => normalize other.1.toList = pair.1) = some pair := by
  decide +kernel

theorem getElem?_base (key : String) : base.table[key]? =
    (builtin.reverse.find? fun pair => normalize pair.1.toList = key).map (·.2) := by
  rw [base_eq, getElem?_withExtra]
  exact Option.or_none

/-- The type of a path under mappings laid over the built-in table. -/
inductive Typed (extra : List (String × String)) (path : String) : String → Prop
  | extra {extension : List Char} {before after : List (String × String)} {spelling mime : String}
      (ends : Path.Ends path extension) (listed : extra = before ++ (spelling, mime) :: after)
      (spells : Spells spelling (lowered extension))
      (last : ∀ pair ∈ after, ¬ Spells pair.1 (lowered extension)) : Typed extra path mime
  | builtin {extension : List Char} {mime : String} (ends : Path.Ends path extension)
      (free : ∀ pair ∈ extra, ¬ Spells pair.1 (lowered extension))
      (known : (String.ofList (lowered extension), mime) ∈ builtin) : Typed extra path mime
  | unknown
      (free : ∀ extension, Path.Ends path extension →
        (∀ pair ∈ extra, ¬ Spells pair.1 (lowered extension)) ∧
          ∀ pair ∈ ContentTypes.builtin, pair.1 ≠ String.ofList (lowered extension)) :
      Typed extra path "application/octet-stream"

theorem lookup_of_ends (types : ContentTypes) {path : String} {extension : List Char}
    (ends : Path.Ends path extension) : types.lookup path =
      (types.table[String.ofList (lowered extension)]?).getD unknown := by
  rw [lookup, Path.extension?_eq_some_iff.mpr ends]
  simp only [map_toLower]

theorem lookup_of_endless (types : ContentTypes) {path : String}
    (endless : ∀ extension, ¬ Path.Ends path extension) : types.lookup path = unknown := by
  rw [lookup, Path.extension?_eq_none_iff.mpr endless]

section

variable {extra : List (String × String)} {path mime : String}

theorem find?_extra_eq_none {extension : List Char}
    (free : ∀ pair ∈ extra, ¬ Spells pair.1 (lowered extension)) :
    extra.reverse.find? (fun pair => normalize pair.1.toList = String.ofList (lowered extension)) =
      none := by
  refine List.find?_eq_none.mpr fun pair inside => ?_
  rw [decide_eq_true_iff, ← spells_iff]
  exact free pair (List.mem_reverse.mp inside)

theorem Typed.lookup_eq (typed : Typed extra path mime) :
    (base.withExtra extra).lookup path = mime := by
  cases typed with
  | @extra extension before after spelling mime ends listed spells last =>
    have found : extra.reverse.find?
        (fun pair => normalize pair.1.toList = String.ofList (lowered extension)) =
          some (spelling, mime) := by
      refine find?_reverse_eq_some_iff.mpr ⟨decide_eq_true (spells_iff.mp spells), before, after,
        listed, fun pair inside => ?_⟩
      rw [decide_eq_true_iff, ← spells_iff]
      exact last pair inside
    rw [lookup_of_ends _ ends, getElem?_withExtra, found]
    rfl
  | builtin ends free known =>
    rw [lookup_of_ends _ ends, getElem?_withExtra, find?_extra_eq_none free, getElem?_base,
      find?_builtin _ known]
    rfl
  | unknown free =>
    by_cases ended : ∃ extension, Path.Ends path extension
    · obtain ⟨extension, ends⟩ := ended
      obtain ⟨free, foreign⟩ := free extension ends
      have missing : ContentTypes.builtin.reverse.find?
          (fun pair => normalize pair.1.toList = String.ofList (lowered extension)) = none := by
        refine List.find?_eq_none.mpr fun pair inside => ?_
        have listed := List.mem_reverse.mp inside
        rw [decide_eq_true_iff, normalize_builtin pair listed]
        exact foreign pair listed
      rw [lookup_of_ends _ ends, getElem?_withExtra, find?_extra_eq_none free, getElem?_base,
        missing]
      rfl
    · exact lookup_of_endless _ fun extension ends => ended ⟨extension, ends⟩

theorem exists_typed (extra : List (String × String)) (path : String) :
    ∃ mime, Typed extra path mime := by
  by_cases ended : ∃ extension, Path.Ends path extension
  · obtain ⟨extension, ends⟩ := ended
    cases found : extra.reverse.find?
        fun pair => normalize pair.1.toList = String.ofList (lowered extension) with
    | some pair =>
      obtain ⟨spells, before, after, listed, passed⟩ := find?_reverse_eq_some_iff.mp found
      refine ⟨pair.2, .extra ends listed (spells_iff.mpr (of_decide_eq_true spells)) ?_⟩
      intro other inside spellsToo
      exact passed other inside (decide_eq_true (spells_iff.mp spellsToo))
    | none =>
      have free (pair : String × String) (inside : pair ∈ extra) :
          ¬ Spells pair.1 (lowered extension) := by
        have passed := List.find?_eq_none.mp found pair (List.mem_reverse.mpr inside)
        rwa [decide_eq_true_iff, ← spells_iff] at passed
      by_cases known : ∃ mime, (String.ofList (lowered extension), mime) ∈ builtin
      · obtain ⟨mime, inside⟩ := known
        exact ⟨mime, .builtin ends free inside⟩
      · refine ⟨_, .unknown fun other endsToo => ?_⟩
        obtain rfl : other = extension := endsToo.unique ends
        exact ⟨free, fun pair inside same => known ⟨pair.2, same ▸ inside⟩⟩
  · exact ⟨_, .unknown fun extension ends => absurd ⟨extension, ends⟩ ended⟩

theorem lookup_eq_iff_typed :
    (base.withExtra extra).lookup path = mime ↔ Typed extra path mime := by
  refine ⟨fun same => ?_, Typed.lookup_eq⟩
  obtain ⟨own, typed⟩ := exists_typed extra path
  exact same ▸ typed.lookup_eq ▸ typed

end

/-- The extensions that a table knows are those that the mappings laid over it spell, and its own. -/
theorem mem_keys_withExtra {extra : List (String × String)} {key : String} :
    key ∈ (base.withExtra extra).table.keys ↔
      ∃ pair ∈ builtin ++ extra, Spells pair.1 key.toList := by
  have listed (pairs : List (String × String)) :
      (pairs.reverse.find? fun pair => normalize pair.1.toList = key).isSome ↔
        ∃ pair ∈ pairs, Spells pair.1 key.toList := by
    rw [List.find?_isSome]
    simp only [List.mem_reverse, decide_eq_true_iff, spells_iff, String.ofList_toList]
  rw [Std.TreeMap.mem_keys, Std.TreeMap.mem_iff_isSome_getElem?, getElem?_withExtra, getElem?_base,
    Option.isSome_or, Option.isSome_map, Option.isSome_map, Bool.or_eq_true, listed, listed]
  simp only [List.mem_append, or_and_right, exists_or, or_comm]

theorem withExtra_congr {extra other : List (String × String)}
    (alike : List.Forall₂ (fun pair pairToo => Respelled pair.1 pairToo.1 ∧ pair.2 = pairToo.2)
      extra other) (types : ContentTypes) : types.withExtra extra = types.withExtra other := by
  induction alike generalizing types with
  | nil => rfl
  | @cons pair pairToo rest restToo own _ ih =>
    have same : types.insert pair.1 pair.2 = types.insert pairToo.1 pairToo.2 := by
      rw [insert, insert, own.1.normalize_eq, own.2]
    exact (congrArg (withExtra · rest) same).trans (ih _)

theorem lookup_congr (types : ContentTypes) {path other : String}
    (same : lowered path.toList = lowered other.toList) : types.lookup path = types.lookup other := by
  have told (path : String) : types.lookup path = ((Path.extension? path).map lowered).elim unknown
      fun extension => (types.table[String.ofList extension]?).getD unknown := by
    rw [lookup]
    cases Path.extension? path with
    | none => rfl
    | some extension => simp only [map_toLower, Option.map_some, Option.elim_some]
  rw [told, told, Path.map_extension?_congr same]

/-- Mappings laid over the built-in table are looked up in layers: the last that spells the extension
of the path decides, else the built-in one, else nothing is known of it. As many extensions are known
as are spelled. So neither the case of a path nor the case and the leading dots of the extensions
given matter; and where a server's settings spell one extension in several ways, the greatest of
them decides. -/
theorem types_in_layers :
    (∀ extra : List (String × String),
      (∀ path mime, (base.withExtra extra).lookup path = mime ↔ Typed extra path mime) ∧
      (∃ keys : List String, keys.Nodup ∧
        (∀ key, key ∈ keys ↔ ∃ pair ∈ builtin ++ extra, Spells pair.1 key.toList) ∧
        (base.withExtra extra).size = keys.length) ∧
      (∀ path other, lowered path.toList = lowered other.toList →
        (base.withExtra extra).lookup path = (base.withExtra extra).lookup other) ∧
      ∀ other, List.Forall₂ (fun pair pairToo => Respelled pair.1 pairToo.1 ∧ pair.2 = pairToo.2)
        extra other →
          ∀ path, (base.withExtra extra).lookup path = (base.withExtra other).lookup path) ∧
    ∀ (config : ServerConfig) (path : String) (extension : List Char), Path.Ends path extension →
      ∀ pair ∈ config.contentTypes, Spells pair.1 (lowered extension) →
        (∀ other ∈ config.contentTypes, Spells other.1 (lowered extension) → other.1 ≤ pair.1) →
          (Asset.Settings.ofConfig config).types.lookup path = pair.2 := by
  refine ⟨fun extra => ⟨fun _ _ => lookup_eq_iff_typed, ?_, fun _ _ => lookup_congr _, ?_⟩, ?_⟩
  · exact ⟨_, Std.TreeMap.nodup_keys, fun _ => mem_keys_withExtra, Std.TreeMap.length_keys.symm⟩
  · intro other alike path
    rw [withExtra_congr alike]
  · intro config path extension ends pair inside spells greatest
    obtain ⟨before, after, listed⟩ := List.append_of_mem inside
    refine Typed.lookup_eq (.extra ends listed spells fun other later spellsToo => ?_)
    have ascending : config.contentTypes.Pairwise fun pair later => pair.1 < later.1 :=
      config.extraTypes.ascending
    rw [listed] at ascending
    have beyond := (List.pairwise_cons.mp (List.pairwise_append.mp ascending).2.1).1 other later
    exact String.not_le.mpr beyond (greatest other (by simp [listed, later]) spellsToo)

/-- Settings that spell one extension twice. -/
def twiceSpelled : ServerConfig :=
  ((({} : ServerConfig).withContentType "js" "application/javascript").withContentType ".JS"
    "text/plain")

/-- The greater spelling decides in a server, though the other was given after it; in a plain list the
later does, and the same however the extensions and the path are written. -/
theorem greater_spelling_decides :
    twiceSpelled.contentTypes = [(".JS", "text/plain"), ("js", "application/javascript")] ∧
    Path.Ends "/srv/site/App.jS" ['j', 'S'] ∧
    (Asset.Settings.ofConfig twiceSpelled).types.lookup "/srv/site/App.jS" =
      "application/javascript" ∧
    Typed [("js", "application/javascript"), (".JS", "text/plain")] "/srv/site/App.jS" "text/plain" ∧
    (base.withExtra [("Js", "application/javascript"), ("...js", "text/plain")]).lookup
      "/SRV/site/app.JS" = "text/plain" := by
  have ends : Path.Ends "/srv/site/App.jS" ['j', 'S'] :=
    ⟨['A', 'p', 'p'], by simp, by decide +kernel, by simp⟩
  have small : Spells "js" ['j', 's'] := ⟨0, ['j', 's'], by decide +kernel, by simp, rfl⟩
  have capital : Spells ".JS" ['j', 's'] := ⟨1, ['J', 'S'], by decide +kernel, by simp, rfl⟩
  have listed : [("js", "application/javascript"), (".JS", "text/plain")] =
      [("js", "application/javascript")] ++ (".JS", "text/plain") :: [] := rfl
  have typed : Typed [("js", "application/javascript"), (".JS", "text/plain")] "/srv/site/App.jS"
      "text/plain" := .extra ends listed capital (by simp)
  have most : ∀ pair ∈ twiceSpelled.contentTypes, pair.1 ≤ "js" := by decide +kernel
  have script : Respelled "js" "Js" :=
    ⟨0, ['j', 's'], 0, ['J', 's'], by decide +kernel, by decide +kernel, rfl⟩
  have plain : Respelled ".JS" "...js" :=
    ⟨1, ['J', 'S'], 3, ['j', 's'], by decide +kernel, by decide +kernel, rfl⟩
  obtain ⟨layers, greatest⟩ := types_in_layers
  obtain ⟨told, _, anyCase, anySpelling⟩ :=
    layers [("js", "application/javascript"), (".JS", "text/plain")]
  refine ⟨by decide +kernel, ends, ?_, typed, ?_⟩
  · exact greatest twiceSpelled _ _ ends ("js", "application/javascript")
      (by decide +kernel) small fun pair inside _ => most pair inside
  · have respelled := anySpelling [("Js", "application/javascript"), ("...js", "text/plain")]
      (.cons ⟨script, rfl⟩ (.cons ⟨plain, rfl⟩ .nil)) "/SRV/site/app.JS"
    have recased := anyCase "/SRV/site/app.JS" "/srv/site/App.jS" (by decide +kernel)
    rw [← respelled, recased]
    exact (told _ _).mpr typed

end ContentTypes

end OfflineSite
