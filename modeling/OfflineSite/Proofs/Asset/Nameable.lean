import Mathlib.Data.List.Forall2
import OfflineSite.Proofs.Asset.Query
import OfflineSite.Proofs.Asset.Resolution

namespace OfflineSite.Asset

open OfflineSite.Path (Plain)
open OfflineSite.Percent (Escaped)

/-- A name that a target can ask for: a directory may hold it, and no query begins in it. -/
structure Nameable (segment : String) : Prop where
  plain : Plain segment.toList
  noQuery : '?' ∉ segment.toList

/-- Texts that spell segments with every byte escaped. -/
def Spelled (segments : List String) (texts : List (List Char)) : Prop :=
  List.Forall₂ (fun segment text => Escaped (Utf8.encode segment.toList) text) segments texts

theorem exists_spelled (segments : List String) : ∃ texts, Spelled segments texts := by
  induction segments with
  | nil => exact ⟨[], .nil⟩
  | cons segment rest ih =>
    obtain ⟨texts, spelled⟩ := ih
    exact ⟨_, .cons (Percent.escaped_escape (Utf8.encode segment.toList)) spelled⟩

/-- The target with these segments after a slash and between slashes. -/
def targetOf (texts : List (List Char)) : String := String.ofList ('/' :: Split.join '/' texts)

variable {segments : List String} {texts : List (List Char)}

theorem slash_join {pieces : List (List Char)} (nonempty : pieces ≠ []) :
    '/' :: Split.join '/' pieces = pieces.flatMap ('/' :: ·) := by
  cases pieces with
  | nil => exact absurd rfl nonempty
  | cons piece rest => rw [Split.join_cons, List.flatMap_cons, List.cons_append]

/-- Slashes stand for themselves, and between them the segments are read back. -/
theorem Spelled.decodeBytes (spelled : Spelled segments texts) :
    Percent.decodeBytes (Utf8.encode (texts.flatMap ('/' :: ·))) =
      Utf8.encode ((segments.map String.toList).flatMap ('/' :: ·)) := by
  have slash (rest : List Char) : Utf8.encode ('/' :: rest) = '/'.toUInt8 :: Utf8.encode rest :=
    Utf8.encode_cons_of_ascii (by decide) rest
  have noEscape (rest : List UInt8) :
      Percent.decodeBytes ('/'.toUInt8 :: rest) = '/'.toUInt8 :: Percent.decodeBytes rest :=
    Percent.decodeBytes_of_not_escapes (Percent.not_escapes_of_ne (by decide) rest)
  induction spelled with
  | nil => rfl
  | @cons segment text segments texts escaped _ ih =>
    rw [List.flatMap_cons, List.map_cons, List.flatMap_cons, List.cons_append, List.cons_append,
      slash, slash, Utf8.encode_append, Utf8.encode_append, noEscape, escaped.decodeBytes_append, ih]

theorem Spelled.requestPath (spelled : Spelled segments texts) (nonempty : segments ≠ [])
    (noQuery : ∀ segment ∈ segments, '?' ∉ segment.toList) :
    Asset.requestPath (targetOf texts) = targetOf (segments.map String.toList) := by
  have texts_ne : texts ≠ [] := by
    rintro rfl
    exact nonempty (List.forall₂_nil_right_iff.mp spelled)
  have segments_ne : segments.map String.toList ≠ [] := by simpa using nonempty
  have bytes : Percent.decode (targetOf texts) =
      Utf8.encode ((segments.map String.toList).flatMap ('/' :: ·)) := by
    rw [Percent.decode, targetOf, String.toList_ofList, slash_join texts_ne, spelled.decodeBytes]
  -- No `?` cuts the path short.
  have whole : ((segments.map String.toList).flatMap ('/' :: ·)).takeWhile (· != '?') =
      (segments.map String.toList).flatMap ('/' :: ·) := by
    refine List.takeWhile_eq_self_iff.mpr fun c inside => ?_
    obtain ⟨piece, listed, within⟩ := List.mem_flatMap.mp inside
    obtain ⟨segment, member, rfl⟩ := List.mem_map.mp listed
    rcases List.mem_cons.mp within with rfl | inSegment
    · rfl
    · exact bne_iff_ne.mpr fun query => noQuery segment member (query ▸ inSegment)
  rw [Asset.requestPath, bytes, Utf8.decodeLossy_encode, whole, targetOf, slash_join segments_ne]

theorem head?_join {pieces : List (List Char)} (plain : ∀ piece ∈ pieces, Plain piece) :
    (Split.join '/' pieces).head? ≠ some '/' := by
  cases pieces with
  | nil => simp [Split.join]
  | cons first rest =>
    have inFirst := plain first List.mem_cons_self
    obtain ⟨c, more, rfl⟩ := List.exists_cons_of_ne_nil inFirst.nonempty
    rw [Split.join_cons]
    rintro leads
    obtain rfl := Option.some.inj leads
    exact inFirst.noSeparator List.mem_cons_self

theorem named_targetOf {pieces : List (List Char)} (nonempty : pieces ≠ [])
    (plain : ∀ piece ∈ pieces, Plain piece) (defaultDocument : String) :
    named (targetOf pieces) defaultDocument = String.ofList (Split.join '/' pieces) := by
  have rest : (targetOf pieces).toList.dropWhile (· == '/') = Split.join '/' pieces := by
    rw [targetOf, String.toList_ofList, List.dropWhile_cons_of_pos rfl]
    exact Split.dropWhile_eq_self (head?_join plain)
  have someLeft : Split.join '/' pieces ≠ [] := by
    obtain ⟨first, others, rfl⟩ := List.exists_cons_of_ne_nil nonempty
    rw [Split.join_cons]
    exact List.append_ne_nil_of_left_ne_nil (plain first List.mem_cons_self).nonempty _
  simp [named, rest, someLeft]

theorem foldl_place_eq_push (plain : ∀ segment ∈ segments, Plain segment.toList) (root : String) :
    (segments.map String.toList).foldl place root = segments.foldl Path.push root := by
  induction segments generalizing root with
  | nil => rfl
  | cons segment rest ih =>
    have first := plain segment List.mem_cons_self
    have placed : place root segment.toList = Path.push root segment := by
      rw [← push_eq_place first, String.ofList_toList]
    rw [List.map_cons, List.foldl_cons, List.foldl_cons, placed]
    exact ih (fun other listed => plain other (List.mem_cons_of_mem segment listed)) _

/-- Plain names after slashes lead down from the root one by one. -/
theorem resolve_targetOf (nonempty : segments ≠ [])
    (plain : ∀ segment ∈ segments, Plain segment.toList) (root defaultDocument : String) :
    resolve root (targetOf (segments.map String.toList)) defaultDocument =
      some (segments.foldl Path.push root) := by
  have pieces_ne : segments.map String.toList ≠ [] := by simpa using nonempty
  have plainPieces : ∀ piece ∈ segments.map String.toList, Plain piece := by
    intro piece listed
    obtain ⟨segment, member, rfl⟩ := List.mem_map.mp listed
    exact plain segment member
  have cut : Asset.segments (String.ofList (Split.join '/' (segments.map String.toList))) =
      segments.map String.toList := by
    rw [Asset.segments, String.toList_ofList]
    exact Split.pieces_join pieces_ne fun piece listed => (plainPieces piece listed).noSeparator
  have relative : Path.isAbsolute (String.ofList (Split.join '/' (segments.map String.toList))) =
      false := by
    rw [Path.isAbsolute, String.toList_ofList]
    exact beq_eq_false_iff_ne.mpr (head?_join plainPieces)
  have noParent : ['.', '.'] ∉ segments.map String.toList :=
    fun listed => (plainPieces _ listed).ne_up rfl
  have counted : (segments.map String.toList).filter (fun segment =>
      segment ≠ [] ∧ segment ≠ ['.']) = segments.map String.toList := by
    refine List.filter_eq_self.mpr fun piece listed => ?_
    have part := plainPieces piece listed
    simp [part.nonempty, part.ne_here]
  rw [resolve_named, named_targetOf pieces_ne plainPieces, relative, cut, names, cut, counted,
    foldl_place_eq_push plain]
  simp [noParent]

/-- Whatever a path of other characters than slashes leads to, it leads there by names that are in
it. -/
theorem exists_parts_of_resolve {root path defaultDocument file : String}
    (other : ∃ c ∈ path.toList, c ≠ '/') (noQuery : '?' ∉ path.toList)
    (resolved : resolve root path defaultDocument = some file) :
    ∃ parts : List String, file = parts.foldl Path.push root ∧
      Path.components file = Path.components root ++ parts.map (fun part => .name part.toList) ∧
      ∀ part ∈ parts, Nameable part := by
  have rest : named path defaultDocument =
      String.ofList (path.toList.dropWhile (· == '/')) := by
    obtain ⟨c, inside, different⟩ := other
    have someLeft : path.toList.dropWhile (· == '/') ≠ [] := fun nothing =>
      different (by simpa using List.dropWhile_eq_nil_iff.mp nothing c inside)
    simp [named, someLeft]
  rw [resolve_named] at resolved
  split at resolved
  · cases resolved
  · next accepted =>
    have plain : ∀ name ∈ names (named path defaultDocument), Plain name := fun _ =>
      plain_of_mem_names fun parent => accepted (Or.inr parent)
    have noQueryIn : ∀ name ∈ names (named path defaultDocument), '?' ∉ name := by
      intro name listed inside
      have within := (Split.of_mem_pieces (List.mem_filter.mp listed).1 inside).1
      rw [rest, String.toList_ofList] at within
      exact noQuery ((List.dropWhile_suffix _).subset within)
    obtain ⟨parts, same⟩ : ∃ parts : List String,
        parts.map String.toList = names (named path defaultDocument) :=
      ⟨(names (named path defaultDocument)).map String.ofList, by simp⟩
    have nameable : ∀ part ∈ parts, Nameable part := by
      intro part listed
      have member : part.toList ∈ names (named path defaultDocument) :=
        same ▸ List.mem_map_of_mem listed
      exact ⟨plain _ member, noQueryIn _ member⟩
    obtain rfl := Option.some.inj resolved
    refine ⟨parts, ?_, ?_, nameable⟩
    · rw [← same, foldl_place_eq_push fun part listed => (nameable part listed).plain]
    · rw [components_place plain, ← same, List.map_map]
      rfl

/-- Every nameable file can be asked for and nothing else. The target that spells the names of a path
below the root with every byte escaped is resolved to the root with these names pushed, whatever
characters they are made of and whatever the case of the digits is. And a target whose decoded path
has other characters than slashes is resolved, if at all, by pushing such names alone. -/
theorem exactly_nameable_reached (root defaultDocument : String) :
    (∀ segments : List String, segments ≠ [] → (∀ segment ∈ segments, Nameable segment) →
      (∃ texts, Spelled segments texts) ∧
      ∀ texts, Spelled segments texts →
        resolve root (requestPath (targetOf texts)) defaultDocument =
          some (segments.foldl Path.push root)) ∧
    ∀ target file, (∃ c ∈ (requestPath target).toList, c ≠ '/') →
      resolve root (requestPath target) defaultDocument = some file →
      ∃ parts : List String, file = parts.foldl Path.push root ∧
        Path.components file = Path.components root ++ parts.map (fun part => .name part.toList) ∧
        ∀ part ∈ parts, Nameable part := by
  constructor
  · intro segments nonempty nameable
    refine ⟨exists_spelled segments, fun texts spelled => ?_⟩
    rw [spelled.requestPath nonempty fun segment listed => (nameable segment listed).noQuery]
    exact resolve_targetOf nonempty (fun segment listed => (nameable segment listed).plain) root
      defaultDocument
  · intro target file other resolved
    exact exists_parts_of_resolve other (not_mem_requestPath target) resolved

theorem accented_names_reached :
    targetOf ["%25%c3%A9".toList, "%2e%2E%2e".toList] = "/%25%c3%A9/%2e%2E%2e" ∧
      resolve "/srv/site" (requestPath "/%25%c3%A9/%2e%2E%2e") "index.html" =
        some "/srv/site/%é/..." ∧
      ∃ parts : List String, "/srv/site/%é/..." = parts.foldl Path.push "/srv/site" ∧
        ∀ part ∈ parts, Nameable part := by
  have accented : Nameable "%é" := ⟨⟨by decide, by decide, by decide, by decide⟩, by decide⟩
  have dots : Nameable "..." := ⟨⟨by decide, by decide, by decide, by decide⟩, by decide⟩
  have target : targetOf ["%25%c3%A9".toList, "%2e%2E%2e".toList] = "/%25%c3%A9/%2e%2E%2e" := by
    decide
  have spelled : Spelled ["%é", "..."] ["%25%c3%A9".toList, "%2e%2E%2e".toList] := by
    refine .cons ?_ (.cons ?_ .nil)
    · exact .cons rfl rfl (.cons rfl rfl (.cons rfl rfl .nil))
    · exact .cons rfl rfl (.cons rfl rfl (.cons rfl rfl .nil))
  obtain ⟨nameable, reached⟩ := exactly_nameable_reached "/srv/site" "index.html"
  have led := (nameable ["%é", "..."] (by simp) (by simp [accented, dots])).2 _ spelled
  rw [target] at led
  have file : resolve "/srv/site" (requestPath "/%25%c3%A9/%2e%2E%2e") "index.html" =
      some "/srv/site/%é/..." := led.trans (by decide +kernel)
  have decoded : requestPath "/%25%c3%A9/%2e%2E%2e" = "/%é/..." := by decide +kernel
  have other : 'é' ∈ (requestPath "/%25%c3%A9/%2e%2E%2e").toList := by
    rw [decoded]
    decide
  obtain ⟨parts, pushed, _, names⟩ := reached _ _ ⟨'é', other, by decide⟩ file
  exact ⟨target, file, parts, pushed, names⟩

end OfflineSite.Asset
