import Mathlib.Data.List.Basic
import OfflineSite.Proofs.Proxy.Transparency

namespace OfflineSite.Proxy

open Http (lowered isVisible)

theorem forwarded_eq (fields : Http.Fields) :
    forwarded fields = (fields.grouped.filter fun field => !isHopByHop field.1).filterMap passed? :=
  rfl

theorem filter_filterMap_passed? (fields : Http.Fields) (name : String) :
    (fields.filterMap passed?).filter (·.1 = name) =
      (fields.filter (·.1 = name)).filterMap passed? := by
  rw [List.filter_filterMap, List.filterMap_filter]
  refine List.filterMap_congr fun field _ => ?_
  rw [passed?]
  cases Http.fieldText? field.2 <;> simp [Option.filter]

theorem map_filterMap_passed? (fields : Http.Fields) :
    (fields.filterMap passed?).map (fun header => header.2.toUTF8) =
      (fields.map (·.2)).filter isVisible := by
  induction fields with
  | nil => rfl
  | cons first rest ih =>
    rw [List.map_cons]
    by_cases visible : isVisible first.2
    · obtain ⟨text, read, same⟩ := Http.exists_fieldText? visible
      have passes : passed? first = some (first.1, text) := by rw [passed?, read, Option.map_some]
      rw [List.filterMap_cons_some passes, List.map_cons, ih, same, List.filter_cons_of_pos visible]
    · have stays : passed? first = none := by
        rw [passed?, Http.fieldText?_of_hidden visible, Option.map_none]
      rw [List.filterMap_cons_none stays, ih, List.filter_cons_of_neg visible]

/-- Of the fields of a name the visible values go to the network in their order, unless the name is
bound to the connection. -/
theorem values_forwarded (fields : Http.Fields) (name : String) :
    ((forwarded fields).filter (·.1 = name)).map (fun header => header.2.toUTF8) =
      if lowered name ∈ hopByHop then [] else (fields.values name).filter isVisible := by
  rw [forwarded_eq, filter_filterMap_passed?, map_filterMap_passed?,
    Http.filter_key (·.1) (!isHopByHop ·) fields.grouped, Http.Fields.filter_grouped]
  by_cases bound : lowered name ∈ hopByHop
  · have hop : isHopByHop name = true := isHopByHop_iff.mpr bound
    simp [hop, bound]
  · have free : isHopByHop name = false := by simpa using mt isHopByHop_iff.mp bound
    simp [free, bound, Http.Fields.values]

theorem headers_of_decide {worker : Worker} {request : Http.Request} {fetch : FetchRequest}
    (decided : decide worker request = .fetch fetch) : fetch.headers = forwarded request.fields := by
  rcases decide_cases worker request with ⟨_, _, refused, _⟩ | ⟨_, _, _, _, told⟩ |
    ⟨_, _, _, fetched⟩
  · cases refused.symm.trans decided
  · cases told.symm.trans decided
  · cases fetched.symm.trans decided
    rfl

/-- The values that the headers of a response have under a name, in order. -/
def valuesOf (headers : List (String × String)) (name : String) : List ByteArray :=
  (headers.filter (lowered ·.1 = name)).map (·.2.toUTF8)

theorem values_append (front back : Http.Fields) (name : String) :
    Http.Fields.values (front ++ back) name = front.values name ++ back.values name := by
  rw [Http.Fields.values, List.filter_append, List.map_append]
  rfl

theorem values_lowered (headers : List (String × String)) (name : String) :
    Http.Fields.values (headers.map fun header => (lowered header.1, header.2.toUTF8)) name =
      valuesOf headers name := by
  rw [Http.Fields.values, List.filter_map, List.map_map]
  rfl

theorem values_relay {reply : Worker.Reply}
    (legal : ∀ header ∈ unbound reply.response.headers, Legal header) (name : String) :
    (relay reply).1.fields.values name = valuesOf (unbound reply.response.headers) name ++
      if name = sourceField then [reply.source.name.toUTF8] else [] := by
  rw [relay_of_legal legal, values_append, values_lowered]
  congr 1
  by_cases tag : name = sourceField
  · subst tag
    simp [Http.Fields.values]
  · simp [Http.Fields.values, tag, Ne.symm tag]

namespace Mirroring

def crowded : Http.Request :=
  { get with fields :=
    [("te", "trailers".toUTF8), ("x-mark", "one".toUTF8), ("accept", "*/*".toUTF8),
      ("x-mark", ⟨#[128]⟩), ("x-mark", "two".toUTF8)] }

def crowdedFetch : FetchRequest :=
  { FetchRequest.get page with headers := [("x-mark", "one"), ("x-mark", "two"), ("accept", "*/*")] }

theorem decide_crowded : decide site crowded = .fetch crowdedFetch := by
  have elsewhere : isMessage crowded = false := by decide +kernel
  have same : page.sameOrigin site.origin := by decide +kernel
  have size : ¬ site.config.maxBodyBytes < crowded.body.size := by decide +kernel
  have joined : site.urlFor crowded.target.text = .ok page := urlFor_page
  have other : destination crowded.fields = .other := by decide +kernel
  have passed : forwarded crowded.fields = crowdedFetch.headers := by decide +kernel
  simp [decide, decideFetch, elsewhere, size, joined, same, other, passed]
  rfl

def cookies : Worker.Reply :=
  ⟨.cache, ⟨99, [("Set-Cookie", "a"), ("CONNECTION", "close"), ("set-cookie", "b")], .empty⟩⟩

def spoilt : Worker.Reply :=
  ⟨.network, ⟨200, [("x-mark", "one"), ("x mark", "two")], "page".toUTF8⟩⟩

end Mirroring

end OfflineSite.Proxy
