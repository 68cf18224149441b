import OfflineSite.Proofs.Proxy.Filtering
import OfflineSite.Proofs.Worker.Supply

namespace OfflineSite

namespace Proxy

open Http (lowered)
open Worker (Operation Reply Run Supplied)

theorem valuesOf_unbound (headers : List (String × String)) {name : String}
    (free : name ∉ hopByHop) : valuesOf (unbound headers) name = valuesOf headers name := by
  have kept : Decidable.decide (name ∉ hopByHop) = true := decide_eq_true free
  rw [valuesOf, unbound, Http.filter_key (lowered ·.1) (· ∉ hopByHop) headers, if_pos kept, valuesOf]

/-- A response that holds nothing under the name of the source field, in whatever letters. -/
def Untagged (response : FetchResponse) : Prop :=
  ∀ header ∈ response.headers, lowered header.1 ≠ sourceField

theorem valuesOf_eq_nil_iff {response : FetchResponse} :
    valuesOf response.headers sourceField = [] ↔ Untagged response := by
  rw [valuesOf, List.map_eq_nil_iff, List.filter_eq_nil_iff]
  simp only [Untagged, decide_eq_true_eq, ne_eq]

/-- Throughout every run a reply is sent with its source told last, whatever was asked for. Before it
stands what the response itself holds under that name, so the source is told alone exactly if that
is nothing; and the response holds nothing there unless one does that was stored at the start or
that the network answered. -/
theorem source_told_last {worker : Worker} {storage : Cache.Storage} {operations : List Operation}
    {request : FetchRequest} {reply : Reply}
    (replied : .replied request (.ok reply) ∈ (Run.of worker storage operations).history)
    (builds : ∀ header ∈ unbound reply.response.headers, Legal header) (target method : String) :
    let sent := ((answer target (.ok reply)).1.framed method).fields
    sent.values sourceField =
        valuesOf reply.response.headers sourceField ++ [reply.source.name.toUTF8] ∧
      (sent.values sourceField = [reply.source.name.toUTF8] ↔ Untagged reply.response) ∧
      ((∀ response, Supplied storage (Run.of worker storage operations).history response →
        Untagged response) → sent.values sourceField = [reply.source.name.toUTF8]) := by
  intro sent
  have told : sent.values sourceField =
      valuesOf reply.response.headers sourceField ++ [reply.source.name.toUTF8] := by
    rw [Http.Response.values_framed _ _ (by decide), answer, values_relay builds, if_pos rfl,
      valuesOf_unbound _ (by decide)]
  have alone : sent.values sourceField = [reply.source.name.toUTF8] ↔
      Untagged reply.response := by
    rw [told, ← valuesOf_eq_nil_iff, List.append_left_eq_self]
  exact ⟨told, alone, fun untagged => alone.mpr (untagged _ (Run.supplied_of replied))⟩

namespace Mirroring

/-- The page as another proxy sends it, which has it from its own storage. -/
def tagged : FetchResponse := { response with headers := [("X-Cache-Source", "cache")] }

def visit : List Happening := [.request get, .apart (.answer 0 0 (.ok tagged) default)]

theorem history_visit : (run site visit).history =
    [.asked ⟨0, 0, .get page⟩, .answered (.get page) (.ok tagged),
      .replied (.get page) (.ok ⟨.network, tagged⟩)] := by
  have operations : visit.filterMap (·.operation? site) =
      [.fetch (.get page), .answer 0 0 (.ok tagged) default] := by
    simp [visit, Happening.operation?, operation?_get]
  rw [run, operations]
  rfl

end Mirroring

open Mirroring in
theorem stored_page_told_from_cache :
    .replied (.get page) (.ok ⟨.cache, response⟩) ∈ (run site visits).history ∧
      (((answer "/page" (.ok ⟨.cache, response⟩)).1.framed "GET").fields.values sourceField =
        ["cache".toUTF8]) := by
  have replied : .replied (.get page) (.ok ⟨.cache, response⟩) ∈ (run site visits).history := by
    simp [visits, history_twice (rfl : response.status = 200)]
  have builds : ∀ header ∈ unbound response.headers, Legal header := by decide +kernel
  have untagged (other : FetchResponse)
      (supplied : Supplied .empty (run site visits).history other) : Untagged other := by
    obtain ⟨request, answered⟩ := supplied.exists_answered
    rw [(eq_of_answered rfl answered).2]
    intro header listed
    cases listed
  exact ⟨replied, (source_told_last replied builds "/page" "GET").2.2 untagged⟩

open Mirroring in
/-- A response that comes from another proxy is sent with two sources, that of the other one first. -/
theorem tagged_page_told_from_both :
    .replied (.get page) (.ok ⟨.network, tagged⟩) ∈ (run site visit).history ∧
      (((answer "/page" (.ok ⟨.network, tagged⟩)).1.framed "GET").fields.values sourceField =
        ["cache".toUTF8, "network".toUTF8]) := by
  refine ⟨by simp [history_visit], ?_⟩
  decide +kernel

end Proxy

end OfflineSite
