import OfflineSite.Asset.Server
import OfflineSite.Proofs.Proxy.Reception
import OfflineSite.Proofs.Proxy.Relaying
import OfflineSite.Proofs.Url.Parser
import OfflineSite.Proofs.Worker.Asking
import OfflineSite.Proofs.Worker.Supply

namespace OfflineSite

namespace Asset

variable {settings : Settings} {files : FileSystem}

/-- A server answers the path and query of a URL with this status and body. -/
def Gives (settings : Settings) (files : FileSystem) (url : Url) (status : Nat)
    (body : ByteArray) : Prop :=
  ∃ answer, (respond settings files url.resource).1 = some answer ∧
    answer.outcome.status = status ∧ answer.body = body

/-- Responses are stored under texts of URLs, and such a text determines the path and query that a
server is asked for. -/
theorem Gives.of_text {url other : Url} {status : Nat} {body : ByteArray}
    (gives : Gives settings files url status body) (regular : url.Regular)
    (regularToo : other.Regular) (server : (Url.defaultPort? url.scheme).isSome)
    (same : url.withoutFragment.text = other.withoutFragment.text) :
    Gives settings files other status body := by
  rwa [Gives, ← regular.resource_of_text regularToo server same]

/-- An answer as it reaches who fetches it. -/
def Answer.fetched (answer : Answer) : FetchResponse :=
  ⟨answer.outcome.status.toUInt16, answer.fields.filterMap Proxy.passed?, answer.body⟩

theorem Answer.status_fetched (answer : Answer) :
    answer.fetched.status.toNat = answer.outcome.status := by
  unfold fetched
  cases answer.outcome <;> rfl

theorem Answer.legalName_of_mem_fields {answer : Answer} :
    ∀ field ∈ answer.fields, Http.LegalName field.1 := by
  have names : ∀ name ∈ ["content-type", "cache-control", "access-control-allow-origin"],
      Http.LegalName name := by decide +kernel
  intro field member
  refine names field.1 ?_
  unfold fields at member
  split at member
  · simp only [List.mem_append, Option.mem_toList, Option.map_eq_some_iff, List.mem_cons,
      List.not_mem_nil, or_false] at member
    rcases member with ⟨_, _, rfl⟩ | rfl | rfl <;> simp
  · obtain rfl := List.mem_singleton.mp member
    simp
  · cases member

theorem Answer.legal_fetched (answer : Answer) :
    ∀ header ∈ answer.fetched.headers, Proxy.Legal header := by
  intro header member
  obtain ⟨field, listed, passes⟩ := List.mem_filterMap.mp member
  exact Proxy.legal_of_passed? passes (legalName_of_mem_fields field listed)

end Asset

theorem Url.isSome_defaultPort?_of_serverOrigin? {url : Url} (server : url.serverOrigin?.isSome) :
    (defaultPort? url.scheme).isSome := by
  unfold serverOrigin? at server
  split at server
  · next known _ => rw [known, Option.isSome_some]
  · cases server

namespace Worker

open Asset (Gives)
open Cache (Key Storage)

variable {worker : Worker} {config : OfflineConfig} {settings : Asset.Settings}
  {files : Asset.FileSystem}

theorem regular_origin (made : Worker.ofConfig config = .ok worker) : worker.origin.Regular := by
  unfold ofConfig at made
  split at made
  · next origin read =>
    obtain rfl := Except.ok.inj made
    exact Url.regular_of_parse read
  · cases made

theorem regular_of_urlFor (regular : worker.origin.Regular) {path : String} {url : Url}
    (joined : worker.urlFor path = .ok url) : url.Regular := by
  unfold urlFor at joined
  cases read : worker.origin.join path with
  | error cause =>
    rw [read] at joined
    cases joined
  | ok other =>
    rw [read] at joined
    obtain rfl := Except.ok.inj joined
    exact regular.join read

/-- A network that leads to an asset server. What it answers, if it does not fail, is what the
server gives, with headers that may be sent; and a URL that names no server has no path and query to
ask one for. -/
structure LeadsTo (settings : Asset.Settings) (files : Asset.FileSystem) (history : List Event) :
    Prop where
  server {request : FetchRequest} {response : FetchResponse}
    (answered : .answered request (.ok response) ∈ history) : request.url.serverOrigin?.isSome
  gives {request : FetchRequest} {response : FetchResponse}
    (answered : .answered request (.ok response) ∈ history) :
    Gives settings files request.url response.status.toNat response.body
  legal {request : FetchRequest} {response : FetchResponse}
    (answered : .answered request (.ok response) ∈ history) :
    ∀ header ∈ response.headers, Proxy.Legal header

/-- A network leads to an asset server if it fetches what that answers. -/
theorem LeadsTo.of_fetched {history : List Event}
    (fetched : ∀ {request response}, .answered request (.ok response) ∈ history →
      request.url.serverOrigin?.isSome ∧ ∃ answer,
        (Asset.respond settings files request.url.resource).1 = some answer ∧
          response = answer.fetched) : LeadsTo settings files history where
  server answered := (fetched answered).1
  gives answered := by
    obtain ⟨_, answer, given, rfl⟩ := fetched answered
    exact ⟨answer, given, answer.status_fetched.symm, rfl⟩
  legal answered := by
    obtain ⟨_, answer, _, rfl⟩ := fetched answered
    exact answer.legal_fetched

theorem LeadsTo.before {past later : List Event}
    (leads : LeadsTo settings files (past ++ later)) : LeadsTo settings files past where
  server answered := leads.server (List.mem_append_left later answered)
  gives answered := leads.gives (List.mem_append_left later answered)
  legal answered := leads.legal (List.mem_append_left later answered)

/-- What was fetched for a key is what the server gives for every URL of that key. -/
theorem Fetched.gives {history : List Event} {url : Url} {response : FetchResponse}
    {method : String} (fetched : Fetched history (.of method url) response)
    (leads : LeadsTo settings files history)
    (asked : ∀ {request answer}, .answered request answer ∈ history → request.url.Regular)
    (regular : url.Regular) : Gives settings files url response.status.toNat response.body := by
  obtain ⟨_, _, request, answered, _, same⟩ := fetched
  have server := Url.isSome_defaultPort?_of_serverOrigin? (leads.server answered)
  exact (leads.gives answered).of_text (asked answered) regular server same

theorem Sound.fetched_of_matchRequest {run : Run} (sound : Sound .empty run) {key : Key}
    {response : FetchResponse} (found : run.system.state.storage.matchRequest key = some response) :
    Fetched run.history key response := by
  refine (sound.vouched_of_matchRequest found).resolve_left ?_
  rintro ⟨name, entry, held, _⟩
  simp at held

/-- What a reply shows is what the server gives: for the fallback page where that stands in, for the
URL asked for otherwise. -/
def Reply.Honest (worker : Worker) (settings : Asset.Settings) (files : Asset.FileSystem)
    (asked : Url) (reply : Reply) : Prop :=
  ∃ url, (if reply.source = .fallback then worker.urlFor worker.config.offlineFallback
      else .ok asked) = .ok url ∧
    Gives settings files url reply.response.status.toNat reply.response.body

/-- A run in which every reply so far was what the server gives. -/
structure Mirrors (worker : Worker) (settings : Asset.Settings) (files : Asset.FileSystem)
    (run : Run) : Prop where
  sound : Sound .empty run
  asks : Asks (·.url.Regular) run
  honest {request : FetchRequest} {reply : Reply} (regular : request.url.Regular)
    (replied : .replied request (.ok reply) ∈ run.history) :
    reply.Honest worker settings files request.url

theorem Mirrors.honest_next {run : Run} (mirrors : Mirrors worker settings files run)
    (regularPath : ∀ {path url}, worker.urlFor path = .ok url → url.Regular)
    {operation : Operation} (leads : LeadsTo settings files (run.next worker operation).history)
    {request : FetchRequest} {reply : Reply} (regular : request.url.Regular)
    (replied : .replied request (.ok reply) ∈ run.system.events worker operation) :
    reply.Honest worker settings files request.url := by
  have leadsBefore : LeadsTo settings files run.history := leads.before
  cases System.obtained_of_replied replied with
  | stored found =>
    have fetched := mirrors.sound.fetched_of_matchRequest found
    exact ⟨_, rfl, fetched.gives leadsBefore mirrors.asks.answered regular⟩
  | fetched answered =>
    exact ⟨_, rfl, leads.gives (List.mem_append_right _ answered)⟩
  | @stoodIn page response joined found =>
    have fetched := mirrors.sound.fetched_of_matchRequest found
    have regularPage := regularPath joined
    exact ⟨page, joined, fetched.gives leadsBefore mirrors.asks.answered regularPage⟩

theorem Run.mirrors_of (made : Worker.ofConfig config = .ok worker) {operations : List Operation}
    (taken : ∀ request, .fetch request ∈ operations → request.url.Regular)
    (leads : LeadsTo settings files (Run.of worker .empty operations).history) :
    Mirrors worker settings files (.of worker .empty operations) := by
  have regularPath {path : String} {url : Url} (joined : worker.urlFor path = .ok url) :
      url.Regular := regular_of_urlFor (regular_origin made) joined
  have precached (request : FetchRequest) (listed : Precached worker request) :
      request.url.Regular := by
    cases listed with
    | of _ joined => exact regularPath joined
  refine of_induction_mem (motive := fun run => LeadsTo settings files run.history →
    Mirrors worker settings files run) ?_ ?_ leads
  · intro _
    exact ⟨.start .empty, .start .empty, fun _ listed => by cases listed⟩
  · intro run operation listed ih leads
    have mirrors := ih leads.before
    refine ⟨mirrors.sound.next operation, mirrors.asks.next precached ?_, ?_⟩
    · intro request same
      exact taken request (same ▸ listed)
    · intro request reply regular replied
      rcases List.mem_append.mp replied with old | new
      · exact mirrors.honest regular old
      · exact mirrors.honest_next regularPath leads regular new

end Worker

namespace Proxy

open Asset (Gives)
open Worker (LeadsTo Operation Reply Run)

variable {worker : Worker} {settings : Asset.Settings} {files : Asset.FileSystem}

theorem status_of_gives {url : Url} {number : UInt16} {body : ByteArray}
    (gives : Gives settings files url number.toNat body) : status number = number.toNat := by
  obtain ⟨answer, _, same, _⟩ := gives
  have range : 100 ≤ number.toNat ∧ number.toNat ≤ 999 := by
    rw [← same]
    cases answer.outcome <;> exact ⟨by decide, by decide⟩
  exact if_pos ⟨UInt16.le_iff_toNat_le.mpr range.1, UInt16.le_iff_toNat_le.mpr range.2⟩

/-- What the server gives reaches the client if no header is in its way. -/
theorem gives_answer {target : String} {url : Url} {reply : Reply}
    (legal : ∀ header ∈ reply.response.headers, Legal header)
    (gives : Gives settings files url reply.response.status.toNat reply.response.body) :
    Gives settings files url (answer target (.ok reply)).1.status
      (answer target (.ok reply)).1.body := by
  rw [answer, relay_of_legal fun header unbound => legal header (List.mem_filter.mp unbound).1]
  rwa [status_of_gives gives]

theorem urlFor_of_operation? {request : Http.Request} {fetch : FetchRequest}
    (passed : operation? worker request = some (.fetch fetch)) :
    worker.urlFor request.target.text = .ok fetch.url := by
  unfold operation? at passed
  rcases decide_cases worker request with ⟨_, _, decided, _⟩ | ⟨_, _, _, _, decided⟩ |
    ⟨url, _, joined, decided⟩
  · rw [decided] at passed
    cases passed
  · rw [decided] at passed
    cases passed
  · rw [decided] at passed
    obtain rfl := Operation.fetch.inj (Option.some.inj passed)
    exact joined

/-- What a happening makes the worker do. -/
def Happening.operation? (worker : Worker) : Happening → Option Operation
  | .request asked => Proxy.operation? worker asked
  | .apart operation => some operation

/-- The run of a new worker behind a proxy, with nothing stored. -/
def run (worker : Worker) (happenings : List Happening) : Run :=
  .of worker .empty (happenings.filterMap (·.operation? worker))

/-- While the files of an asset server stay as they are, a proxy that leads there shows what the
server gives. Every reply of the worker has the status and body of the URL that the target of the
request leads to, or those of the fallback page where that stands in, whatever else happens in
between and in whatever order the network answers. So has the answer that the proxy makes of the
reply, and so has what leaves the proxy of this answer if the page was asked for by `GET`. -/
theorem replies_as_served {config : OfflineConfig} (made : Worker.ofConfig config = .ok worker)
    {happenings : List Happening} (proxied : ∀ fetch, .apart (.fetch fetch) ∉ happenings)
    (leads : LeadsTo settings files (run worker happenings).history)
    {request : Http.Request} {fetch : FetchRequest} {reply : Reply}
    (passed : operation? worker request = some (.fetch fetch))
    (replied : .replied fetch (.ok reply) ∈ (run worker happenings).history) :
    let told := (answer request.target.text (.ok reply)).1
    ∃ url, worker.urlFor (if reply.source = .fallback then worker.config.offlineFallback
        else request.target.text) = .ok url ∧
      Gives settings files url reply.response.status.toNat reply.response.body ∧
      Gives settings files url told.status told.body ∧
      (request.method = "GET" → Gives settings files url (told.framed request.method).status
        (told.framed request.method).body) := by
  intro told
  have regular {request : Http.Request} {fetch : FetchRequest}
      (passed : operation? worker request = some (.fetch fetch)) : fetch.url.Regular :=
    Worker.regular_of_urlFor (Worker.regular_origin made) (urlFor_of_operation? passed)
  have taken : ∀ fetch, .fetch fetch ∈ happenings.filterMap (·.operation? worker) →
      fetch.url.Regular := by
    intro fetch listed
    obtain ⟨happening, happens, makes⟩ := List.mem_filterMap.mp listed
    cases happening with
    | request request => exact regular makes
    | apart operation =>
      obtain rfl := Option.some.inj makes
      exact absurd happens (proxied fetch)
  have mirrors : Worker.Mirrors worker settings files (run worker happenings) :=
    Run.mirrors_of made taken leads
  obtain ⟨url, shown, gives⟩ := mirrors.honest (regular passed) replied
  obtain ⟨_, answered⟩ := (Run.supplied_of replied).exists_answered
  have givesTold : Gives settings files url told.status told.body :=
    gives_answer (leads.legal answered) gives
  refine ⟨url, ?_, gives, givesTold, ?_⟩
  · split at shown
    · next fallback => rwa [if_pos fallback]
    · next own => rw [if_neg own, urlFor_of_operation? passed, shown]
  · intro get
    rw [told.status_framed, told.body_framed (by simp [get]) (by simp [get])]
    exact givesTold

namespace Mirroring

open Worker (Event)

def site : Worker where
  config := { origin := "http://site", precache := [], offlineFallback := "/page" }
  origin := ⟨"http", some ⟨"", "", .name "site", none⟩, .pieces [""], none, none⟩

def page : Url := { site.origin with path := .pieces ["page"] }

def folder : Asset.Settings := ⟨"/www", "index.html", .base⟩

/-- Every file is there and holds its own name. -/
def disk : Asset.FileSystem := ⟨fun _ => .present, fun file => .data file.toUTF8⟩

def get : Http.Request := ⟨"GET", .resource "/page" none, [], .empty⟩

def response : FetchResponse := ⟨200, [], "/www/page".toUTF8⟩

/-- What the network makes of the answer of the asset server to the page. -/
def served : FetchResponse :=
  (Asset.Answer.ok (folder.types.lookup "/www/page") "/www/page".toUTF8).fetched

/-- The page is asked for twice. -/
def twice (response : FetchResponse) : List Happening :=
  [.apart .activate, .request get, .apart (.answer 0 0 (.ok response) default), .request get]

def visits : List Happening := twice response

theorem ofConfig_config : Worker.ofConfig site.config = .ok site := by
  have read : (Url.parse site.config.origin).toOption = some site.origin := by decide +kernel
  simp only [Worker.ofConfig, eq_ok_of_toOption read]

theorem urlFor_page : site.urlFor "/page" = .ok page :=
  eq_ok_of_toOption (by decide +kernel)

theorem operation?_get : operation? site get = some (.fetch (.get page)) := by
  have elsewhere : isMessage get = false := by decide +kernel
  have same : page.sameOrigin site.origin := by decide +kernel
  have size : ¬ site.config.maxBodyBytes < get.body.size := by decide +kernel
  have joined : site.urlFor get.target.text = .ok page := urlFor_page
  have fetched : (⟨get.method, page, destination get.fields, forwarded get.fields, get.body⟩ :
      FetchRequest) = .get page := rfl
  simp [operation?, decide, decideFetch, elsewhere, size, joined, same, fetched]

/-- The run once the worker is activated. -/
def activated : Run := ⟨⟨⟨.activated, false, true, .empty⟩, []⟩, []⟩

theorem next_activate : Run.next site ⟨.initial .empty, []⟩ .activate = activated := by
  simp only [Run.next, Worker.System.perform, Worker.System.events, Worker.System.asked,
    Worker.System.act, Worker.activate_eq]
  rfl

theorem history_twice {response : FetchResponse} (stored : response.status = 200) :
    (run site (twice response)).history =
      [.asked ⟨0, 0, .get page⟩, .answered (.get page) (.ok response),
        .replied (.get page) (.ok ⟨.network, response⟩),
        .replied (.get page) (.ok ⟨.cache, response⟩), .asked ⟨2, 0, .get page⟩] := by
  have operations : (twice response).filterMap (·.operation? site) =
      [.activate, .fetch (.get page), .answer 0 0 (.ok response) default, .fetch (.get page)] := by
    simp [twice, Happening.operation?, operation?_get]
  rw [run, operations, Run.of, List.foldl, next_activate]
  obtain ⟨status, headers, body⟩ := response
  obtain rfl : status = 200 := stored
  rfl

theorem eq_of_answered {request : FetchRequest} {response other : FetchResponse}
    (stored : response.status = 200)
    (answered : .answered request (.ok other) ∈ (run site (twice response)).history) :
    request = .get page ∧ other = response := by
  rw [history_twice stored] at answered
  simpa using answered

theorem status_served : served.status = 200 :=
  UInt16.toNat_inj.mp (Asset.Answer.status_fetched _)

theorem leadsTo_disk : LeadsTo folder disk (run site (twice served)).history := by
  have file : Asset.resolve folder.root (Asset.requestPath page.resource) folder.defaultDocument =
      some "/www/page" := by decide +kernel
  have given : (Asset.respond folder disk page.resource).1 =
      some (.ok (folder.types.lookup "/www/page") "/www/page".toUTF8) := by
    simp only [Asset.respond, file]
    rfl
  refine .of_fetched fun answered => ?_
  obtain ⟨rfl, rfl⟩ := eq_of_answered status_served answered
  exact ⟨rfl, _, given, rfl⟩

end Mirroring

open Mirroring in
/-- A page that is asked for twice: the network answers the first time, the storage the second. -/
theorem stored_page_as_served :
    .replied (.get page) (.ok ⟨.cache, served⟩) ∈ (run site (twice served)).history ∧
      let sent := (answer get.target.text (.ok ⟨.cache, served⟩)).1.framed get.method
      sent.status = 200 ∧ sent.body = "/www/page".toUTF8 ∧
        ∃ url, site.urlFor get.target.text = .ok url ∧
          Gives folder disk url sent.status sent.body := by
  have proxied (fetch : FetchRequest) : .apart (.fetch fetch) ∉ twice served := by simp [twice]
  have replied : .replied (.get page) (.ok ⟨.cache, served⟩) ∈
      (run site (twice served)).history := by
    simp [history_twice status_served]
  obtain ⟨url, joined, _, _, gives⟩ :=
    replies_as_served ofConfig_config proxied leadsTo_disk operation?_get replied
  exact ⟨replied, by decide +kernel, by decide +kernel, url, joined, gives rfl⟩

end Proxy

end OfflineSite
