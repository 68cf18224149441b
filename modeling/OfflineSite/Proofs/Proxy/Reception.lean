import OfflineSite.Proofs.Proxy.Origin
import OfflineSite.Proofs.Result
import OfflineSite.Proxy.Reception

namespace OfflineSite

namespace Proxy

open Worker (Operation System)

/-- The reasons to refuse a request, each with its answer. A body counts only where it is read, and
the target only off the message path. -/
inductive Refused (worker : Worker) (request : Http.Request) : Http.Response → Prop
  | notPost (message : isMessage request) (method : request.method ≠ "POST") :
      Refused worker request onlyPost
  | large (read : isMessage request → request.method = "POST")
      (size : worker.config.maxBodyBytes < request.body.size) :
      Refused worker request tooLarge
  | unreadable {cause : Json.Failure} (message : isMessage request) (method : request.method = "POST")
      (size : request.body.size ≤ worker.config.maxBodyBytes)
      (fails : ControlMessage.parse request.body = .error cause) :
      Refused worker request (.text 400 (Failure.message cause).text)
  | unjoined {cause : Failure} (elsewhere : ¬ isMessage request)
      (size : request.body.size ≤ worker.config.maxBodyBytes)
      (fails : worker.urlFor request.target.text = .error cause) :
      Refused worker request (.text 400 cause.text)
  | offOrigin {url : Url} (elsewhere : ¬ isMessage request)
      (size : request.body.size ≤ worker.config.maxBodyBytes)
      (joins : worker.urlFor request.target.text = .ok url)
      (other : ∀ origin, url.origin? = some origin → worker.origin.origin? ≠ some origin) :
      Refused worker request (.text 400 "off-origin request")

section

variable {worker : Worker} {request : Http.Request}

theorem Refused.decide {response : Http.Response} (refused : Refused worker request response) :
    ∃ notices, decide worker request = .refuse response notices := by
  cases refused with
  | notPost message method => exact ⟨[], by simp [Proxy.decide, message, method]⟩
  | large read size =>
    have reads : ¬ (isMessage request && request.method != "POST") := by simpa using read
    exact ⟨[], by rw [Proxy.decide, if_neg reads, if_pos size]⟩
  | unreadable message method size fails =>
    have fits := Nat.not_lt.mpr size
    exact ⟨[], by simp [Proxy.decide, decideMessage, message, method, fits, fails]⟩
  | unjoined elsewhere size fails =>
    have fits := Nat.not_lt.mpr size
    exact ⟨[], by simp [Proxy.decide, decideFetch, elsewhere, fits, fails]⟩
  | @offOrigin url elsewhere size joins other =>
    have fits := Nat.not_lt.mpr size
    have apart : ¬ url.sameOrigin worker.origin := by
      rw [Url.sameOrigin_iff]
      rintro ⟨origin, one, two⟩
      exact other origin one two
    exact ⟨[.offOrigin url], by simp [Proxy.decide, decideFetch, elsewhere, fits, joins, apart]⟩

theorem decideFetch_cases (elsewhere : ¬ isMessage request)
    (size : request.body.size ≤ worker.config.maxBodyBytes) :
    (∃ response notices, decideFetch worker request = .refuse response notices ∧
      Refused worker request response) ∨
    ∃ url, worker.urlFor request.target.text = .ok url ∧
      decideFetch worker request = .fetch ⟨request.method, url, destination request.fields,
        forwarded request.fields, request.body⟩ := by
  cases joins : worker.urlFor request.target.text with
  | error cause =>
    refine Or.inl ⟨_, [], ?_, .unjoined elsewhere size joins⟩
    simp only [decideFetch, joins]
  | ok url =>
    by_cases same : url.sameOrigin worker.origin
    · refine Or.inr ⟨url, rfl, ?_⟩
      simp only [decideFetch, joins, same, if_true]
    · refine Or.inl ⟨_, [.offOrigin url], ?_, .offOrigin elsewhere size joins ?_⟩
      · simp only [decideFetch, joins, same, if_false, Bool.false_eq_true]
      · intro origin one two
        exact same (Url.sameOrigin_iff.mpr ⟨origin, one, two⟩)

/-- A request is refused for a reason, or it is a message that can be read, or it is fetched as it
came. -/
theorem decide_cases (worker : Worker) (request : Http.Request) :
    (∃ response notices, decide worker request = .refuse response notices ∧
      Refused worker request response) ∨
    (∃ message, isMessage request ∧ request.method = "POST" ∧
      ControlMessage.parse request.body = .ok message ∧
      decide worker request = .message message) ∨
    ∃ url, ¬ isMessage request ∧ worker.urlFor request.target.text = .ok url ∧
      decide worker request = .fetch ⟨request.method, url, destination request.fields,
        forwarded request.fields, request.body⟩ := by
  by_cases reads : isMessage request && request.method != "POST"
  · obtain ⟨message, method⟩ : isMessage request ∧ request.method ≠ "POST" := by simpa using reads
    exact Or.inl ⟨_, [], by rw [decide, if_pos reads], .notPost message method⟩
  have posted : isMessage request → request.method = "POST" := by simpa using reads
  by_cases size : request.body.size ≤ worker.config.maxBodyBytes
  · have fits := Nat.not_lt.mpr size
    by_cases message : isMessage request
    · have onward : decide worker request = decideMessage request.body := by
        rw [decide, if_neg reads, if_neg fits, if_pos message]
      cases read : ControlMessage.parse request.body with
      | error cause =>
        refine Or.inl ⟨_, [], ?_, .unreadable message (posted message) size read⟩
        simp only [onward, decideMessage, read]
      | ok sent =>
        refine Or.inr (Or.inl ⟨sent, message, posted message, rfl, ?_⟩)
        simp only [onward, decideMessage, read]
    · have onward : decide worker request = decideFetch worker request := by
        rw [decide, if_neg reads, if_neg fits, if_neg message]
      rw [onward]
      rcases decideFetch_cases message size with refused | ⟨url, joins, fetched⟩
      · exact Or.inl refused
      · exact Or.inr (Or.inr ⟨url, message, joins, fetched⟩)
  · have large := Nat.not_le.mp size
    exact Or.inl ⟨_, [], by rw [decide, if_neg reads, if_pos large], .large posted large⟩

theorem operation?_eq_none_iff :
    operation? worker request = none ↔ ∃ response, Refused worker request response := by
  constructor
  · intro nothing
    rcases decide_cases worker request with ⟨response, _, _, refused⟩ |
      ⟨message, _, _, _, decided⟩ | ⟨url, _, _, decided⟩
    · exact ⟨response, refused⟩
    · simp [operation?, decided] at nothing
    · simp [operation?, decided] at nothing
  · rintro ⟨response, refused⟩
    obtain ⟨notices, decided⟩ := refused.decide
    simp [operation?, decided]

theorem system_receive (worker : Worker) (request : Http.Request) (system : System) :
    (receive worker request system).system =
      match operation? worker request with
      | some operation => system.perform worker operation
      | none => system := by
  unfold receive operation?
  cases decide worker request <;> rfl

/-- Whether a happening reaches the worker. -/
def Happening.reaches (worker : Worker) : Happening → Bool
  | .request request => (operation? worker request).isSome
  | .apart _ => true

/-- Requests that are refused leave no trace in whatever traffic they come. -/
theorem Traffic.after_filter (traffic : Traffic) (happenings : List Happening) :
    traffic.after worker (happenings.filter (·.reaches worker)) =
      traffic.after worker happenings := by
  induction happenings generalizing traffic with
  | nil => rfl
  | cons happening rest ih =>
    by_cases reaches : happening.reaches worker
    · rw [List.filter_cons_of_pos reaches]
      exact ih (traffic.next worker happening)
    · rw [List.filter_cons_of_neg reaches, ih]
      cases happening with
      | apart operation => exact absurd rfl reaches
      | request request =>
        have nothing : operation? worker request = none := by simpa [Happening.reaches] using reaches
        simp [after, next, nothing]

/-- A request that there is a reason to refuse is answered accordingly and changes nothing. Any
other one is handled once: as the message that its body holds, or by one fetch of what it asks for,
which makes one call to the network. -/
theorem refused_or_handled_once (worker : Worker) (request : Http.Request) (system : System) :
    let reception := receive worker request system
    (∃ response, Refused worker request response ∧ reception.response? = some response ∧
      reception.system = system) ∨
    (∀ response, ¬ Refused worker request response) ∧
      ((∃ message, isMessage request ∧ request.method = "POST" ∧
          ControlMessage.parse request.body = .ok message ∧
          reception.response? = some messageHandled ∧
          reception.system = ⟨(worker.handle message system.state).state, system.tasks⟩) ∨
        ∃ fetch, ¬ isMessage request ∧ worker.urlFor request.target.text = .ok fetch.url ∧
          fetch.method = request.method ∧ fetch.body = request.body ∧
          fetch.destination = destination request.fields ∧
          fetch.headers = forwarded request.fields ∧
          reception.response? = none ∧ reception.system = (system.fetch worker fetch).1 ∧
          ∃ number, system.next ≤ number ∧
            reception.system.calls = system.calls ++ [⟨number, 0, fetch⟩]) := by
  intro reception
  have kept {decision : Decision} (decided : decide worker request = decision)
      (passes : ∀ response notices, decision ≠ .refuse response notices) :
      ∀ response, ¬ Refused worker request response := by
    intro response refused
    obtain ⟨notices, same⟩ := refused.decide
    exact passes response notices (decided.symm.trans same)
  rcases decide_cases worker request with ⟨response, notices, decided, refused⟩ |
    ⟨message, path, method, read, decided⟩ | ⟨url, path, joins, decided⟩
  · have done : reception = ⟨some response, system, notices.map (·.record)⟩ := by
      simp only [reception, receive, decided]
    exact Or.inl ⟨response, refused, by rw [done], by rw [done]⟩
  · refine Or.inr ⟨kept decided (by simp), Or.inl ⟨message, path, method, read, ?_, ?_⟩⟩
    · simp only [reception, receive, decided]
    · simp only [reception, receive, decided, System.act]
  · have done : reception.system = (system.fetch worker ⟨request.method, url,
        destination request.fields, forwarded request.fields, request.body⟩).1 := by
      simp only [reception, receive, decided]
    obtain ⟨number, new, calls⟩ := System.calls_fetch worker ⟨request.method, url,
      destination request.fields, forwarded request.fields, request.body⟩ system
    refine Or.inr ⟨kept decided (by simp), Or.inr
      ⟨_, path, joins, rfl, rfl, rfl, rfl, ?_, done, number, new, ?_⟩⟩
    · simp only [reception, receive, decided]
    · rw [done, calls]

end

namespace Originless

def worker : Worker where
  config := { origin := "data:,x" }
  origin := ⟨"data", none, .opaqueText ",x", none, none⟩

def waiting : System := ⟨⟨.installed, false, false, .empty⟩, []⟩

def skip : Http.Request where
  method := "POST"
  target := .resource messagePath none
  fields := []
  body := (ControlMessage.json .skipWaiting).toUTF8

end Originless

open Originless in
/-- The target of a message is never followed, so a message is handled wherever it leads. -/
theorem unjoined_message_handled :
    (Url.parse worker.config.origin).toOption = some worker.origin ∧
      (worker.urlFor skip.target.text).isOk = false ∧
      waiting.state.phase = .installed ∧
      (receive worker skip waiting).response? = some messageHandled ∧
      (receive worker skip waiting).system.state.phase = .activated := by
  have decided : decide worker skip = .message .skipWaiting := by
    have path : isMessage skip := by decide +kernel
    have method : skip.method = "POST" := rfl
    have size : ¬ worker.config.maxBodyBytes < skip.body.size := by decide +kernel
    have read : (ControlMessage.parse skip.body).toOption = some .skipWaiting := by decide +kernel
    simp [decide, decideMessage, path, method, size, eq_ok_of_toOption read]
  refine ⟨by decide +kernel, by decide +kernel, rfl, ?_, ?_⟩
  · simp only [receive, decided]
  · simp only [receive, decided, System.act, Worker.handle, Worker.Handling.ofMessage,
      Worker.Handling.run, Worker.Handling.look, Worker.Handling.step, Worker.Turn.quiet, waiting,
      if_true, Worker.Turn.map, Worker.activate_eq]

end Proxy

end OfflineSite
