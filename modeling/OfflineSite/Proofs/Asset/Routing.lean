import OfflineSite.Asset.Server
import OfflineSite.Proofs.Http.Header

namespace OfflineSite

namespace Asset

/-- What a file system is asked. -/
inductive Question where
  | presence (file : String)
  | read (file : String)
  deriving DecidableEq

/-- A file system that keeps a record of what it is asked. -/
def FileSystem.recorded (files : FileSystem) : Disk (StateM (List Question)) where
  presence file := do
    modify (· ++ [.presence file])
    return files.presence file
  read file := do
    modify (· ++ [.read file])
    return files.read file

/-- The fields of a file that is served, with its type if that may be sent. -/
def servedFields (type : String) : Http.Fields :=
  (if Http.LegalValue type then [("content-type", type.toUTF8)] else []) ++
    [("cache-control", "no-cache".toUTF8), ("access-control-allow-origin", "*".toUTF8)]

theorem Answer.fields_ok (type : String) (bytes : ByteArray) :
    (Answer.ok type bytes).fields = servedFields type := by
  unfold servedFields
  split
  · next legal => simp [fields, ok, Http.fieldValue?_of_legal legal]
  · next illegal => simp [fields, ok, Http.fieldValue?_of_illegal illegal]

section

variable (settings : Settings) (files : FileSystem) (target : String)

/-- The file that a target leads to, unless the target is rejected. -/
abbrev file? : Option String :=
  resolve settings.root (requestPath target) settings.defaultDocument

/-- A target leads to a file that can be read. -/
structure Found (file : String) (bytes : ByteArray) : Prop where
  reached : file? settings target = some file
  present : files.presence file = .present
  read : files.read file = .data bytes

/-- A target leads to no file that is there. -/
def Missed : Prop := ∀ file, file? settings target = some file → files.presence file = .absent

/-- A target leads to a file that crashes the question for it, or is there but cannot be read. -/
structure Failed (file : String) : Prop where
  reached : file? settings target = some file
  fails : files.presence file = .crash ∨
    files.presence file = .present ∧ ∀ bytes, files.read file ≠ .data bytes

/-- What is asked of a file system for a target: whether the file is there, and its content only if
it is. -/
def questions : List Question :=
  match file? settings target with
  | none => []
  | some file =>
    if files.presence file = .present then [.presence file, .read file] else [.presence file]

theorem run_consult_recorded {settings : Settings} {files : FileSystem} {target : String} :
    (consult settings files.recorded target).run [] =
      pure (respond settings files target, questions settings files target) := by
  unfold questions
  cases reached : file? settings target with
  | none =>
    simp [consult, respond, reached]
  | some file =>
    simp only [consult, respond, reached, FileSystem.recorded]
    cases files.presence file with
    | present => cases files.read file <;> simp
    | _ => simp

end

variable {settings : Settings} {files : FileSystem} {target : String}

theorem found_or_missed_or_failed (settings : Settings) (files : FileSystem) (target : String) :
    (∃ file bytes, Found settings files target file bytes) ∨ Missed settings files target ∨
      ∃ file, Failed settings files target file := by
  cases reached : file? settings target with
  | none =>
    refine Or.inr (Or.inl fun file other => ?_)
    cases reached.symm.trans other
  | some file =>
    cases presence : files.presence file with
    | crash => exact Or.inr (Or.inr ⟨file, reached, Or.inl presence⟩)
    | absent =>
      refine Or.inr (Or.inl fun other same => ?_)
      obtain rfl := Option.some.inj (reached.symm.trans same)
      exact presence
    | present =>
      cases read : files.read file with
      | data bytes => exact Or.inl ⟨file, bytes, reached, presence, read⟩
      | failure cause =>
        exact Or.inr (Or.inr ⟨file, reached, Or.inr ⟨presence, fun bytes => by simp [read]⟩⟩)
      | crash =>
        exact Or.inr (Or.inr ⟨file, reached, Or.inr ⟨presence, fun bytes => by simp [read]⟩⟩)

theorem not_read_of_missed (missed : Missed settings files target) (file : String) :
    .read file ∉ questions settings files target := by
  unfold questions
  split
  · exact List.not_mem_nil
  · next other reached => simp [missed other reached]

/-- The answer to a target, which is a failure if the file system crashed. -/
def given (settings : Settings) (files : FileSystem) (target : String) : Answer :=
  (respond settings files target).1.getD .readFailure

theorem given_of_found {file : String} {bytes : ByteArray}
    (found : Found settings files target file bytes) :
    given settings files target = .ok (settings.types.lookup file) bytes := by
  obtain ⟨reached, present, read⟩ := found
  simp only [given, respond, reached, present, read, Option.getD_some]

theorem given_of_missed (missed : Missed settings files target) :
    given settings files target = .notFound := by
  unfold given respond
  cases reached : file? settings target with
  | none =>
    simp only [reached, Option.getD_some]
  | some file =>
    have absent := missed file reached
    simp only [reached, absent, Option.getD_some]

theorem given_of_failed {file : String} (failed : Failed settings files target file) :
    given settings files target = .readFailure := by
  obtain ⟨reached, crash | ⟨present, unread⟩⟩ := failed
  · simp only [given, respond, reached, crash, Option.getD_none]
  · simp only [given, respond, reached, present]
    cases read : files.read file with
    | data bytes => exact absurd read (unread bytes)
    | _ => rfl

theorem route_eq (settings : Settings) (files : FileSystem) (target : Http.Target) :
    (route settings files target).1 = (given settings files target.text).toResponse := by
  rw [route, given]
  rcases respond settings files target.text with ⟨_ | answer, notices⟩ <;> rfl

theorem route_of_found {target : Http.Target} {file : String} {bytes : ByteArray}
    (found : Found settings files target.text file bytes) : (route settings files target).1 =
      ⟨200, servedFields (settings.types.lookup file), bytes⟩ := by
  rw [route_eq, given_of_found found, Answer.toResponse, Answer.fields_ok]
  rfl

theorem route_of_missed {target : Http.Target} (missed : Missed settings files target.text) :
    (route settings files target).1 =
      ⟨404, [("content-type", "text/html".toUTF8)], notFoundBody.toUTF8⟩ := by
  rw [route_eq, given_of_missed missed]
  rfl

theorem route_of_failed {target : Http.Target} {file : String}
    (failed : Failed settings files target.text file) :
    (route settings files target).1 = ⟨500, [], readFailureBody.toUTF8⟩ := by
  rw [route_eq, given_of_failed failed]
  rfl

/-- The status tells what there is of a file, and what there is of a file tells the status. -/
theorem status_route_iff {target : Http.Target} {number : Nat} :
    (route settings files target).1.status = number ↔
      number = 200 ∧ (∃ file bytes, Found settings files target.text file bytes) ∨
      number = 404 ∧ Missed settings files target.text ∨
      number = 500 ∧ ∃ file, Failed settings files target.text file := by
  constructor
  · rintro rfl
    rcases found_or_missed_or_failed settings files target.text with
      ⟨file, bytes, found⟩ | missed | ⟨file, failed⟩
    · exact Or.inl ⟨by rw [route_of_found found], file, bytes, found⟩
    · exact Or.inr (Or.inl ⟨by rw [route_of_missed missed], missed⟩)
    · exact Or.inr (Or.inr ⟨by rw [route_of_failed failed], file, failed⟩)
  · rintro (⟨rfl, file, bytes, found⟩ | ⟨rfl, missed⟩ | ⟨rfl, file, failed⟩)
    · rw [route_of_found found]
    · rw [route_of_missed missed]
    · rw [route_of_failed failed]

theorem status_handle (settings : Settings) (files : FileSystem) (request : Http.Request) :
    (handle settings files request).1.status = (route settings files request.target).1.status := by
  rw [handle, Http.Response.status_framed]

/-- Every request is answered in one of three ways, told apart by what there is of a file, whatever
its method: with the bytes of a file that can be read, with the page for what is missing, for which
no file is read, or with a failure. -/
theorem three_answers (config : ServerConfig) (files : FileSystem) (request : Http.Request) :
    let settings := Settings.ofConfig config
    let target := request.target.text
    let response := (route settings files request.target).1
    let served := ((consult settings files.recorded target).run []).run
    (response.status = 200 ∨ response.status = 404 ∨ response.status = 500) ∧
    ((response.status = 200 ↔ ∃ file bytes, Found settings files target file bytes) ∧
      ∀ file bytes, Found settings files target file bytes →
        response = ⟨200, servedFields (settings.types.lookup file), bytes⟩) ∧
    ((response.status = 404 ↔ Missed settings files target) ∧
      (Missed settings files target →
        response = ⟨404, [("content-type", "text/html".toUTF8)], notFoundBody.toUTF8⟩ ∧
          ∀ file, .read file ∉ served.2)) ∧
    ((response.status = 500 ↔ ∃ file, Failed settings files target file) ∧
      ∀ file, Failed settings files target file →
        response = ⟨500, [], readFailureBody.toUTF8⟩) ∧
    response = (settle served.1).1 ∧
    ∀ method, (handle settings files { request with method }).1.status = response.status := by
  intro settings target response served
  have recorded : served = (respond settings files target, questions settings files target) :=
    congrArg Id.run run_consult_recorded
  have answered : served.1 = respond settings files target := by rw [recorded]
  have asked : served.2 = questions settings files target := by rw [recorded]
  refine ⟨?_, ⟨by simp [response, target, status_route_iff], fun _ _ => route_of_found⟩,
    ⟨by simp [response, target, status_route_iff], fun missed => ⟨route_of_missed missed, ?_⟩⟩,
    ⟨by simp [response, target, status_route_iff], fun _ => route_of_failed⟩, ?_, ?_⟩
  · rcases status_route_iff.mp (rfl : response.status = response.status) with
      ⟨ok, _⟩ | ⟨missing, _⟩ | ⟨failure, _⟩
    · exact Or.inl ok
    · exact Or.inr (Or.inl missing)
    · exact Or.inr (Or.inr failure)
  · rw [asked]
    exact not_read_of_missed missed
  · rw [answered]
    rfl
  · intro method
    rw [status_handle]

namespace Answering

def site : ServerConfig := { root := "/srv/site" }

def pages : FileSystem where
  presence file :=
    if file = "/srv/site/index.html" then .present
    else if file = "/srv/site/locked" then .crash
    else .absent
  read _ := .data "<h1>Site</h1>".toUTF8

def get (path : String) : Http.Request := ⟨"GET", .resource path none, [], .empty⟩

theorem found_start : Found (.ofConfig site) pages (get "/?v=2").target.text
    "/srv/site/index.html" "<h1>Site</h1>".toUTF8 :=
  ⟨by decide +kernel, rfl, rfl⟩

theorem missed_outside : Missed (.ofConfig site) pages (get "/%2e%2e/notes").target.text := by
  have rejected : file? (.ofConfig site) (get "/%2e%2e/notes").target.text = none := by
    decide +kernel
  intro file reached
  cases rejected.symm.trans reached

theorem failed_locked :
    Failed (.ofConfig site) pages (get "/locked").target.text "/srv/site/locked" :=
  ⟨by decide +kernel, Or.inl rfl⟩

end Answering

open Answering in
/-- A site with a page to start from and a file that crashes whoever asks for it. -/
theorem site_answered :
    (route (.ofConfig site) pages (get "/?v=2").target).1 =
      ⟨200, [("content-type", "text/html".toUTF8), ("cache-control", "no-cache".toUTF8),
        ("access-control-allow-origin", "*".toUTF8)], "<h1>Site</h1>".toUTF8⟩ ∧
    (route (.ofConfig site) pages (get "/%2e%2e/notes").target).1.status = 404 ∧
    (handle (.ofConfig site) pages { get "/locked" with method := "HEAD" }).1.status = 500 := by
  have fields : servedFields ((Settings.ofConfig site).types.lookup "/srv/site/index.html") =
      [("content-type", "text/html".toUTF8), ("cache-control", "no-cache".toUTF8),
        ("access-control-allow-origin", "*".toUTF8)] := by decide +kernel
  obtain ⟨_, ⟨_, served⟩, _⟩ := three_answers site pages (get "/?v=2")
  obtain ⟨_, _, ⟨missing, _⟩, _⟩ := three_answers site pages (get "/%2e%2e/notes")
  obtain ⟨_, _, _, ⟨failure, _⟩, _, methods⟩ := three_answers site pages (get "/locked")
  refine ⟨?_, missing.mpr missed_outside, ?_⟩
  · rw [served _ _ found_start, fields]
  · rw [methods "HEAD", failure.mpr ⟨_, failed_locked⟩]

end Asset

end OfflineSite
