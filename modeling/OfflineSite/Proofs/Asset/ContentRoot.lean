import OfflineSite.Asset.Server
import OfflineSite.Proofs.Path

namespace OfflineSite.Asset

open OfflineSite.Path (Below Plain)

theorem below_of_descend {root file : String} {steps : List Path.Component}
    (plain : ∀ part, .name part ∈ steps → Plain part) (reached : descend root steps = some file)
    {top : String} (start : Below top root) : Below top file := by
  induction steps generalizing root with
  | nil =>
    obtain rfl := Option.some.inj reached
    exact start
  | cons step rest ih =>
    have further : ∀ part, .name part ∈ rest → Plain part :=
      fun part member => plain part (List.mem_cons_of_mem step member)
    cases step with
    | name part => exact ih further reached (start.push (plain part (List.mem_cons_self ..)))
    | here => exact ih further reached start
    | _ => simp [descend] at reached

/-- Whatever is asked for, and whatever the default document is, the file lies below the root. -/
theorem below_of_resolve {root path defaultDocument file : String}
    (resolved : resolve root path defaultDocument = some file) : Below root file :=
  below_of_descend (fun _ => Path.plain_of_mem_components) resolved .root

/-- File systems that cannot be told apart below a root. -/
structure FileSystem.AgreeBelow (root : String) (files other : FileSystem) : Prop where
  presence {path : String} (below : Below root path) : files.presence path = other.presence path
  read {path : String} (below : Below root path) : files.read path = other.read path

variable {files other : FileSystem}

theorem respond_congr {settings : Settings} (agree : files.AgreeBelow settings.root other)
    (target : String) : respond settings files target = respond settings other target := by
  unfold respond
  dsimp only
  split
  · rfl
  · next file resolved =>
    have below := below_of_resolve resolved
    simp only [agree.presence below, agree.read below]

theorem route_congr {settings : Settings} (agree : files.AgreeBelow settings.root other)
    (target : Http.Target) : route settings files target = route settings other target := by
  unfold route
  rw [respond_congr agree]

/-- What lies outside the content root has no influence on any answer: not on what is made of a
target, nor on the response to a request. -/
theorem outside_unseen (config : ServerConfig) (agree : files.AgreeBelow config.root other) :
    (∀ target : String,
      respond (.ofConfig config) files target = respond (.ofConfig config) other target) ∧
    ∀ request : Http.Request,
      handle (.ofConfig config) files request = handle (.ofConfig config) other request := by
  refine ⟨respond_congr agree, fun request => ?_⟩
  unfold handle
  rw [route_congr agree]

/-- A file system with one more file, or with another content in it. -/
def FileSystem.adding (files : FileSystem) (file : String) (content : ByteArray) :
    FileSystem where
  presence path := if path = file then .present else files.presence path
  read path := if path = file then .data content else files.read path

theorem FileSystem.agreeBelow_adding {root file : String}
    (outside : ¬root.toList <+: file.toList) (files : FileSystem) (content : ByteArray) :
    (files.adding file content).AgreeBelow root files := by
  have different {path : String} (below : Below root path) : path ≠ file :=
    fun same => outside (same ▸ below.isPrefix)
  constructor
  · intro path below
    simp only [adding, different below, if_false]
  · intro path below
    simp only [adding, different below, if_false]

theorem password_unseen :
    let site : ServerConfig := { root := "/srv/site" }
    let nothing : FileSystem := ⟨fun _ => .absent, fun _ => .failure .notFound⟩
    let files := nothing.adding "/srv/site/index.html" "<h1>Site</h1>".toUTF8
    let more := files.adding "/etc/passwd" "root:x:0:0".toUTF8
    respond (.ofConfig site) more "/%2e%2e/%2E./etc/passwd" =
      respond (.ofConfig site) files "/%2e%2e/%2E./etc/passwd" := by
  intro site nothing files more
  have agree : more.AgreeBelow site.root files :=
    FileSystem.agreeBelow_adding (by decide +kernel) files _
  exact (outside_unseen site agree).1 _

end OfflineSite.Asset
