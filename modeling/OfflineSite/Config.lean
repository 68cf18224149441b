import OfflineSite.Files
import OfflineSite.Toml.Document
import OfflineSite.Toml.Schema

namespace OfflineSite

/-- An address to listen on: a host and a port. -/
def bindAddress (host : String) (port : Nat) : String := s!"{host}:{port}"

/-- Content types in the order of their extensions, each under one spelling once. -/
structure TypeMap where
  pairs : List (String × String)
  ascending : pairs.Pairwise fun pair later => pair.1 < later.1
  deriving Repr, DecidableEq

namespace TypeMap

def empty : TypeMap := ⟨[], .nil⟩

theorem not_lt_of_mem_dropWhile {pairs : List (String × String)} {extension : String}
    (ascending : pairs.Pairwise fun pair later => pair.1 < later.1) {pair : String × String}
    (inside : pair ∈ pairs.dropWhile (·.1 < extension)) : ¬ pair.1 < extension := by
  induction pairs with
  | nil => cases inside
  | cons first rest ih =>
    obtain ⟨least, later⟩ := List.pairwise_cons.mp ascending
    rw [List.dropWhile_cons] at inside
    split at inside
    · exact ih later inside
    · next stops =>
      have after : ¬ first.1 < extension := by simpa using stops
      rcases List.mem_cons.mp inside with rfl | listed
      · exact after
      · exact fun less => after (String.lt_trans (least pair listed) less)

theorem ascending_set (types : TypeMap) (extension mime : String) :
    (types.pairs.takeWhile (·.1 < extension) ++ (extension, mime) ::
      (types.pairs.dropWhile (·.1 < extension)).filter (·.1 != extension)).Pairwise
        fun pair later => pair.1 < later.1 := by
  have whole := List.takeWhile_append_dropWhile (p := (·.1 < extension)) (l := types.pairs)
  obtain ⟨front, rest, across⟩ := List.pairwise_append.mp (whole ▸ types.ascending)
  have before (pair : String × String) (inside : pair ∈ types.pairs.takeWhile (·.1 < extension)) :
      pair.1 < extension :=
    of_decide_eq_true (List.all_eq_true.mp List.all_takeWhile pair inside)
  have after (pair : String × String)
      (inside : pair ∈ (types.pairs.dropWhile (·.1 < extension)).filter (·.1 != extension)) :
      extension < pair.1 := by
    obtain ⟨listed, different⟩ := List.mem_filter.mp inside
    have other : pair.1 ≠ extension := by simpa using different
    refine Classical.byContradiction fun notAfter => other ?_
    exact String.le_antisymm notAfter (not_lt_of_mem_dropWhile types.ascending listed)
  refine List.pairwise_append.mpr ⟨front, List.pairwise_cons.mpr ⟨after, rest.filter _⟩, ?_⟩
  intro pair inside later listed
  rcases List.mem_cons.mp listed with rfl | beyond
  · exact before pair inside
  · exact across pair inside later (List.mem_filter.mp beyond).1

/-- Sets the content type of an extension, in place of the one it had. -/
def set (types : TypeMap) (extension mime : String) : TypeMap :=
  ⟨types.pairs.takeWhile (·.1 < extension) ++ (extension, mime) ::
    (types.pairs.dropWhile (·.1 < extension)).filter (·.1 != extension),
    types.ascending_set extension mime⟩

end TypeMap

/-- Settings of the asset server. -/
structure ServerConfig where
  root : String := "."
  host : String := "0.0.0.0"
  port : Nat := 3000
  defaultDocument : String := "index.html"
  extraTypes : TypeMap := .empty
  deriving Repr, DecidableEq

namespace ServerConfig

def contentTypes (config : ServerConfig) : List (String × String) := config.extraTypes.pairs

def withContentType (config : ServerConfig) (extension mime : String) : ServerConfig :=
  { config with extraTypes := config.extraTypes.set extension mime }

def address (config : ServerConfig) : String := bindAddress config.host config.port

/-- The largest port. -/
def portLimit : Nat := 65535

/-- Reads settings. Those that are not given have their default; those given must be of the right
kind. -/
def ofToml? (value : Toml.Value) : Option ServerConfig := do
  let record ← Toml.Record.ofValue? ["root", "host", "port", "default_document", "content_types"]
    value
  let default : ServerConfig := {}
  let types ← record.withDefault "content_types"
    (fun value => do
      (← value.table?).mapM fun (extension, mime) => do return (extension, ← mime.string?)) []
  let config : ServerConfig :=
    { root := ← record.withDefault "root" (·.string?) default.root
      host := ← record.withDefault "host" (·.string?) default.host
      port := ← record.withDefault "port" (·.natural? portLimit) default.port
      defaultDocument :=
        ← record.withDefault "default_document" (·.string?) default.defaultDocument }
  return types.foldl (fun config (extension, mime) => config.withContentType extension mime) config

end ServerConfig

/-- Settings of the offline cache and its proxy. -/
structure OfflineConfig where
  /-- Names the current store. -/
  version : String := "fort-boyard-v1"
  /-- Where the worker fetches from. -/
  origin : String := "http://localhost:3000"
  host : String := "127.0.0.1"
  port : Nat := 3001
  /-- The paths fetched into the cache when the worker is installed. -/
  precache : List String :=
    ["/", "/index.html", "/style.css", "/script.js", "/birthday.html", "/corporate.html",
      "/class-trip.html", "/graduation.html", "/contacts.html"]
  /-- The document that stands in for a navigation that failed. -/
  offlineFallback : String := "/index.html"
  skipWaitingOnInstall : Bool := true
  /-- The largest request body that the proxy accepts. -/
  maxBodyBytes : Nat := 8388608
  snapshot : Option String := none
  deriving Repr, DecidableEq

/-- What says where caches are kept: two variables, and the home directory that the system knows
for the account. -/
structure CacheEnvironment where
  xdgCacheHome : Option String
  home : Option String
  accountHome : Option String

/-- The directory for caches. One given by a relative path counts as none, and so does an empty
home; without a home it is the current directory. -/
def CacheEnvironment.directory (environment : CacheEnvironment) : String :=
  match environment.xdgCacheHome.filter Path.isAbsolute with
  | some directory => directory
  | none =>
    match (environment.home.filter (!·.isEmpty)).or environment.accountHome with
    | some home => Path.push home ".cache"
    | none => "."

namespace OfflineConfig

def address (config : OfflineConfig) : String := bindAddress config.host config.port

/-- Where the snapshot of the cache is kept. -/
def snapshotPath (config : OfflineConfig) (environment : CacheEnvironment) : String :=
  config.snapshot.getD
    (Path.push (Path.push environment.directory "fort-serve") "cache-storage.toml")

/-- The largest number of bytes that a setting can give. -/
def byteLimit : Nat := 0x7FFFFFFFFFFFFFFF

def ofToml? (value : Toml.Value) : Option OfflineConfig := do
  let record ← Toml.Record.ofValue? ["version", "origin", "host", "port", "precache",
    "offline_fallback", "skip_waiting_on_install", "max_body_bytes", "snapshot"] value
  let default : OfflineConfig := {}
  return {
    version := ← record.withDefault "version" (·.string?) default.version
    origin := ← record.withDefault "origin" (·.string?) default.origin
    host := ← record.withDefault "host" (·.string?) default.host
    port := ← record.withDefault "port" (·.natural? ServerConfig.portLimit) default.port
    precache := ← record.withDefault "precache" (·.list? (·.string?)) default.precache
    offlineFallback :=
      ← record.withDefault "offline_fallback" (·.string?) default.offlineFallback
    skipWaitingOnInstall :=
      ← record.withDefault "skip_waiting_on_install" (·.boolean?) default.skipWaitingOnInstall
    maxBodyBytes :=
      ← record.withDefault "max_body_bytes" (·.natural? byteLimit) default.maxBodyBytes
    snapshot := ← record.withDefault "snapshot" (fun value => value.string?.map some) none }

end OfflineConfig

/-- All settings. -/
structure AppConfig where
  server : ServerConfig := {}
  offline : OfflineConfig := {}
  deriving Repr, DecidableEq

/-- Reads settings from TOML. -/
def AppConfig.ofText? (text : String) : Option AppConfig := do
  let record ← Toml.Record.ofValue? ["server", "offline"] (.table (← Toml.parse? text))
  return {
    server := ← record.withDefault "server" ServerConfig.ofToml? {}
    offline := ← record.withDefault "offline" OfflineConfig.ofToml? {} }

/-- Reads settings from the content of a file. -/
def AppConfig.ofBytes (bytes : ByteArray) : Except Failure AppConfig := do
  match AppConfig.ofText? (← (textOf bytes).mapError .io) with
  | some config => return config
  | none => .error .config

/-- Reads settings from a file. Without one they are the defaults. -/
def AppConfig.load {m : Type → Type} [Monad m] (files : Files m) (path? : Option String) :
    ExceptT Failure m AppConfig := do
  match path? with
  | some path => ExceptT.mk (pure (AppConfig.ofBytes (← attempt (files.read path))))
  | none => return {}

end OfflineSite
