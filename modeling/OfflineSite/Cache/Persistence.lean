import OfflineSite.Cache.Snapshot
import OfflineSite.Files

namespace OfflineSite.Cache.Storage

/-- The temporary file that becomes the snapshot. -/
def temporaryPath (path : String) : String := Path.withExtension path "toml.tmp"

/-- Writes a file as a whole, by way of a temporary one. -/
def replace {m : Type → Type} [Monad m] (files : Files m) (path : String) (bytes : ByteArray) :
    ExceptT Failure m Unit := do
  attempt (files.write (temporaryPath path) bytes)
  attempt (files.rename (temporaryPath path) path)

/-- Writes the storage to a file. Missing directories are made. The result is the storage as it is
after that. A temporary file next to the snapshot is written and renamed, so the snapshot is
replaced as a whole or not at all. -/
def save {m : Type → Type} [Monad m] (files : Files m) (storage : Storage) (path : String)
    (now : Timestamp) : ExceptT Failure m Storage := do
  let (snapshot, storage) := (Snapshot.take now).run storage
  if let some parent := (Path.parentText? path).filter (!·.isEmpty) then
    attempt (files.makeDirectories parent)
  replace files path snapshot.toml.toUTF8
  return storage

/-- Reads a storage from the content of a file. -/
def ofBytes (bytes : ByteArray) : Except Failure Storage := do
  let text ← (textOf bytes).mapError .io
  match Snapshot.ofText? text with
  | some snapshot => snapshot.toStorage.mapError .snapshot
  | none => .error (.snapshot .shape)

/-- Reads a storage from a file. -/
def load {m : Type → Type} [Monad m] (files : Files m) (path : String) :
    ExceptT Failure m Storage := do
  match ofBytes (← attempt (files.read path)) with
  | .ok storage => return storage
  | .error failure => throw failure

/-- Reads a storage from a file, or takes an empty one where no file is. -/
def loadOrEmpty {m : Type → Type} [Monad m] (files : Files m) (path : String) :
    ExceptT Failure m Storage := do
  if ← files.isPresent path then load files path else return .empty

end OfflineSite.Cache.Storage
