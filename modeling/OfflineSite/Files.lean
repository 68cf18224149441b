import OfflineSite.Failure
import OfflineSite.Path

namespace OfflineSite

/-- A place that holds files. Renaming replaces the file that was there in one step. -/
structure Files (m : Type → Type) where
  /-- Whether anything is there under the path. -/
  isPresent : String → m Bool
  read : String → m (Except IoFailure ByteArray)
  /-- Makes a directory and those above it that are missing. -/
  makeDirectories : String → m (Except IoFailure Unit)
  write : String → ByteArray → m (Except IoFailure Unit)
  rename : String → String → m (Except IoFailure Unit)

/-- The files as seen from a directory, where relative paths start. -/
def Files.under {m : Type → Type} (files : Files m) (directory : String) : Files m :=
  let place (path : String) : String := if path.isEmpty then path else Path.push directory path
  { isPresent := fun path => files.isPresent (place path)
    read := fun path => files.read (place path)
    makeDirectories := fun path => files.makeDirectories (place path)
    write := fun path => files.write (place path)
    rename := fun source target => files.rename (place source) (place target) }

/-- Runs an operation of the system as a step that may fail. -/
def attempt {m : Type → Type} [Monad m] {α : Type} (act : m (Except IoFailure α)) :
    ExceptT Failure m α :=
  ExceptT.mk do return (← act).mapError .io

/-- The content of a file as text, which it must be. -/
def textOf (bytes : ByteArray) : Except IoFailure String :=
  match String.fromUTF8? bytes with
  | some text => .ok text
  | none => .error .notUtf8

end OfflineSite
