import OfflineSite.Asset.Server
import OfflineSite.CommandLine
import OfflineSite.Worker.Basic

namespace OfflineSite

/-- What the program needs of the machine that it runs on, which lets its services last until they
are to stop. -/
structure Machine (m : Type → Type) where
  files : Files m
  environment : CacheEnvironment
  now : m Timestamp
  log : LogRecord → m Unit
  /-- An address that is listened on. -/
  Listener : Type
  listen : String → Nat → m (Except IoFailure Listener)
  /-- Serves assets. -/
  serveAssets : Asset.Settings → Listener → m (Except IoFailure Unit)
  /-- Installs a worker, serves its proxy, retires the worker and waits for its fetches in the
  background. What is left is the state then. -/
  serveProxy : Worker → Worker.State → Listener → m (Except IoFailure Worker.State)

end OfflineSite
