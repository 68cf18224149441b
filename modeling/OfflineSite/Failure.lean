import OfflineSite.IoFailure
import OfflineSite.Json.Failure
import OfflineSite.Text.Base64
import OfflineSite.Url.Failure

namespace OfflineSite

/-- What is wrong with a snapshot of the cache. -/
inductive SnapshotFailure where
  /-- It is not TOML, or not of the right shape. -/
  | shape
  /-- The body of an entry is not base64. -/
  | body (url : String) (cause : Base64.Failure)
  deriving Repr, DecidableEq

/-- Why serving assets or running the offline cache failed. -/
inductive Failure where
  | io (cause : IoFailure)
  /-- An address cannot be listened on. -/
  | bind (address : String) (cause : IoFailure)
  /-- A request got no response. -/
  | network (reason : String)
  | config
  | snapshot (cause : SnapshotFailure)
  | invalidUrl (text : String) (cause : UrlFailure)
  | message (cause : Json.Failure)
  deriving Repr, DecidableEq

namespace Failure

/-- The kind of a failure, as the command line reports it. -/
def kind : Failure → String
  | io _ => "Io"
  | bind _ _ => "Bind"
  | network _ => "Network"
  | config => "Config"
  | snapshot _ => "Snapshot"
  | invalidUrl _ _ => "InvalidUrl"
  | message _ => "Message"

def text : Failure → String
  | io cause => s!"I/O error: {cause.message}"
  | bind address cause => s!"Failed to bind {address}: {cause.message}"
  | network reason => s!"Network error: {reason}"
  | config => "Invalid configuration"
  | snapshot .shape => "Cache snapshot error"
  | snapshot (.body url cause) => s!"Cache snapshot error: {url}: {cause.message}"
  | invalidUrl text cause => s!"Invalid URL: {text}: {cause.message}"
  | message cause => s!"Invalid control message: {cause.message}"

end Failure

end OfflineSite
