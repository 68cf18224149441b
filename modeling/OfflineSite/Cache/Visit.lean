import OfflineSite.Cache.Storage

namespace OfflineSite.Cache

/-- Where an opening stands. A store is looked for while others may look as well. Only if there is
none it is looked for once more, now alone, and added if there is still none. -/
inductive Opening where
  | looking (name : String)
  | adding (name : String)
  | opened (name : String) (handle : Handle)
  deriving Repr, DecidableEq

/-- Where the matching of a request stands, with the stores it has still to ask. -/
inductive Matching where
  | listing (key : Key)
  | asking (key : Key) (handles : List Handle)
  | matched (key : Key) (response : Option FetchResponse)

namespace Storage

/-- The handles of the stores in order of their names. -/
def handles (storage : Storage) : List Handle := storage.names.toList.map (·.2)

end Storage

namespace Opening

def name : Opening → String
  | looking name | adding name | opened name _ => name

/-- The next step. A store that was added since the first look is found by the second one. -/
def step (storage : Storage) : Opening → Opening × Storage
  | looking name =>
    match storage.find? name with
    | some handle => (opened name handle, storage)
    | none => (adding name, storage)
  | adding name =>
    match storage.find? name with
    | some handle => (opened name handle, storage)
    | none =>
      let (handle, storage) := storage.create name
      (opened name handle, storage)
  | opened name handle => (opened name handle, storage)

/-- How many steps are still to come at most. -/
def left : Opening → Nat
  | looking _ => 2
  | adding _ => 1
  | opened _ _ => 0

end Opening

namespace Matching

def key : Matching → Key
  | listing key | asking key _ | matched key _ => key

/-- The next step. A store is asked as it is when its turn comes, even if it was deleted since. -/
def step (storage : Storage) : Matching → Matching
  | listing key => asking key storage.handles
  | asking key [] => matched key none
  | asking key (handle :: handles) =>
    match (storage.store handle).get? key with
    | some response => matched key (some response)
    | none => asking key handles
  | matched key response => matched key response

end Matching

inductive Visit where
  | opening (stage : Opening)
  | matching (stage : Matching)

namespace Visit

def step (storage : Storage) : Visit → Visit × Storage
  | opening stage => (opening (stage.step storage).1, (stage.step storage).2)
  | matching stage => (matching (stage.step storage), storage)

end Visit

end OfflineSite.Cache
