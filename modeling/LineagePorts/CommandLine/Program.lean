import LineagePorts.CommandLine.Arguments
import LineagePorts.Config.Toml
import LineagePorts.LogFilter
import LineagePorts.Request.Apply
import LineagePorts.Wiring

/-!
# The command line program

What a run of the program prints, how it ends, and what it leaves on the disk. A batch is applied
request by request, each with its own line; a request that fails does not stop the batch.
-/

namespace LineagePorts.CommandLine

/-- Why a run fails. -/
inductive RunError where
  | config (e : ConfigError)
  | logFilter (f : LogFilter.Fault)
  | noExternalSource
  | build (e : WiringError)
  | unreadableRequests (path : String)
  | unreadableBatch
  | requestsFailed (failed total : Nat)
  | request (e : RequestError)
  | noEntity (id : EntityId)
deriving DecidableEq

def RunError.message : RunError → String
  | .config e => e.message
  | .logFilter _ => "invalid log filter"
  | .noExternalSource => "no external source given and none configured"
  | .build e => e.message
  | .unreadableRequests path => "cannot read requests file " ++ path
  | .unreadableBatch => Request.unreadableBatch
  | .requestsFailed failed total =>
    String.ofList (Text.decimal failed) ++ " of " ++ String.ofList (Text.decimal total) ++
      " requests failed"
  | .request e => e.message
  | .noEntity id => "no entity with guid " ++ id.text

/-- A log filter with a part that splits a character breaks the run off before it says anything. -/
def RunError.isSilent : RunError → Bool
  | .logFilter .splitCharacter => true
  | _ => false

/-- What a run is given beside its arguments: identifiers for the configured sources, and for each
call of each request a stamp and what the disk does. -/
structure Supply where
  source : Nat → SourceId
  stamp : Nat → Nat → Stamp
  fault : Nat → Nat → Option SaveFault

/-- A supply from one clock reading and one random number. Each pair of a request and a call has a
number of its own. -/
def Supply.ofClock (now : Instant) (random : Nat) (fault : Option SaveFault) : Supply where
  source n := ⟨.ofParts now.milliseconds (random + n)⟩
  stamp n k := .ofClock now (random + 2 * ((n + k) * (n + k + 1) / 2 + k))
  fault _ _ := fault

/-- What a run prints, line by line, whether it fails, and the disk that it leaves. -/
structure Report where
  lines : List String
  error : Option RunError
  disk : FileSystem

namespace Report

/-- The failure that the run reports. -/
def complaint (r : Report) : Option RunError := r.error.filter fun e => !e.isSilent

/-- A run that breaks off ends with 101, and one that reports a failure with 1. -/
def exitCode (r : Report) : UInt32 :=
  match r.error with
  | none => 0
  | some e => if e.isSilent then 101 else 1

end Report

/-- The disk of a store that may be kept in a file. -/
def diskOf (disk : FileSystem) : Backend → FileSystem
  | .memory _ => disk
  | .file f => f.disk

/-- What the n-th request is given. -/
def surroundings (registry : Registry) (supply : Supply) (n : Nat) : Surroundings :=
  ⟨registry, supply.stamp n, supply.fault n⟩

/-- Applies requests in order, where the first of them is number `n`. -/
def applyAll (user source : String) (registry : Registry) (supply : Supply) :
    Nat → Backend → List Request → List Outcome × Backend
  | _, backend, [] => ([], backend)
  | n, backend, request :: rest =>
    let (outcome, desk) :=
      Request.applyAt user source (surroundings registry supply n) backend request
    let (outcomes, backend) := applyAll user source registry supply (n + 1) desk.backend rest
    (outcome :: outcomes, backend)

def batchError (outcomes : List Outcome) : Option RunError :=
  let failed := outcomes.countP Outcome.isFailure
  if failed = 0 then none else some (.requestsFailed failed outcomes.length)

/-- A configured program: its wired parts and in whose name it acts. -/
structure Session where
  wired : Wired
  user : String
  source : String

def loadConfig (path : String) (disk : FileSystem) : Except ConfigError Config :=
  match disk.read path with
  | .error _ => .error (.unreadable path)
  | .ok text => Config.ofToml text

/-- The source of the arguments, or else the first one of the configuration. -/
def chooseSource (a : Arguments) (c : Config) : Except RunError String :=
  match a.externalSource.or (c.externalSources.head?.map SourceConfig.qualifiedName) with
  | some source => .ok source
  | none => .error .noExternalSource

def prepare (a : Arguments) (disk : FileSystem) (source : Nat → SourceId) :
    Except RunError Session := do
  let c ← (loadConfig a.config disk).mapError .config
  (LogFilter.check c.logFilter).mapError .logFilter
  let chosen ← chooseSource a c
  let wired ← (c.wire disk source).mapError .build
  return ⟨wired, a.user.getD c.userId, chosen⟩

def apply (s : Session) (path : String) (disk : FileSystem) (supply : Supply) : Report :=
  match disk.read path with
  | .error _ => ⟨[], some (.unreadableRequests path), disk⟩
  | .ok text =>
    match Request.readBatch text with
    | none => ⟨[], some .unreadableBatch, disk⟩
    | some requests =>
      let (outcomes, backend) :=
        applyAll s.user s.source s.wired.registry supply 0 s.wired.backend requests
      ⟨outcomes.map fun o => Json.compact o.toData, batchError outcomes, diskOf disk backend⟩

def find (s : Session) (qualifiedName : String) (disk : FileSystem) (supply : Supply) : Report :=
  let around := surroundings s.wired.registry supply 0
  match ((Request.describePort s.user qualifiedName).perform around ⟨s.wired.backend, []⟩).1 with
  | .error e => ⟨[], some (.request (.port e)), disk⟩
  | .ok outcome => ⟨[Json.pretty outcome.toData], none, disk⟩

def get (s : Session) (guid : String) (disk : FileSystem) : Report :=
  match Parameter.readId guid "guid" "get" with
  | .error e => ⟨[], some (.request (.port e)), disk⟩
  | .ok id =>
    match s.wired.backend.store.entities.get? id with
    | none => ⟨[], some (.noEntity id), disk⟩
    | some e => ⟨[Json.pretty e.toData], none, disk⟩

def run (a : Arguments) (disk : FileSystem) (supply : Supply) : Report :=
  match prepare a disk supply.source with
  | .error e => ⟨[], some e, disk⟩
  | .ok s =>
    match a.command with
    | .apply path => apply s path disk supply
    | .show qualifiedName => find s qualifiedName disk supply
    | .get guid => get s guid disk

end LineagePorts.CommandLine
