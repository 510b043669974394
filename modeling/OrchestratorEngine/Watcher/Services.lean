import OrchestratorEngine.WorkerLease.Probes

set_option autoImplicit false

namespace OrchestratorEngine.Watcher.Services

open WorkerLease

def serviceKind : String := "LOCAL_AI_ORCHESTRATOR_WATCHER_SERVICE"

def hostAdapters : List String := ["codex", "vscode"]

-- The state file of a service. A pid that is no number is absent, and so is an
-- identity that is no dictionary; a group may be left out or hold something else.
structure ServiceRecord where
  kind : Option String := some serviceKind
  supportedSchema : Bool := true
  status : Option String := none
  pid : Option Int := none
  processGroup : Option (Option Int) := none
  processIdentity : Option Identity := none
  action : Option String := none
  intervalSeconds : Option Rat := none
  targetThreadId : Option String := none
  stopReason : Option String := none
deriving DecidableEq

structure Sent where
  moment : Nat
  group : Int
  name : String
deriving DecidableEq

inductive ServiceError where
  | watcher (text : String)
  | system
  | overflow
  | fault (fault : StatFault)
deriving DecidableEq

-- What becomes of a child that is ended through its handle.
inductive Ending where
  | gone
  | terminates
  | killed
  | remains
  | refuses
deriving DecidableEq

inductive Status where
  | notStarted
  | running
  | degraded
  | stopped
  | crashed
deriving DecidableEq, Repr

inductive Reply where
  | started
  | ensured (changed : Bool)
  | stopped (reason : String)
  | notStarted
deriving DecidableEq

-- What the calls find around them: the process table at each look at it, the
-- health of the heartbeat of a live service, the binding of the project, what
-- seeding the state file from a legacy one answers, the child that a spawn would
-- give, and whether the record can be written.
structure Machine where
  bootId : Option String := none
  table : Nat → Int → Reading
  healthy : Nat → ServiceRecord → Bool
  bound : Option (Option String) := none
  inferredHost : Except String (Option String) := .ok none
  seeding : Except ServiceError Unit := .ok ()
  child : Option Int
  identityReader : Int → Option Identity
  writable : Bool := true
  ending : Ending := .terminates
  servicePath : String := "service.json"

structure World where
  file : Option ServiceRecord
  spawned : List Int := []
  signals : List Sent := []
  handled : List Sent := []
  now : Nat := 0
deriving DecidableEq

abbrev Outcome := World × Except ServiceError Reply

def World.later (world : World) : World := { world with now := world.now + 2 }

def World.refused (world : World) (text : String) : Outcome := (world, .error (.watcher text))

-- "os.kill(pid, 0)": a zombie still answers, and so does a process of another user,
-- and a pid that is no C int is an OverflowError, which nobody catches.
def processAlive (machine : Machine) (moment : Nat) : Option Int → Except ServiceError Bool
  | none => .ok false
  | some pid =>
      if pid ≤ 0 then .ok false
      else if 2 ^ 31 ≤ pid then .error .overflow
      else .ok (decide (machine.table moment pid ≠ .missing))

def serviceStatus (machine : Machine) (now : Nat) : Option ServiceRecord → Except ServiceError Status
  | none => .ok .notStarted
  | some record => do
      let identity ← (identityState machine.bootId machine.table now record.processIdentity).mapError .fault
      let alive ← if record.processIdentity.isSome then .ok (decide (identity.state = .alive))
        else processAlive machine now record.pid
      return if alive = true ∧ machine.healthy now record = true ∧ record.processIdentity.isSome = true then .running
        else if alive then .degraded
        else if record.status = some "stopped" then .stopped
        else .crashed

def unsupported (machine : Machine) (consequence : String) : Option ServiceRecord → Option String
  | none => none
  | some record =>
      if record.kind ≠ some serviceKind then some (machine.servicePath ++ " is not a watcher service state file")
      else if record.supportedSchema = false then
        some ("watcher service state uses an unsupported schema version" ++ consequence)
      else none

def markStopped (world : World) (record : ServiceRecord) (reason : String) : Outcome :=
  ({ world with file := some { record with status := some "stopped", stopReason := some reason } },
  .ok (.stopped reason))

def signal (world : World) (group : Int) (name : String) : World :=
  { world with signals := world.signals ++ [⟨world.now, group, name⟩] }

def recheck (machine : Machine) (record : ServiceRecord) (goneReason : String) (world : World)
    (next : World → Outcome) : Outcome :=
  match identityState machine.bootId machine.table world.now record.processIdentity with
  | .error fault => (world, .error (.fault fault))
  | .ok identity =>
      match identity.state with
      | .unknown => world.refused "watcher process identity became unverifiable"
      | .gone => markStopped world record goneReason
      | .alive => next world

def awaitTermination (machine : Machine) (record : ServiceRecord) (group : Int) : Nat → World → Outcome
  | 0, world =>
      recheck machine record "identity_changed" world fun world =>
        markStopped (signal world group "SIGKILL") record "killed"
  | polls + 1, world =>
      recheck machine record "terminated" world fun world => awaitTermination machine record group polls world.later

def stopServiceUnlocked (machine : Machine) (polls : Nat) (world : World) : Outcome :=
  match world.file with
  | none => (world, .ok .notStarted)
  | some record =>
      match unsupported machine "; refusing to mutate state or signal its recorded process" (some record) with
      | some text => world.refused text
      | none =>
          match processAlive machine world.now record.pid with
          | .error failure => (world, .error failure)
          | .ok false => markStopped world.later record "not_alive"
          | .ok true =>
            let world := world.later
            match identityState machine.bootId machine.table world.now record.processIdentity with
            | .error fault => (world, .error (.fault fault))
            | .ok identity =>
                if identity.state = .gone then markStopped world record "identity_gone"
                else if identity.state ≠ .alive ∨ identity.identityVerified = false then
                  world.refused ("refusing to signal watcher service without a verified process identity; " ++
                    "stop the legacy process explicitly, then start a new service")
                else
                  match record.processGroup.getD record.pid with
                  | none => world.refused "watcher service state has invalid process_group"
                  | some group =>
                      if some group ≠ record.pid then
                        world.refused "watcher service process_group must equal its pid"
                      else
                        recheck machine record "identity_changed" world.later fun world =>
                          awaitTermination machine record group polls (signal world group "SIGTERM").later

structure Settings where
  interval : Rat
  action : String
  target : Option String
  host : Option String
deriving DecidableEq

structure Request where
  interval : Option Rat := none
  action : Option String := none
  target : Option String := none
  host : Option String := none
  serviceFile : Bool := false
deriving DecidableEq

def refusal (machine : Machine) (settings : Settings) : Option String :=
  if settings.interval ≤ 0 then some "interval must be positive"
  else if settings.action = "current-thread-callback" ∧ (settings.target = none ∨ settings.target = some "") then
    some "target thread id is required for current-thread-callback"
  else if settings.host ≠ none ∧ settings.action ≠ "callback" then some "--host is only valid with --action callback"
  else if settings.action = "callback" ∧ settings.host.any (fun host => decide (host ∉ hostAdapters)) = true then
    some ("host " ++ settings.host.getD "None" ++ " does not support callback wakeups; " ++
      "use `watcher stream` from the host chat instead")
  else if settings.action = "current-thread-callback" ∧
      machine.bound.any (fun host => host.all fun host => decide (host ∉ hostAdapters)) = true then
    some ("binding host '" ++ (machine.bound.bind id).getD "None" ++ "' wakes via `watcher stream`; a '" ++
      settings.action ++ "' service cannot wake it — arm a stream watch from the host chat, or rebind with " ++
      "`bind --host codex --thread-id ...` first")
  else none

def handle (world : World) (pid : Int) (name : String) : World :=
  { world with handled := world.handled ++ [⟨world.now, pid, name⟩] }

-- The handle of the child proves that it is the process that was spawned. A child
-- that has ended is sent nothing.
def terminateSpawnedProcess (machine : Machine) (pid : Int) (world : World) : World × Bool :=
  match machine.ending with
  | .gone => (world, true)
  | .refuses => (world, false)
  | .terminates => (handle world pid "SIGTERM", true)
  | .killed => (handle (handle world pid "SIGTERM").later pid "SIGKILL", true)
  | .remains => (handle (handle world pid "SIGTERM").later pid "SIGKILL", false)

def launch (machine : Machine) (settings : Settings) (world : World) : Outcome :=
  match machine.seeding, machine.child with
  | .error failure, _ => (world, .error failure)
  | .ok (), none => (world, .error .system)
  | .ok (), some pid =>
      let spawned := { world with spawned := world.spawned ++ [pid] }
      match machine.identityReader pid with
      | none =>
          match terminateSpawnedProcess machine pid spawned with
          | (ended, true) => ended.refused ("watcher service started but its process identity could not be " ++
              "recorded; the child was terminated and no service state was written")
          | (ended, false) => ended.refused ("watcher service process identity could not be recorded and " ++
              "the spawned child could not be terminated")
      | some identity =>
          if machine.writable = false then
            match terminateSpawnedProcess machine pid spawned with
            | (ended, true) => (ended, .error .system)
            | (ended, false) => ended.refused ("watcher service state could not be written and the spawned " ++
                "child could not be terminated")
          else
            ({ spawned with file := some {
                status := some "running"
                pid := some pid
                processGroup := some (some pid)
                processIdentity := some identity
                action := some settings.action
                intervalSeconds := some settings.interval
                targetThreadId := settings.target } }, .ok .started)

def startServiceUnlocked (machine : Machine) (polls : Nat) (settings : Settings) (replace : Bool) (world : World) :
    Outcome :=
  match refusal machine settings with
  | some text => world.refused text
  | none =>
      let existing := world.file.bind ServiceRecord.pid
      match processAlive machine world.now existing with
      | .error failure => (world, .error failure)
      | .ok false => launch machine settings world.later
      | .ok true =>
        if replace = false then
          world.later.refused ("watcher service is already running with pid " ++ toString (existing.getD 0) ++
            "; use service restart or --replace")
        else
          match stopServiceUnlocked machine polls world.later with
          | (stopped, .error failure) => (stopped, .error failure)
          | (stopped, .ok _) => launch machine settings stopped

def nonempty (text : Option String) : Option String := text.filter fun text => decide (text ≠ "")

-- "_ensure_service_host" is asked for an unscoped call only.
def ensuredHost (machine : Machine) (request : Request) : Except String (Option String) :=
  if request.host = none ∧ request.serviceFile = false ∧ (request.action = none ∨ request.action = some "callback") then
    machine.inferredHost
  else .ok request.host

def ensuredSettings (request : Request) (host : Option String) (existing : Option ServiceRecord) : Settings where
  interval := ((request.interval.or (existing.bind ServiceRecord.intervalSeconds)).filter fun interval =>
    decide (interval ≠ 0)).getD 5
  action := (nonempty (request.action.or (existing.bind ServiceRecord.action))).getD
    (if (nonempty host).isSome then "callback" else "notify")
  target := request.target.or (nonempty (existing.bind ServiceRecord.targetThreadId))
  host := host

def ensureService (machine : Machine) (request : Request) (world : World) : Outcome :=
  match ensuredHost machine request with
  | .error text => world.refused text
  | .ok host =>
      match serviceStatus machine world.now world.file with
      | .error failure => (world, .error failure)
      | .ok .running => (world, .ok (.ensured false))
      | .ok .degraded => world.refused ("watcher service is degraded while its process is still alive; " ++
          "inspect service status and use service restart explicitly")
      | .ok _ =>
          match unsupported machine "" world.file with
          | some text => world.refused text
          | none =>
              match startServiceUnlocked machine 0 (ensuredSettings request host world.file) false world.later with
              | (started, .ok _) => (started, .ok (.ensured true))
              | (raced, .error (.watcher text)) =>
                  match serviceStatus machine raced.now raced.file with
                  | .error failure => (raced, .error failure)
                  | .ok .running => (raced, .ok (.ensured false))
                  | .ok _ => raced.refused text
              | (failed, .error failure) => (failed, .error failure)

def restartedSettings (request : Request) (existing : Option ServiceRecord) : Settings where
  interval := (request.interval.or (existing.bind ServiceRecord.intervalSeconds)).getD 5
  action := (nonempty (request.action.or (existing.bind ServiceRecord.action))).getD "notify"
  target := request.target.or (nonempty (existing.bind ServiceRecord.targetThreadId))
  host := request.host

def restartService (machine : Machine) (polls again : Nat) (request : Request) (world : World) : Outcome :=
  match unsupported machine "" world.file with
  | some text => world.refused text
  | none =>
      match stopServiceUnlocked machine polls world with
      | (stopped, .error failure) => (stopped, .error failure)
      | (stopped, .ok _) =>
          startServiceUnlocked machine again (restartedSettings request world.file) true stopped.later

end OrchestratorEngine.Watcher.Services
