import OrchestratorEngine.Foundation.Dict
import OrchestratorEngine.Foundation.Threads

set_option autoImplicit false

namespace OrchestratorEngine.Workers

open Foundation

inductive TerminalStatus where
  | completed | failed | timedOut | rateLimited | invalidResult | cancelled
deriving DecidableEq, Repr

inductive Status where
  | queued | starting | running | cancelling
  | terminal (status : TerminalStatus)
deriving DecidableEq, Repr

def Status.isTerminal : Status → Bool
  | .terminal _ => true
  | _ => false

def Status.active (status : Status) : Bool := decide (status ∈ [.starting, .running, .cancelling])

inductive Error where
  | worker (message : String)
  | core (message : String)
  | lease (message : String)
  | os (message : String)
  | missingKey (key : String)
deriving DecidableEq, Repr

def Error.suppressed : Error → Bool
  | .worker _ | .core _ | .os _ => true
  | .lease _ | .missingKey _ => false

structure WorkerConfig where
  command : String
  maxConcurrent : Option Nat
deriving DecidableEq, Repr

structure ExecutionSnapshot where
  worker : String
  config : WorkerConfig
deriving DecidableEq, Repr

structure Fingerprint where
  worker : String
  promptSha256 : String
  workerPolicy : Option String
  intentSha256 : Option String
  command : String
deriving DecidableEq, Repr

structure DuplicateOverride where
  reason : String
  activeConflicts : List String
deriving DecidableEq, Repr

structure RetryLineage where
  parentTaskId : String
  notBefore : Int
deriving DecidableEq, Repr

-- task.json. The exclusive create of a dispatch writes an empty object.
structure Descriptor where
  taskId : Option String := none
  worker : Option String := none
  status : Option Status := none
  createdAt : Option Int := none
  promptSha256 : Option String := none
  workerPolicy : Option String := none
  wakePolicy : Option String := none
  wakeTarget : Option String := none
  executionSnapshot : Option ExecutionSnapshot := none
  leaseRequired : Bool := false
  lineage : Option RetryLineage := none
  fingerprint : Option Fingerprint := none
  dispatchClaim : Option (Fingerprint × String) := none
  duplicateOverride : Option DuplicateOverride := none
  queuedAt : Option Int := none
  admittedAt : Option Int := none
  queueLastError : Option String := none
  supervisorPid : Option Nat := none
  workerPid : Option Nat := none
  lastAliveAt : Option Int := none
  finishedAt : Option Int := none
  signalEmitted : Option Bool := none
deriving DecidableEq, Repr

structure WorkerResult where
  worker : String
  terminalStatus : TerminalStatus
  exitCode : Option Int
  failureReason : Option String
  startedAt : Option Int
  finishedAt : Int
deriving DecidableEq, Repr

-- result.json: a writer that died may have left part of it.
inductive ResultFile where
  | readable (result : WorkerResult)
  | torn (raw : String)
deriving DecidableEq, Repr

structure Evidence where
  worker : String
  finishedAt : Int
  wakePolicy : String
  recovery : Option String := none
  quarantined : Option String := none
deriving DecidableEq, Repr

structure TerminalEvent where
  taskId : String
  terminalStatus : TerminalStatus
  result : ResultFile
  evidence : Evidence
  wakeTarget : Option String
  createdAt : Int
deriving DecidableEq, Repr

structure TerminalSignal where
  taskId : String
  terminalStatus : TerminalStatus
  wakeTarget : Option String
  createdAt : Int
deriving DecidableEq, Repr

inductive LeaseStatus where
  | held | released
deriving DecidableEq, Repr

structure Lease where
  status : LeaseStatus
  worker : String
  supervisorIdentity : Option Nat
  workerPid : Option Nat := none
  workerIdentity : Option Nat := none
  expiry : Option Int
  acquiredAt : Int
  renewedAt : Int
deriving DecidableEq, Repr

inductive CancelMode where
  | graceful | forced
deriving DecidableEq, Repr

structure CancelRequest where
  mode : CancelMode
  reason : String
deriving DecidableEq, Repr

structure QueueEntry where
  taskId : String
  worker : String
  queuedAt : Int
  supervisorPid : Option Nat := none
deriving DecidableEq, Repr

structure TaskFiles where
  descriptor : Option Descriptor := none
  result : Option ResultFile := none
  evidence : Option Evidence := none
  quarantine : List String := []
  event : Option TerminalEvent := none
  signal : Option TerminalSignal := none
  lease : Option Lease := none
  cancelRequest : Option CancelRequest := none
  pending : Option QueueEntry := none
  admitted : Option QueueEntry := none
  cancelled : Option QueueEntry := none
  publisher : Option Nat := none
deriving DecidableEq, Repr

structure Claim where
  taskId : String
  worker : String
deriving DecidableEq, Repr

structure Spawn where
  taskId : String
  worker : String
  spawnedAt : Int
deriving DecidableEq, Repr

inductive WorkerState where
  | running
  | exited (code : Option Int)
deriving DecidableEq, Repr

structure WorkerProcess where
  taskId : String
  state : WorkerState
deriving DecidableEq, Repr

structure Engine where
  clock : Int
  tasks : Dict String TaskFiles := Dict.empty
  claims : Dict (Fingerprint × String) Claim := Dict.empty
  claimHistory : Dict String Claim := Dict.empty
  admission : Option Nat := none
  -- Every process, by number: the supervisors with their spawn.
  processes : List (Option Spawn) := []
  -- The processes that still exist.
  live : List Nat := []
  workers : List WorkerProcess := []
deriving DecidableEq

structure Site where
  workers : String → Option WorkerConfig
  maxConcurrent : Option Nat

abbrev Program (α : Type) := Thread Engine Error α

def Engine.task (engine : Engine) (taskId : String) : TaskFiles := (engine.tasks.get? taskId).getD {}

def Engine.setTask (engine : Engine) (taskId : String) (files : TaskFiles) : Engine :=
  { engine with tasks := engine.tasks.set taskId files }

def Engine.modify (engine : Engine) (taskId : String) (change : TaskFiles → TaskFiles) : Engine :=
  engine.setTask taskId (change (engine.task taskId))

def askTask {α : Type} (taskId : String) (query : TaskFiles → α) : Program α :=
  Thread.ask fun engine => query (engine.task taskId)

def writeTask (taskId : String) (change : TaskFiles → TaskFiles) : Program Unit :=
  Thread.write fun engine => engine.modify taskId change

def utcNow : Program Int := Thread.ask Engine.clock

def putDescriptor (taskId : String) (descriptor : Descriptor) : Program Unit :=
  writeTask taskId fun files => { files with descriptor := some descriptor }

def loadDescriptor (taskId : String) : Program Descriptor := do
  match ← askTask taskId TaskFiles.descriptor with
  | some descriptor => return descriptor
  | none => Thread.fail (.core "file not found: task.json")

def suppressing (body : Program Unit) : Program Unit := do
  match ← Thread.attempt body with
  | .ok done => return done
  | .error error => if error.suppressed then return () else Thread.fail error

@[simp] theorem task_modify (engine : Engine) (taskId other : String) (change : TaskFiles → TaskFiles) :
    (engine.modify taskId change).task other =
      if other = taskId then change (engine.task taskId) else engine.task other := by
  simp only [Engine.modify, Engine.setTask, Engine.task, Dict.get_set]
  by_cases same : other = taskId
  · simp [same]
  · simp [same]

@[simp] theorem journal_ask_task {α : Type} (taskId : String) (query : TaskFiles → α) :
    Thread.journal (askTask taskId query) = Journal.ask fun engine => query (engine.task taskId) := rfl

@[simp] theorem journal_write_task (taskId : String) (change : TaskFiles → TaskFiles) :
    Thread.journal (writeTask taskId change) = Journal.write fun engine => engine.modify taskId change := rfl

@[simp] theorem journal_utc_now : Thread.journal utcNow = Journal.ask Engine.clock := rfl

end OrchestratorEngine.Workers
