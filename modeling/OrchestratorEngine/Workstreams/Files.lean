import OrchestratorEngine.Continuity.Queries
import OrchestratorEngine.Foundation.Journal

set_option autoImplicit false

namespace OrchestratorEngine.Workstreams

open Foundation

inductive Decision where
  | continues | waitingExternal | needsUser | blocked | complete | paused
deriving DecidableEq, Repr

inductive Status where
  | active | waitingExternal | needsUser | blocked | complete | paused
deriving DecidableEq, Repr

inductive Error where
  | workstream (message : String)
  | core (message : String)
  | missingKey (key : String)
deriving DecidableEq, Repr

def Decision.automatic (decision : Decision) : Bool := decide (decision ∈ [.continues, .waitingExternal])

def Decision.status : Decision → Status
  | .continues => .active
  | .waitingExternal => .waitingExternal
  | .needsUser => .needsUser
  | .blocked => .blocked
  | .complete => .complete
  | .paused => .paused

def continuationOperationId (workstreamId checkpointId : String) : String :=
  "workstream:" ++ workstreamId ++ ":" ++ checkpointId

def validateId (value field : String) : Except Error Unit :=
  refuse (Continuity.validEventId value = false) (.workstream ("invalid " ++ field ++ ": " ++ value))

structure EventId where
  operationId : String
deriving DecidableEq, Repr

def followupEventId (operationId : String) : EventId := ⟨operationId⟩

structure Scheduled where
  notBefore : Int
  operationId : String
  eventId : EventId
deriving DecidableEq, Repr

structure Checkpoint where
  checkpointId : String
  sequence : Nat
  decision : Decision
  requestedDecision : Decision
  summary : String
  createdAt : Int
  nextAction : Option String
  waitingOn : Option String
  reason : Option String
  wakeTarget : Option String
  scheduled : Option Scheduled
deriving DecidableEq, Repr

structure ActiveContinuation where
  checkpointId : String
  sequence : Nat
  eventId : EventId
  notBefore : Int
deriving DecidableEq, Repr

structure Descriptor where
  status : Status
  checkpointCount : Nat
  continuationCount : Nat
  continuationStateVersion : Nat
  maxContinuations : Option Nat
  maxWallSeconds : Option Nat
  delay : Int
  createdAt : Int
  updatedAt : Int
  wakeTarget : Option String
  latestCheckpointId : Option String := none
  activeContinuation : Option ActiveContinuation := none
  lastScheduledEventId : Option EventId := none
  lastScheduledWakeAt : Option Int := none
  waitingOn : Option String := none
  reason : Option String := none
deriving DecidableEq, Repr

structure ResultArtifact where
  checkpointId : String
  summary : String
  nextAction : Option String
  notBefore : Int
deriving DecidableEq, Repr

structure EvidenceArtifact where
  checkpointId : String
  createdAt : Int
deriving DecidableEq, Repr

structure Event where
  eventId : EventId
  operationId : String
  result : ResultArtifact
  evidence : EvidenceArtifact
  wakeTarget : Option String
  notBefore : Int
  createdAt : Int
deriving DecidableEq, Repr

structure SignalFile where
  eventId : EventId
  operationId : String
  wakeTarget : Option String
  notBefore : Int
  createdAt : Int
deriving DecidableEq, Repr

structure Files where
  descriptor : Option Descriptor := none
  checkpoints : Dict String Checkpoint := Dict.empty
  results : Dict String ResultArtifact := Dict.empty
  evidence : Dict String EvidenceArtifact := Dict.empty
  events : Dict EventId Event := Dict.empty
  signals : Dict EventId SignalFile := Dict.empty
deriving DecidableEq

abbrev Program (α : Type) := Journal Files Error α

def putDescriptor (descriptor : Descriptor) (files : Files) : Files := { files with descriptor := some descriptor }

def loadWorkstream : Program Descriptor := do
  match ← Journal.ask Files.descriptor with
  | some descriptor => return descriptor
  | none => Journal.raise (.core "workstream.json is missing")

def wallLimitReason (descriptor : Descriptor) (now : Int) : Option String :=
  match descriptor.maxWallSeconds with
  | none => none
  | some limit =>
      if (limit : Int) * 1000 ≤ now - descriptor.createdAt then
        some "maximum automatic continuation wall time reached"
      else none

def limitReason (descriptor : Descriptor) (now : Int) : Option String :=
  if descriptor.maxContinuations.any fun limit => decide (limit ≤ descriptor.continuationCount) then
    some "maximum automatic continuations reached"
  else wallLimitReason descriptor now

def Descriptor.applied (descriptor : Descriptor) (checkpoint : Checkpoint) : Except Error Descriptor := do
  let base := { descriptor with
    status := checkpoint.decision.status
    checkpointCount := checkpoint.sequence
    latestCheckpointId := some checkpoint.checkpointId
    updatedAt := checkpoint.createdAt
    continuationCount := descriptor.continuationCount + if checkpoint.decision.automatic then 1 else 0
    continuationStateVersion := 1
    activeContinuation := none
    lastScheduledEventId := none
    lastScheduledWakeAt := none
    waitingOn := if checkpoint.decision = .waitingExternal then checkpoint.waitingOn else none }
  if checkpoint.decision = .continues then
    match checkpoint.scheduled with
    | none => .error (.missingKey "event_id")
    | some scheduled => .ok { base with
        activeContinuation := some ⟨checkpoint.checkpointId, checkpoint.sequence, scheduled.eventId,
        scheduled.notBefore⟩
        lastScheduledEventId := some scheduled.eventId
        lastScheduledWakeAt := some scheduled.notBefore }
  else if checkpoint.decision = .waitingExternal ∧ checkpoint.waitingOn = none then .error (.missingKey "waiting_on")
  else .ok base

def applyCheckpoint (descriptor : Descriptor) (checkpoint : Checkpoint) : Program Descriptor := do
  if checkpoint.sequence ≤ descriptor.checkpointCount then return descriptor
  else do
    Journal.require (descriptor.status = .complete)
      (.workstream ("completed workstream cannot apply checkpoint sequence " ++ toString checkpoint.sequence))
    Journal.require (checkpoint.sequence ≠ descriptor.checkpointCount + 1)
      (.workstream ("checkpoint sequence gap: expected " ++ toString (descriptor.checkpointCount + 1) ++ ", found " ++
        toString checkpoint.sequence))
    let applied ← Journal.lift (descriptor.applied checkpoint)
    Journal.write (putDescriptor applied)
    return applied

def Checkpoint.result (checkpoint : Checkpoint) (scheduled : Scheduled) : ResultArtifact :=
  ⟨checkpoint.checkpointId, checkpoint.summary, checkpoint.nextAction, scheduled.notBefore⟩

def Checkpoint.evidence (checkpoint : Checkpoint) : EvidenceArtifact := ⟨checkpoint.checkpointId, checkpoint.createdAt⟩

def writeCheckpointArtifacts (checkpoint : Checkpoint) (scheduled : Scheduled) : Program Unit := do
  Journal.write fun files =>
    { files with results := files.results.set checkpoint.checkpointId (checkpoint.result scheduled) }
  Journal.write fun files =>
    { files with evidence := files.evidence.set checkpoint.checkpointId checkpoint.evidence }

def Event.immutable (event : Event) : EventId × String × ResultArtifact × EvidenceArtifact × Option String × Int :=
  (event.eventId, event.operationId, event.result, event.evidence, event.wakeTarget, event.notBefore)

def retainEventAndSignal (event : Event) (signal : SignalFile) : Program Unit := do
  match ← Journal.ask fun files => files.events.get? event.eventId with
  | some existing => do
      Journal.require (existing.immutable ≠ event.immutable)
        (.core ("follow-up event " ++ event.eventId.operationId ++ " conflicts with retained outcome"))
      Journal.write fun files =>
        { files with signals := files.signals.set event.eventId { signal with createdAt := existing.createdAt } }
  | none => do
      Journal.write fun files => { files with events := files.events.set event.eventId event }
      Journal.write fun files => { files with signals := files.signals.set event.eventId signal }

def Checkpoint.event (checkpoint : Checkpoint) (scheduled : Scheduled) (now : Int) : Event where
  eventId := scheduled.eventId
  operationId := scheduled.operationId
  result := checkpoint.result scheduled
  evidence := checkpoint.evidence
  wakeTarget := checkpoint.wakeTarget
  notBefore := scheduled.notBefore
  createdAt := now

def Checkpoint.signal (checkpoint : Checkpoint) (scheduled : Scheduled) (now : Int) : SignalFile where
  eventId := scheduled.eventId
  operationId := scheduled.operationId
  wakeTarget := checkpoint.wakeTarget
  notBefore := scheduled.notBefore
  createdAt := now

def ensureCheckpointEvent (checkpoint : Checkpoint) (now : Int) : Program Unit := do
  if checkpoint.decision ≠ .continues then return ()
  else
    match checkpoint.scheduled with
    | none => Journal.raise (.missingKey "not_before")
    | some scheduled => do
        writeCheckpointArtifacts checkpoint scheduled
        retainEventAndSignal (checkpoint.event scheduled now) (checkpoint.signal scheduled now)

def migrateContinuationState (descriptor : Descriptor) (checkpoints : List Checkpoint) : Program Descriptor := do
  if 1 ≤ descriptor.continuationStateVersion then return descriptor
  else do
    let latest := checkpoints.reverse.find? fun checkpoint => decide (checkpoint.sequence = descriptor.checkpointCount)
    let hinted : Option ActiveContinuation :=
      match latest with
      | some checkpoint => checkpoint.scheduled.bind fun scheduled =>
          if checkpoint.decision = .continues ∧ some scheduled.eventId = descriptor.lastScheduledEventId then
            some ⟨checkpoint.checkpointId, checkpoint.sequence, scheduled.eventId, scheduled.notBefore⟩
          else none
      | none => none
    let authorized := if descriptor.status = .active ∧ descriptor.activeContinuation = none then
        { descriptor with activeContinuation := hinted }
      else descriptor
    let revoked := if authorized.status = .active then authorized
      else { authorized with activeContinuation := none, lastScheduledEventId := none, lastScheduledWakeAt := none }
    let migrated := { revoked with continuationStateVersion := 1 }
    Journal.write (putDescriptor migrated)
    return migrated

def bySequence (checkpoints : List Checkpoint) : List Checkpoint :=
  checkpoints.insertionSort fun first second => first.sequence ≤ second.sequence

def reconcileCheckpoint (published : Int) (descriptor : Descriptor) (checkpoint : Checkpoint) : Program Descriptor := do
  let applied ← applyCheckpoint descriptor checkpoint
  if checkpoint.decision = .continues then
    match checkpoint.scheduled with
    | none => Journal.raise (.missingKey "signal_path")
    | some scheduled => do
        match ← Journal.ask fun files => files.signals.get? scheduled.eventId with
        | some _ => return applied
        | none => do
            ensureCheckpointEvent checkpoint published
            return applied
  else return applied

def reconcileCheckpoints (published : Int) : Descriptor → List Nat → List Checkpoint → Program Descriptor
  | descriptor, _, [] => return descriptor
  | descriptor, sequences, checkpoint :: rest => do
      Journal.require (checkpoint.sequence ∈ sequences)
        (.workstream ("duplicate checkpoint sequence " ++ toString checkpoint.sequence))
      let applied ← reconcileCheckpoint published descriptor checkpoint
      reconcileCheckpoints published applied (checkpoint.sequence :: sequences) rest

def Descriptor.expired (descriptor : Descriptor) (reason : String) (now : Int) : Descriptor :=
  { descriptor with
    status := .needsUser
    reason := some reason
    updatedAt := now
    activeContinuation := none
    waitingOn := none }

def expire (descriptor : Descriptor) (now : Int) : Program Unit := do
  if descriptor.status = .active ∨ descriptor.status = .waitingExternal then
    match wallLimitReason descriptor now with
    | some reason => Journal.write (putDescriptor (descriptor.expired reason now))
    | none => return ()
  else return ()

def storedCheckpoints (files : Files) : List Checkpoint := bySequence (files.checkpoints.items.map Prod.snd)

def reconcileLocked (now published : Int) : Program Unit := do
  let descriptor ← loadWorkstream
  let checkpoints ← Journal.ask storedCheckpoints
  let applied ← reconcileCheckpoints published descriptor [] checkpoints
  let migrated ← migrateContinuationState applied checkpoints
  expire migrated now

end OrchestratorEngine.Workstreams
