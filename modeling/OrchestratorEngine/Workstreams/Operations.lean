import OrchestratorEngine.Workstreams.Files

set_option autoImplicit false

namespace OrchestratorEngine.Workstreams

open Foundation

def boundedText (value field : String) : Except Error String :=
  if Continuity.strip value = "" then .error (.workstream (field ++ " is required"))
  else if 4000 < (Continuity.strip value).length then
    .error (.workstream (field ++ " exceeds 4000 characters"))
  else .ok (Continuity.strip value)

def boundedOption (value : Option String) (field : String) : Except Error (Option String) :=
  match value with
  | none => .ok none
  | some given => do
      let kept ← boundedText given field
      return some kept

def optionalLimit (value : Option Int) (field : String) : Except Error (Option Nat) :=
  match value with
  | none => .ok none
  | some limit =>
      if limit ≤ 0 then .error (.workstream (field ++ " must be a positive integer or null (unlimited)"))
      else .ok (some limit.toNat)

structure Settings where
  goal : String
  delay : Int
  maxContinuations : Option Int
  maxWallSeconds : Option Int
deriving DecidableEq, Repr

def startWorkstream (workstreamId : String) (settings : Settings) (wakeTarget : Except Error (Option String))
    (created : Int) : Program Unit := do
  Journal.lift (validateId workstreamId "workstream id")
  let _ ← Journal.lift (boundedText settings.goal "goal")
  Journal.require (settings.delay < 0 ∨ 3600000 < settings.delay)
    (.workstream "delay_seconds must be between 0 and 3600")
  let maxContinuations ← Journal.lift (optionalLimit settings.maxContinuations "max_continuations")
  let maxWallSeconds ← Journal.lift (optionalLimit settings.maxWallSeconds "max_wall_seconds")
  let target ← Journal.lift wakeTarget
  let existing ← Journal.ask Files.descriptor
  Journal.require (existing.isSome = true) (.workstream ("workstream already exists: " ++ workstreamId))
  Journal.write (putDescriptor {
    status := .active
    checkpointCount := 0
    continuationCount := 0
    continuationStateVersion := 1
    maxContinuations
    maxWallSeconds
    delay := settings.delay
    createdAt := created
    updatedAt := created
    wakeTarget := target })

structure CheckpointRequest where
  checkpointId : String
  decision : Decision
  summary : String
  nextAction : Option String := none
  waitingOn : Option String := none
  ready : Bool := false
deriving DecidableEq, Repr

structure Content where
  decision : Decision
  summary : String
  nextAction : Option String
  waitingOn : Option String
deriving DecidableEq, Repr

def CheckpointRequest.content (request : CheckpointRequest) : Except Error Content := do
  let summary ← boundedText request.summary "summary"
  let nextAction ← boundedOption request.nextAction "next_action"
  let waitingOn ← boundedOption request.waitingOn "waiting_on"
  refuse (request.decision = .continues ∧ request.ready = false) (.workstream "continue requires explicit --ready")
  refuse (request.decision = .continues ∧ nextAction = none) (.workstream "continue requires --next-action")
  refuse (request.decision = .complete ∧ nextAction ≠ none)
    (.workstream "complete cannot retain next_action; use continue")
  refuse (request.decision ≠ .continues ∧ request.ready = true)
    (.workstream "--ready is only valid with decision continue")
  refuse (request.decision = .waitingExternal ∧ waitingOn = none)
    (.workstream "waiting_external requires --waiting-on")
  refuse (request.decision ≠ .waitingExternal ∧ waitingOn ≠ none)
    (.workstream "--waiting-on is only valid with waiting_external")
  return ⟨request.decision, summary, nextAction, waitingOn⟩

def Checkpoint.content (checkpoint : Checkpoint) : Content :=
  ⟨checkpoint.requestedDecision, checkpoint.summary, checkpoint.nextAction, checkpoint.waitingOn⟩

-- The clock as one call reads it: for its reconciliation, for an event that
-- this recovers, for its own record, and for the event of that record. The
-- reading of a reconciliation may be stale when the lock is taken.
structure Readings where
  reconciled : Int
  recovered : Int
  taken : Int
  published : Int
  ordered : reconciled ≤ taken

abbrev Preflight := Except Error Unit

structure Output where
  checkpoint : Checkpoint
  idempotent : Bool
  recoveredSignal : Bool
deriving DecidableEq, Repr

def repeatCheckpoint (existing : Checkpoint) (content : Content) (preflight : Preflight) (published : Int) :
    Program Output := do
  Journal.require (existing.content ≠ content)
    (.workstream ("checkpoint id already exists with different content: " ++ existing.checkpointId))
  let descriptor ← loadWorkstream
  let _ ← applyCheckpoint descriptor existing
  match existing.decision, existing.scheduled with
  | .continues, some scheduled => do
      match ← Journal.ask fun files => files.signals.get? scheduled.eventId with
      | some _ => return ⟨existing, true, false⟩
      | none => do
          Journal.lift preflight
          ensureCheckpointEvent existing published
          return ⟨existing, true, true⟩
  | _, _ => return ⟨existing, true, false⟩

def Descriptor.checkpointReason (descriptor : Descriptor) (decision : Decision) (now : Int) : Option String :=
  if decision.automatic then limitReason descriptor now else none

def Descriptor.checkpoint (descriptor : Descriptor) (workstreamId checkpointId : String) (content : Content)
    (now : Int) : Checkpoint :=
  let reason := descriptor.checkpointReason content.decision now
  { checkpointId
    sequence := descriptor.checkpointCount + 1
    decision := if reason.isSome then .needsUser else content.decision
    requestedDecision := content.decision
    summary := content.summary
    createdAt := now
    nextAction := content.nextAction
    waitingOn := content.waitingOn
    reason
    wakeTarget := descriptor.wakeTarget
    scheduled :=
      if content.decision = .continues ∧ reason = none then
        some {
          notBefore := now + descriptor.delay
          operationId := continuationOperationId workstreamId checkpointId
          eventId := followupEventId (continuationOperationId workstreamId checkpointId) }
      else none }

def Status.text : Status → String
  | .active => "active"
  | .waitingExternal => "waiting_external"
  | .needsUser => "needs_user"
  | .blocked => "blocked"
  | .complete => "complete"
  | .paused => "paused"

def putCheckpoint (checkpoint : Checkpoint) (files : Files) : Files :=
  { files with checkpoints := files.checkpoints.set checkpoint.checkpointId checkpoint }

def freshCheckpoint (workstreamId checkpointId : String) (content : Content) (preflight : Preflight)
    (now published : Int) : Program Output := do
  let descriptor ← loadWorkstream
  Journal.require (descriptor.status = .complete) (.workstream "completed workstream cannot accept checkpoints")
  Journal.require (content.decision = .continues ∧ descriptor.status ≠ .active)
    (.workstream ("workstream is " ++ descriptor.status.text ++ "; resume it before continue"))
  let checkpoint := descriptor.checkpoint workstreamId checkpointId content now
  Journal.lift (if checkpoint.scheduled.isSome then preflight else .ok ())
  Journal.write (putCheckpoint checkpoint)
  let _ ← applyCheckpoint descriptor checkpoint
  ensureCheckpointEvent checkpoint published
  return ⟨checkpoint, false, false⟩

def checkpointWorkstream (workstreamId : String) (request : CheckpointRequest) (preflight : Preflight)
    (readings : Readings) : Program Output := do
  Journal.lift (validateId workstreamId "workstream id")
  Journal.lift (validateId request.checkpointId "checkpoint id")
  let content ← Journal.lift request.content
  reconcileLocked readings.reconciled readings.recovered
  match ← Journal.ask fun files => files.checkpoints.get? request.checkpointId with
  | some existing => repeatCheckpoint existing content preflight readings.published
  | none => freshCheckpoint workstreamId request.checkpointId content preflight readings.taken readings.published

def Descriptor.resumed (descriptor : Descriptor) (now : Int) : Descriptor :=
  { descriptor with
    status := .active
    updatedAt := now
    waitingOn := none
    activeContinuation := none
    lastScheduledEventId := none
    lastScheduledWakeAt := none
    continuationStateVersion := 1
    reason := none }

def resumeWorkstream (readings : Readings) : Program Unit := do
  reconcileLocked readings.reconciled readings.recovered
  let descriptor ← loadWorkstream
  Journal.require (descriptor.status = .complete) (.workstream "completed workstream cannot be resumed")
  Journal.require (descriptor.status = .active) (.workstream "active workstream does not need resume")
  Journal.write (putDescriptor (descriptor.resumed readings.taken))

def parseContinuationOperationId (operationId : String) : Option (String × String) :=
  if "workstream:".toList <+: operationId.toList then
    let identity := operationId.toList.drop 11
    let workstreamId := String.ofList (identity.takeWhile (· ≠ ':'))
    let checkpointId := String.ofList ((identity.dropWhile (· ≠ ':')).drop 1)
    if ':' ∈ identity ∧ Continuity.validEventId workstreamId = true ∧ Continuity.validEventId checkpointId = true then
      some (workstreamId, checkpointId)
    else none
  else none

-- A signal as the watcher read it. The identity in its result file counts
-- when the operation id names none.
structure Signal where
  workstreamSource : Bool
  operationId : Option String
  eventId : Option EventId
  resultIdentity : Option (String × String)
deriving DecidableEq, Repr

def Signal.identity (signal : Signal) : Option (String × String) :=
  match signal.operationId.bind parseContinuationOperationId with
  | some identity => some identity
  | none => signal.resultIdentity.filter fun identity =>
      Continuity.validEventId identity.1 && Continuity.validEventId identity.2

inductive Delivery where
  | deliver
  | withheld (reason : String)
deriving DecidableEq, Repr

def Descriptor.expiredAtDelivery (descriptor : Descriptor) (reason : String) (now : Int) : Descriptor :=
  { descriptor with
    status := .needsUser
    reason := some reason
    updatedAt := now
    activeContinuation := none }

def guardedState (checkpointId : String) (readings : Readings) : Program (Descriptor × Checkpoint) := do
  reconcileLocked readings.reconciled readings.recovered
  let descriptor ← loadWorkstream
  match ← Journal.ask fun files => files.checkpoints.get? checkpointId with
  | some checkpoint => return (descriptor, checkpoint)
  | none => Journal.raise (.core "checkpoint file is missing")

def guardLocked (checkpointId : String) (signal : Signal) (readings : Readings) : Program Delivery := do
  match ← Journal.attempt (guardedState checkpointId readings) with
  -- A missing key is not among the errors that the guard catches.
  | .error (.missingKey key) => Journal.raise (.missingKey key)
  | .error _ => return .withheld "invalid_workstream_state"
  | .ok (descriptor, checkpoint) =>
      if descriptor.status ≠ .active then return .withheld "workstream_continuation_revoked"
      else
        match wallLimitReason descriptor readings.taken with
        | some reason => do
            Journal.write (putDescriptor (descriptor.expiredAtDelivery reason readings.published))
            return .withheld "workstream_expired"
        | none =>
            if checkpoint.decision ≠ .continues ∨ checkpoint.scheduled.map Scheduled.eventId ≠ signal.eventId ∨
                descriptor.activeContinuation.map ActiveContinuation.eventId ≠ signal.eventId then
              return .withheld "workstream_continuation_revoked"
            else return .deliver

def continuationDeliveryGuard (workstreamId : String) (signal : Signal) (readings : Readings) :
    Program (Option Delivery) := do
  if signal.workstreamSource = false then return some .deliver
  else
    match signal.identity with
    | none => return some (.withheld "invalid_workstream_identity")
    | some (named, checkpointId) =>
        if named = workstreamId then do
          let delivery ← guardLocked checkpointId signal readings
          return some delivery
        else return none

inductive Call where
  | start (settings : Settings) (wakeTarget : Except Error (Option String))
  | checkpoint (request : CheckpointRequest) (preflight : Preflight)
  | reconcile
  | resume
  | delivery (signal : Signal)

def perform (workstreamId : String) (readings : Readings) : Call → Program Unit
  | .start settings wakeTarget => startWorkstream workstreamId settings wakeTarget readings.taken
  | .checkpoint request preflight => do
      let _ ← checkpointWorkstream workstreamId request preflight readings
      return ()
  | .reconcile => reconcileLocked readings.reconciled readings.recovered
  | .resume => resumeWorkstream readings
  | .delivery signal => do
      let _ ← continuationDeliveryGuard workstreamId signal readings
      return ()

end OrchestratorEngine.Workstreams
