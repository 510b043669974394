import Mathlib.Algebra.Group.Int.Defs
import OrchestratorEngine.Continuity.Checkpoints

set_option autoImplicit false

namespace OrchestratorEngine.Continuity

open Foundation

inductive Grant where
  | alreadyClaimed (existing : Nat)
  | again
  | fresh (obligation : Option Obligation) (request : Option Request)
deriving DecidableEq

def Reason.recovery (reason : Reason) : Bool := decide (reason = .assignmentRecovery ∨ reason = .workRecovery)

structure Claimant where
  requestId : Option String
  source : Option Nat
  obligationId : Option String
  obligation : Option Obligation
  linked : Option Request

def claimant (store : Store) (activation : Activation) : Except Error Claimant := do
  let named ← manifestValue activation.manifest Mark.request? "request"
  let source ← manifestValue activation.manifest Mark.activation? "activation"
  let obligationId ← manifestValue activation.manifest Mark.obligation? "obligation"
  let linked := obligationId.bind store.linkedRequest?
  return {
    requestId := named.orElse fun _ => linked.map Request.requestId
    source
    obligationId
    obligation := obligationId.bind store.obligation?
    linked }

def Claimant.replyRecovery (claimant : Claimant) (activation : Activation) : Bool :=
  decide (activation.reason = .workRecovery) && claimant.requestId.isSome && claimant.source.isSome

def Claimant.communication (claimant : Claimant) : Bool := claimant.obligation.isSome && claimant.linked.isSome

def Claimant.assignment (claimant : Claimant) (activation : Activation) : Bool :=
  claimant.obligationId.isSome && decide (activation.reason ≠ .requestReply)

def replySource (store : Store) (request : Request) (source : Option Nat) : Bool :=
  decide (request.status = .replyReady ∧ request.replyActivationId = source) &&
    (source.bind store.activation?).any fun activation => decide (activation.status = .claimed)

def claimedRequest (store : Store) (activation : Activation) (claimant : Claimant) : Except Error (Option Request) :=
  match claimant.requestId with
  | none => .ok none
  | some requestId =>
      match store.request? requestId with
      | none => .error (.continuity "request activation references missing request")
      | some request => do
          let expected := if activation.reason = .requestReply ∨ claimant.replyRecovery activation = true then
            request.returnActor else request.recipientActor
          refuse (expected ≠ activation.actorId) (.continuity "request activation belongs to another route")
          refuse (activation.reason = .requestReply ∧
            ((request.status ≠ .replyReady ∧ request.status ≠ .handled) ∨
              request.replyActivationId ≠ some activation.activationId))
            (.continuity "request reply is no longer current")
          refuse (claimant.replyRecovery activation = true ∧ replySource store request claimant.source = false)
            (.continuity "request reply recovery is no longer current")
          return some request

def recoveryStop (store : Store) (work : Work) (actorId : String) (claimant : Claimant) (activation : Activation) :
    Option String :=
  if activation.reason.recovery && !claimant.replyRecovery activation then
    if claimant.communication then effectiveExplicitStop store work.workId actorId
    else effectiveRecoveryStop store work actorId
  else none

def grantStatus (activation : Activation) (obligation : Option Obligation) (request : Option Request) :
    Except Error Grant :=
  if activation.status = .claimed then .ok .again
  else if activation.active = false then
    .error (.continuity ("activation is not claimable: " ++ activation.status.text))
  else .ok (.fresh obligation request)

def grantAssignment (activation : Activation) (obligation : Option Obligation) (request : Option Request) :
    Except Error Grant :=
  match obligation with
  | none => .error (.continuity "obligation assignment is no longer active")
  | some row => do
      refuse (row.status ≠ .opened) (.continuity "obligation assignment is no longer active")
      refuse (row.generation ≠ activation.assignmentGeneration.getD 0)
        (.continuity "obligation assignment generation is stale")
      match row.claimedActivationId with
      | some existing =>
          if existing ≠ activation.activationId ∧ activation.reason.recovery = false then
            return .alreadyClaimed existing
          else grantStatus activation obligation request
      | none => grantStatus activation obligation request

def staleAuthority (work : Work) (activation : Activation) (actorId : String) (expectedEpoch : Nat) : Prop :=
  activation.controlEpoch ≠ expectedEpoch ∨ work.controlEpoch ≠ expectedEpoch ∨
    activation.workRevision ≠ work.revision ∨ work.ownerActor ≠ actorId ∨
    (work.mode ≠ .continues ∧ work.mode ≠ .waiting)

instance (work : Work) (activation : Activation) (actorId : String) (expectedEpoch : Nat) :
    Decidable (staleAuthority work activation actorId expectedEpoch) :=
  inferInstanceAs (Decidable (_ ∨ _))

def grant (store : Store) (activation : Activation) (actorId : String) (expectedEpoch : Nat) : Except Error Grant := do
  let work ← requireWork store activation.workId
  refuse (activation.actorId ≠ actorId) (.continuity "activation belongs to another actor")
  let actor ← requireActor store actorId
  refuse (activation.endpointGeneration ≠ actor.generation)
    (.continuity "activation endpoint generation is stale")
  refuse (activation.controlEpoch ≠ expectedEpoch) (.continuity "activation control epoch is stale")
  refuse (effectiveExplicitStop store work.workId actorId ≠ none) (.continuity ("actor continuation is stopped: " ++
    (effectiveExplicitStop store work.workId actorId).getD ""))
  let claimant ← claimant store activation
  refuse (¬ (activation.reason = .requestMessage ∨ activation.reason = .requestReply ∨
    claimant.replyRecovery activation = true ∨ claimant.communication = true) ∧ work.mode = .complete)
    (.continuity "completed work is immutable")
  let request ← claimedRequest store activation claimant
  refuse (recoveryStop store work actorId claimant activation ≠ none) (.continuity ("recovery is stopped: " ++
    (recoveryStop store work actorId claimant activation).getD ""))
  if claimant.assignment activation = true then grantAssignment activation claimant.obligation request
  else do
    refuse (¬ (activation.reason = .requestReply ∨ activation.reason = .requestMessage ∨
      claimant.replyRecovery activation = true) ∧ staleAuthority work activation actorId expectedEpoch)
      (.continuity "activation continuation authority is stale")
    grantStatus activation none request

inductive ClaimReply where
  | claimed (activationId : Nat) (idempotent : Bool)
  | alreadyClaimed (activationId claimActivationId : Nat)
deriving DecidableEq

def claimActivation (activationId : Nat) (now : Int) (store : Store) : Store :=
  { store with activations := store.activations.map fun activation =>
    if activation.activationId = activationId then
      { activation with status := .claimed, claimedAt := some now }
    else activation }

def Obligation.claimedBy (obligation : Obligation) (activationId generation : Nat) (now : Int) : Obligation :=
  { obligation with
    claimedAt := some now
    claimedActivationId := some activationId
    claimedGeneration := some generation }

def markClosed (request : Request) : Request := { request with status := .closedNoReply }

def recordClaim (world : World) (activation : Activation) (obligation : Option Obligation)
    (request : Option Request) (store : Store) : Store :=
  if activation.reason.recovery then store
  else
    match obligation, request with
    | some row, some linked =>
        amendRequest linked.requestId markClaimed (amendObligation row.obligationId
          (fun kept => kept.claimedBy activation.activationId row.generation world.now) store)
    | some row, none =>
        amendObligation row.obligationId
          (fun kept => kept.claimedBy activation.activationId row.generation world.now) store
    | none, some linked =>
        if activation.reason = .requestMessage then amendRequest linked.requestId markClosed store else store
    | none, none => store

def RecoveryIncident.claimed (incident : RecoveryIncident) (policy : RecoveryPolicy) (now : Int) : RecoveryIncident :=
  { incident with
    status := .waiting
    attempts := incident.attempts + 1
    nextInspectionAt := now +
      min policy.maxIntervalSeconds (policy.intervalSeconds * 2 ^ min incident.attempts 16) }

def putIncident (incident : RecoveryIncident) (store : Store) : Store :=
  { store with recoveryIncidents := put RecoveryIncident.incidentId incident store.recoveryIncidents }

def claimIncident (world : World) (activation : Activation) : Transaction Unit := do
  let queued ← Tx.ask fun store => store.recoveryIncidents.find? fun incident =>
    decide (incident.activationId = some activation.activationId)
  match queued with
  | none => Tx.raise (.continuity "recovery incident is no longer current")
  | some incident => do
      Tx.require (incident.status ≠ .queued) (.continuity "recovery incident is no longer current")
      match ← Tx.ask fun store => store.policy? activation.workId with
      | none => Tx.raise (.continuity "recovery policy is no longer armed")
      | some policy =>
          Tx.edit (putIncident (incident.claimed policy world.now))

def claim (world : World) (activationId : Nat) (actorId : String) (expectedEpoch : Nat) : Transaction ClaimReply := do
  Tx.lift (checkId actorId "actor_id")
  match ← Tx.ask fun store => store.activation? activationId with
  | none => Tx.raise (.continuity "unknown activation")
  | some activation => do
      match ← Tx.read fun store => grant store activation actorId expectedEpoch with
      | .alreadyClaimed existing => return .alreadyClaimed activationId existing
      | .again => return .claimed activationId true
      | .fresh obligation request => do
          Tx.edit (claimActivation activationId world.now)
          Tx.edit (recordClaim world activation obligation request)
          if activation.reason.recovery then claimIncident world activation else pure ()
          return .claimed activationId false

structure Signal where
  kind : Option String := none
  taskId : Option String := none
  sourceKind : Option String := none
  operationId : Option String := none
  terminalStatus : Option String := none
  eventId : Option String := none

def sourceKindMap (sourceKind : String) : Option SourceKind :=
  if sourceKind = "local_check" then some .check
  else if sourceKind = "github_actions" then some .ci
  else if sourceKind = "github_pull_request" then some .pr
  else if sourceKind = "workstream_checkpoint" then some .workstream
  else none

def present (value : Option String) : Option String := value.filter fun known => decide (known ≠ "")

def signalSourceKey (signal : Signal) : Except Error (Option SourceKey) :=
  if signal.kind = some "LOCAL_AI_WORKER_FINISHED" then
    match present signal.taskId with
    | none => .ok none
    | some identity => do
        checkId identity "worker task identity"
        return some ⟨.worker, identity⟩
  else
    match signal.sourceKind.bind sourceKindMap, present signal.operationId with
    | some kind, some identity => do
        checkId identity "operation identity"
        return some ⟨kind, identity⟩
    | _, _ => .ok none

def observed (world : World) (signal : Signal) (source : SourceKey) : String × Data :=
  let status := (present signal.terminalStatus).getD "unknown"
  let transport (state : String) (reason : Option String) : Data :=
    { resultSha256 := world.signalResult, details := .transport state reason world.signalArtifacts }
  match world.retained source with
  | .terminal retained data => (retained, data)
  | .pending => (status, transport "pending" none)
  | .missing _ => (status, transport "missing" none)
  | .invalid reason => (status, transport "invalid" (some reason))
  | .unsupported reason => (status, transport "unsupported" (some reason))

def wakeWork (world : World) (wait : Wait) : Transaction Unit := do
  let work ← Tx.read fun store => requireWork store wait.workId
  let stopped ← Tx.ask fun store => effectiveExplicitStop store work.workId work.ownerActor
  if stopped = none then do
    let _ ← evaluateWait world wait.workId
  else return ()

def wakeAssignment (world : World) (row : AssignmentCheckpoint) : Transaction Unit := do
  match ← Tx.ask fun store => store.obligation? row.obligationId with
  | none => return ()
  | some obligation => do
      let work ← Tx.read fun store => requireWork store obligation.workId
      let stopped ← Tx.ask fun store => effectiveExplicitStop store work.workId obligation.assigneeActor
      if stopped = none then do
        let _ ← evaluateAssignmentWait world row.obligationId
      else return ()

def waitingCheckpoints (store : Store) : List AssignmentCheckpoint :=
  store.assignmentCheckpoints.filter fun row => decide (row.mode = .waiting)

def observeSignal (world : World) (signal : Signal) : Transaction Bool := do
  match ← Tx.lift (signalSourceKey signal) with
  | none => return false
  | some source => do
      let (status, data) := observed world signal source
      let (changed, _) ← recordResult world source status (present signal.eventId) data
      if changed then do
        let waits ← Tx.ask Store.waits
        Tx.each (wakeWork world) waits
        let rows ← Tx.ask waitingCheckpoints
        Tx.each (wakeAssignment world) rows
        return true
      else return false

structure Reconciliation where
  recordedResults : List Outcome
  recovery : List RecoveryEntry
deriving DecidableEq

def reconcile (world : World) : Transaction Reconciliation := do
  let waits ← Tx.ask Store.waits
  let rows ← Tx.ask waitingCheckpoints
  let recorded ← reconcileSources world (waits.flatMap Wait.sources ++ rows.flatMap AssignmentCheckpoint.sources)
  Tx.each (wakeWork world) waits
  Tx.each (wakeAssignment world) rows
  let _ ← reconcileRequestDeliveries world none
  let recovery ← reconcileRecovery world
  return ⟨recorded, recovery⟩

end OrchestratorEngine.Continuity
