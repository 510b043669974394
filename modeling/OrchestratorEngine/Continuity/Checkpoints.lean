import OrchestratorEngine.Continuity.Calls

set_option autoImplicit false

namespace OrchestratorEngine.Continuity

open Foundation

def nextActionText (nextAction : Option String) : Except Error (Option String) :=
  match nextAction with
  | none => .ok none
  | some action => return some (← text action "next_action" 4000)

def checkDelay (delaySeconds : Int) : Except Error Unit :=
  refuse (delaySeconds < 0 ∨ 3600 < delaySeconds) (.continuity "delay_seconds must be between 0 and 3600")

structure AssignmentStep where
  obligationId : String
  actorId : String
  activationId : Nat
  expectedRevision : Nat
  mode : AssignmentMode
  summary : String
  nextAction : Option String := none
  waitMode : WaitMode := .all
  waitOn : List String := []
  handledResults : List Outcome := []
  reprocessResults : List Outcome := []
  delaySeconds : Int := 10

def AssignmentStep.check (step : AssignmentStep) : Except Error (List SourceKey) := do
  checkId step.obligationId "obligation_id"
  checkId step.actorId "actor_id"
  let _ ← text step.summary "summary" 2000
  let nextAction ← nextActionText step.nextAction
  let sources ← step.waitOn.mapM sourceKey
  refuse (step.mode = .waiting ∧ sources = []) (.continuity "waiting assignment requires a typed wait source")
  refuse (step.mode ≠ .waiting ∧ sources ≠ []) (.continuity "wait sources are valid only in waiting mode")
  refuse (step.mode ≠ .waiting ∧ step.reprocessResults ≠ [])
    (.continuity "reprocessed results are valid only in waiting mode")
  refuse (step.mode = .continues ∧ nextAction = none) (.continuity "continue assignment requires next_action")
  checkDelay step.delaySeconds
  return sources

def previousSources (previous : Option AssignmentCheckpoint) : List SourceKey :=
  ((previous.filter fun row => decide (row.mode = .waiting)).map AssignmentCheckpoint.sources).getD []

def putCheckpoint (row : AssignmentCheckpoint) (store : Store) : Store :=
  { store with assignmentCheckpoints := put AssignmentCheckpoint.obligationId row store.assignmentCheckpoints }

def AssignmentStep.row (step : AssignmentStep) (sources : List SourceKey) (handled : List Outcome)
    (generation revision : Nat) : AssignmentCheckpoint where
  obligationId := step.obligationId
  assignmentGeneration := generation
  revision
  mode := step.mode
  waitMode := if step.mode = .waiting then some step.waitMode else none
  sources
  handled

def continueAssignment (world : World) (work : Work) (step : AssignmentStep) (generation : Nat) :
    Transaction (Option Nat) := do
  let stopped ← Tx.ask fun store => effectiveExplicitStop store work.workId step.actorId
  if step.mode = .continues ∧ stopped = none then do
    let created ← createActivation world work step.actorId .assignmentContinue [.obligation step.obligationId]
      (some (world.now + step.delaySeconds)) (some generation)
    return some created
  else return none

def waitAssignment (world : World) (work : Work) (step : AssignmentStep) (sources : List SourceKey) :
    Transaction (Option Nat) :=
  if step.mode = .waiting then do
    let stopped ← Tx.ask fun store => effectiveExplicitStop store work.workId step.actorId
    let _ ← reconcileSources world sources
    if stopped = none then evaluateAssignmentWait world step.obligationId else return none
  else return none

structure AssignmentReply where
  assignmentRevision : Nat
  assignmentGeneration : Nat
  activationId : Option Nat
deriving DecidableEq

def assignmentCheckpoint (world : World) (step : AssignmentStep) : Transaction AssignmentReply := do
  let sources ← Tx.lift step.check
  match ← Tx.ask fun store => store.obligation? step.obligationId with
  | none => Tx.raise (.continuity "assignment is no longer open")
  | some obligation => do
      Tx.require (obligation.status ≠ .opened) (.continuity "assignment is no longer open")
      Tx.read fun store => assertCurrentAssignmentClaim store obligation step.actorId step.activationId
      let previous ← Tx.ask fun store => store.checkpoint? step.obligationId
      let revision := (previous.map AssignmentCheckpoint.revision).getD 0
      Tx.require (revision ≠ step.expectedRevision) (.continuity ("stale assignment revision: expected " ++
        toString step.expectedRevision ++ ", current " ++ toString revision))
      let ledgerSources := if step.mode = .waiting then sources else previousSources previous
      let acknowledged ← nextAssignmentHandledResults step.obligationId step.actorId ledgerSources
        (previousSources previous) step.handledResults step.reprocessResults
      let generation := if step.mode = .paused then obligation.generation else obligation.generation + 1
      if step.mode = .paused then pure ()
      else Tx.edit (amendObligation step.obligationId Obligation.renewed)
      Tx.edit (revokeObligationActivations step.obligationId)
      Tx.edit (putCheckpoint (step.row sources acknowledged generation (revision + 1)))
      Tx.edit (resolveIncidents step.obligationId)
      let work ← Tx.read fun store => requireWork store obligation.workId
      let continued ← continueAssignment world work step generation
      let woken ← waitAssignment world work step sources
      return ⟨revision + 1, generation, continued.orElse fun _ => woken⟩

def validateRecoveryIntervals (interval maximum : Int) : Except Error Unit := do
  refuse (interval < 10 ∨ 86400 < interval) (.continuity "recovery interval must be between 10 and 86400")
  refuse (maximum < interval ∨ 604800 < maximum)
    (.continuity "maximum recovery interval must be at least the interval and at most 604800")

def configureRecovery (enabled : Bool) (interval maximum : Int) : Transaction Unit := do
  Tx.lift (validateRecoveryIntervals interval maximum)
  Tx.edit fun store => { store with metadata := { store.metadata with
    defaultRecoveryObservation := enabled
    defaultRecoveryIntervalSeconds := interval
    defaultRecoveryMaxIntervalSeconds := maximum } }

def adoptWork (actorId : String) (interval maximum : Int) (workId : String) : Transaction Unit := do
  let work ← Tx.read fun store => requireWork store workId
  Tx.lift (assertMutableWork work)
  Tx.require (work.ownerActor ≠ actorId) (.continuity "only the work owner may adopt recovery")
  let policy : RecoveryPolicy := ⟨workId, true, interval, maximum⟩
  Tx.edit fun store => { store with recoveryPolicies := put RecoveryPolicy.workId policy store.recoveryPolicies }

def adoptRecovery (workIds : List String) (actorId : String) (interval maximum : Option Int) : Transaction Unit := do
  Tx.lift (checkId actorId "actor_id")
  let _ ← Tx.lift (workIds.mapM fun id => checkId id "work_id")
  Tx.require (workIds = []) (.continuity "at least one work_id is required")
  let _ ← Tx.read fun store => requireActor store actorId
  let interval ← Tx.ask fun store => interval.getD store.metadata.defaultRecoveryIntervalSeconds
  let maximum ← Tx.ask fun store => maximum.getD store.metadata.defaultRecoveryMaxIntervalSeconds
  Tx.lift (validateRecoveryIntervals interval maximum)
  Tx.each (adoptWork actorId interval maximum) workIds

structure Steering where
  scopeKind : ScopeKind
  scopeId : String
  state : ControlState
  actorId : String
  reason : String

def authorize (store : Store) (steering : Steering) (actor : Actor) : Except Error Unit :=
  match steering.scopeKind with
  | .work => do
      let work ← requireWork store steering.scopeId
      refuse (work.ownerActor ≠ steering.actorId) (.continuity "only the work owner may change work recovery")
  | .actor =>
      refuse (steering.scopeId ≠ steering.actorId) (.continuity "an actor may change only its own recovery scope")
  | .project =>
      refuse ("project_control" ∉ actor.capabilities)
        (.continuity "project recovery control requires project_control")

def RecoveryControl.key (control : RecoveryControl) : ScopeKind × String := (control.scopeKind, control.scopeId)

def putControl (control : RecoveryControl) (store : Store) : Store :=
  { store with recoveryControls := put RecoveryControl.key control store.recoveryControls }

def inScope (scopeKind : ScopeKind) (scopeId : String) (activation : Activation) : Bool :=
  match scopeKind with
  | .project => true
  | .actor => decide (activation.actorId = scopeId)
  | .work => decide (activation.workId = scopeId)

def stopIncidents (chosen : Activation → Bool) (store : Store) : Store :=
  { store with recoveryIncidents := store.recoveryIncidents.map fun incident =>
    if (store.activations.any fun activation => activation.active && chosen activation &&
        decide (incident.activationId = some activation.activationId)) = true then
      { incident with status := .stopped }
    else incident }

def setRecoveryControl (world : World) (steering : Steering) : Transaction Unit := do
  Tx.lift (checkId steering.scopeId "scope_id")
  Tx.lift (checkId steering.actorId "actor_id")
  let reason ← Tx.lift (text steering.reason "reason" 2000)
  let actor ← Tx.read fun store => requireActor store steering.actorId
  Tx.read fun store => authorize store steering actor
  Tx.edit (putControl ⟨steering.scopeKind, steering.scopeId, steering.state, reason⟩)
  match steering.state with
  | .stopped => do
      Tx.edit (stopIncidents (inScope steering.scopeKind steering.scopeId))
      Tx.edit fun store => store.revokeWhere (inScope steering.scopeKind steering.scopeId)
  | .armed => rearmScopeRoutes world steering.scopeKind steering.scopeId

structure Resolving where
  obligationId : String
  actorId : String
  activationId : Nat
  statusValue : ObligationStatus
  resultRef : String

def Resolving.check (resolving : Resolving) : Except Error String := do
  checkId resolving.obligationId "obligation_id"
  checkId resolving.actorId "actor_id"
  let resultRef ← text resolving.resultRef "result_ref" 4096
  refuse (resolving.statusValue = .opened)
    (.continuity "obligation result must be completed, failed or cancelled")
  return resultRef

def resolutionClaim (store : Store) (actor : Actor) (activationId : Nat) : Bool :=
  (store.activation? activationId).any fun activation =>
    decide (activation.status = .claimed ∧ activation.actorId = actor.actorId ∧
      activation.endpointGeneration = actor.generation)

def settleObligation (world : World) (obligation : Obligation) (resolving : Resolving) (resultRef : String) :
    Transaction Unit := do
  Tx.require (obligation.claimedActivationId ≠ some resolving.activationId ∨
    obligation.claimedGeneration ≠ some obligation.generation)
    (.continuity "obligation resolution requires the current claimed assignment")
  let actor ← Tx.read fun store => requireActor store resolving.actorId
  let claimed ← Tx.ask fun store => resolutionClaim store actor resolving.activationId
  Tx.require (claimed = false) (.continuity "assignment claim is stale or unavailable")
  Tx.edit (amendObligation resolving.obligationId fun row => row.settled resolving.statusValue resultRef)
  Tx.edit (revokeObligationActivations resolving.obligationId)
  let _ ← recordResult world (obligationSource resolving.obligationId) resolving.statusValue.text none
    { resultReference := some (resultReference world resultRef)
      details := .resolution obligation.resumeActor resolving.activationId obligation.generation }
  Tx.edit (resolveIncidents resolving.obligationId)
  let _ ← evaluateWait world obligation.workId

def resolveObligation (world : World) (resolving : Resolving) : Transaction Bool := do
  let resultRef ← Tx.lift resolving.check
  match ← Tx.ask fun store => store.obligation? resolving.obligationId with
  | none => Tx.raise (.continuity ("unknown obligation: " ++ resolving.obligationId))
  | some obligation => do
      let linked ← Tx.ask fun store => store.linkedRequest? resolving.obligationId
      Tx.require (linked ≠ none)
        (.continuity "managed reply obligations must be resolved with request-respond")
      let work ← Tx.read fun store => requireWork store obligation.workId
      Tx.lift (assertMutableWork work)
      Tx.require (obligation.assigneeActor ≠ resolving.actorId)
        (.continuity "only the assigned actor may resolve the obligation")
      if obligation.status ≠ .opened then do
        Tx.require (¬ (obligation.status = resolving.statusValue ∧ obligation.resultRef = some resultRef ∧
          obligation.claimedActivationId = some resolving.activationId))
          (.continuity "obligation is already terminal")
        return true
      else do
        settleObligation world obligation resolving resultRef
        return false

structure WorkStep where
  workId : String
  actorId : String
  expectedRevision : Nat
  mode : WorkMode
  summary : String
  nextAction : Option String := none
  waitMode : WaitMode := .all
  waitOn : List String := []
  handledResults : List Outcome := []
  reprocessResults : List Outcome := []
  delaySeconds : Int := 10

def WorkStep.check (step : WorkStep) : Except Error (List SourceKey) := do
  checkId step.workId "work_id"
  checkId step.actorId "actor_id"
  let _ ← text step.summary "summary" 2000
  let nextAction ← nextActionText step.nextAction
  let sources ← step.waitOn.mapM sourceKey
  refuse (step.mode = .waiting ∧ sources = []) (.continuity "waiting mode requires at least one typed wait source")
  refuse (step.mode ≠ .waiting ∧ sources ≠ []) (.continuity "wait sources are valid only in waiting mode")
  refuse (step.mode ≠ .waiting ∧ step.reprocessResults ≠ [])
    (.continuity "reprocessed results are valid only in waiting mode")
  refuse (step.mode = .continues ∧ nextAction = none) (.continuity "continue mode requires next_action")
  refuse (step.mode = .complete ∧ nextAction ≠ none)
    (.continuity "complete mode cannot retain next_action; use continue")
  checkDelay step.delaySeconds
  return sources

def amendWork (workId : String) (change : Work → Work) (store : Store) : Store :=
  { store with works := store.works.map fun work => if work.workId = workId then change work else work }

def Work.advanced (work : Work) (mode : WorkMode) : Work :=
  { work with mode, revision := work.revision + 1, controlEpoch := work.controlEpoch + 1 }

def Work.transferred (work : Work) (toActor : String) : Work :=
  { work with ownerActor := toActor, revision := work.revision + 1, controlEpoch := work.controlEpoch + 1 }

def resolveOwnerIncidents (workId : String) (store : Store) : Store :=
  { store with recoveryIncidents := store.recoveryIncidents.map fun incident =>
    if incident.workId = workId ∧ incident.obligationId = none ∧ incident.cause = .unconfirmedOwnerCheckpoint ∧
        incident.status ≠ .resolved then { incident with status := .resolved }
    else incident }

def openRequired (store : Store) (workId : String) : List String :=
  (store.obligations.filter fun obligation =>
    decide (obligation.workId = workId ∧ obligation.required = true ∧ obligation.status = .opened)).map
    Obligation.obligationId

def putWait (wait : Wait) (store : Store) : Store := { store with waits := put Wait.workId wait store.waits }

def dropWait (workId : String) (store : Store) : Store :=
  { store with waits := store.waits.filter fun wait => decide (wait.workId ≠ workId) }

def dropReplays (workId : String) (store : Store) : Store :=
  let pendingReplays := store.metadata.pendingReplays.without [workId]
  { store with metadata := { store.metadata with pendingReplays } }

def waitWork (world : World) (step : WorkStep) (sources : List SourceKey) (revision : Nat) :
    Transaction (Option Nat) := do
  let previous ← Tx.ask fun store => store.wait? step.workId
  let acknowledged ← nextHandledResults step.workId step.actorId sources step.handledResults step.reprocessResults
  recordReplayDecisions step.workId revision step.handledResults step.reprocessResults
  Tx.edit (putWait ⟨step.workId, (previous.map Wait.generation).getD 0 + 1, step.waitMode, sources, acknowledged⟩)
  let _ ← reconcileSources world sources
  let stopped ← Tx.ask fun store => effectiveExplicitStop store step.workId step.actorId
  if stopped = none then evaluateWait world step.workId else return none

def leaveWait (world : World) (step : WorkStep) (updated : Work) (revision : Nat) : Transaction (Option Nat) := do
  persistHandledResults step.workId step.actorId step.handledResults
  recordReplayDecisions step.workId revision step.handledResults []
  if step.mode = .complete then Tx.edit (dropReplays step.workId) else pure ()
  Tx.edit (dropWait step.workId)
  let stopped ← Tx.ask fun store => effectiveExplicitStop store step.workId step.actorId
  if step.mode = .continues ∧ stopped = none then do
    let created ← createActivation world updated step.actorId .continueCheckpoint []
      (some (world.now + step.delaySeconds)) none
    return some created
  else return none

def checkpoint (world : World) (step : WorkStep) : Transaction (Option Nat) := do
  let sources ← Tx.lift step.check
  let work ← Tx.read fun store => requireWork store step.workId
  Tx.lift (assertOwnerRevision work step.actorId step.expectedRevision)
  Tx.lift (assertMutableWork work)
  let required ← Tx.ask fun store => openRequired store step.workId
  Tx.require (step.mode = .complete ∧ required ≠ [])
    (.continuity ("required obligations remain open: " ++ String.intercalate ", " required))
  Tx.edit (amendWork step.workId fun row => row.advanced step.mode)
  Tx.edit (resolveOwnerIncidents step.workId)
  if step.mode = .complete then revokeProductActivationsOnComplete step.workId
  else Tx.edit (revokeOwnerControlActivations step.workId step.actorId)
  let updated ← Tx.read fun store => requireWork store step.workId
  let activation ← if step.mode = .waiting then waitWork world step sources (work.revision + 1)
    else leaveWait world step updated (work.revision + 1)
  let _ ← reconcileRequestDeliveries world (some step.workId)
  return activation

structure Transfer where
  workId : String
  fromActor : String
  toActor : String
  expectedRevision : Nat
  reason : String
  fenced : Bool

def Transfer.check (transfer : Transfer) : Except Error Unit := do
  checkId transfer.workId "work_id"
  checkId transfer.fromActor "from_actor"
  checkId transfer.toActor "to_actor"
  let _ ← text transfer.reason "reason" 2000
  refuse (transfer.fenced = false) (.continuity "ownership transfer requires explicit fencing evidence")

def transfer (world : World) (handover : Transfer) : Transaction (Option Nat) := do
  Tx.lift handover.check
  let work ← Tx.read fun store => requireWork store handover.workId
  Tx.lift (assertOwnerRevision work handover.fromActor handover.expectedRevision)
  Tx.lift (assertMutableWork work)
  let _ ← Tx.read fun store => requireActor store handover.toActor
  Tx.edit (amendWork handover.workId fun row => row.transferred handover.toActor)
  Tx.edit (revokeOwnerControlActivations handover.workId handover.fromActor)
  let updated ← Tx.read fun store => requireWork store handover.workId
  let stopped ← Tx.ask fun store => effectiveExplicitStop store updated.workId handover.toActor
  if stopped ≠ none then return none
  else do
    let created ← createActivation world updated handover.toActor .ownershipTransferred [] none none
    return some created

end OrchestratorEngine.Continuity
