import OrchestratorEngine.Continuity.Routes

set_option autoImplicit false

namespace OrchestratorEngine.Continuity

open Foundation

def maxRecoveryBatch : Nat := 64

inductive RecoveryEntry where
  | queued (activationId : Nat)
  | suppressed (subject reason : String)
deriving DecidableEq

def recoveryBatch {ρ : Type} (key : ρ → String) (cursor : String) (rows : List ρ) : List ρ × String :=
  let ordered := rows.insertionSort fun first second => key first ≤ key second
  let ahead := (ordered.filter fun row => decide (cursor < key row)).take maxRecoveryBatch
  let restart := ahead.isEmpty && decide (cursor ≠ "")
  let chosen := if restart then ordered.take maxRecoveryBatch else ahead
  (chosen, (chosen.getLast?.map key).getD (if restart then "" else cursor))

structure Inspection where
  incidentId : IncidentId
  workId : String
  obligationId : Option String
  actorId : String
  cause : IncidentCause
  due : Int
  subject : String

def Inspection.incident (inspection : Inspection) (status : IncidentStatus) (attempts : Nat)
    (activationId : Option Nat) : RecoveryIncident where
  incidentId := inspection.incidentId
  workId := inspection.workId
  obligationId := inspection.obligationId
  actorId := inspection.actorId
  cause := inspection.cause
  status
  attempts
  nextInspectionAt := inspection.due
  activationId

def blockIncident (inspection : Inspection) (store : Store) : Store :=
  let row := match store.incident? inspection.incidentId with
    | some old => { old with status := .capabilityBlocked, nextInspectionAt := inspection.due }
    | none => inspection.incident .capabilityBlocked 0 none
  { store with recoveryIncidents := put RecoveryIncident.incidentId row store.recoveryIncidents }

def queueIncident (inspection : Inspection) (activationId : Nat) (store : Store) : Store :=
  let row := match store.incident? inspection.incidentId with
    | some old => { old with
        status := .queued, activationId := some activationId, nextInspectionAt := inspection.due }
    | none => inspection.incident .queued 0 (some activationId)
  { store with recoveryIncidents := put RecoveryIncident.incidentId row store.recoveryIncidents }

def inspect (world : World) (inspection : Inspection) (endpoint : Endpoint) (create : Transaction Nat) :
    Transaction (List RecoveryEntry) :=
  if world.now < inspection.due then return []
  else
    match forHost endpoint.host with
    | none => return [.suppressed inspection.subject "host_capability_unknown"]
    | some capability => do
        let incident ← Tx.ask fun store => store.incident? inspection.incidentId
        if incident.any (fun row => decide (row.status = .queued ∨
            row.status = .waiting ∧ world.now < row.nextInspectionAt)) = true then return []
        else if capability.safe = false then do
          Tx.edit (blockIncident inspection)
          return [.suppressed inspection.subject "capability_blocked"]
        else do
          let created ← create
          Tx.edit (queueIncident inspection created)
          return [.queued created]

structure AssignmentRow where
  obligation : Obligation
  policy : RecoveryPolicy
  work : Work
  actor : Actor

def armedPolicy? (store : Store) (workId : String) : Option RecoveryPolicy :=
  (store.policy? workId).filter RecoveryPolicy.armed

def activeActor? (store : Store) (actorId : String) : Option Actor := (store.actor? actorId).filter Actor.active

def assignmentRow (store : Store) (obligation : Obligation) : Option AssignmentRow := do
  let policy ← armedPolicy? store obligation.workId
  let work ← store.work? obligation.workId
  let actor ← activeActor? store obligation.assigneeActor
  if obligation.status = .opened ∧ obligation.claimedAt ≠ none then return ⟨obligation, policy, work, actor⟩
  else none

def assignmentWaiting (world : World) (obligation : Obligation) : Transaction Bool := do
  let _ ← evaluateAssignmentWait world obligation.obligationId
  Tx.ask fun store =>
    (assignmentWaitSatisfied world store obligation.obligationId).isNone ||
      !(obligation.claimedActivationId.bind store.activation?).any fun claimed =>
        decide (claimed.status = .claimed ∧ claimed.reason = .assignmentWaitSatisfied)

def AssignmentRow.inspection (row : AssignmentRow) (transition : Int) : Inspection where
  incidentId := .assignment row.obligation.workId row.obligation.obligationId row.obligation.generation
    row.actor.generation transition
  workId := row.obligation.workId
  obligationId := some row.obligation.obligationId
  actorId := row.obligation.assigneeActor
  cause := .unconfirmedCheckpointOrResponse
  due := transition + row.policy.intervalSeconds
  subject := row.obligation.obligationId

def recoverAssignment (world : World) (row : AssignmentRow) : Transaction (List RecoveryEntry) := do
  let obligation := row.obligation
  let work ← Tx.read fun store => requireWork store obligation.workId
  let request ← Tx.ask fun store => store.linkedRequest? obligation.obligationId
  let stopped ← Tx.ask fun store =>
    if request.isSome then effectiveExplicitStop store work.workId obligation.assigneeActor
    else effectiveRecoveryStop store work obligation.assigneeActor
  match stopped with
  | some reason => return [.suppressed obligation.obligationId reason]
  | none => do
      let checkpoint ← Tx.ask fun store => store.checkpoint? obligation.obligationId
      let mode := (checkpoint.filter fun kept =>
        decide (kept.assignmentGeneration = obligation.generation)).map AssignmentCheckpoint.mode
      if mode = some .paused then return [.suppressed obligation.obligationId "assignment_paused"]
      else do
        let waiting ← if mode = some .waiting then assignmentWaiting world obligation else pure false
        if waiting = true then return [.suppressed obligation.obligationId "assignment_waiting"]
        else
          match obligation.claimedAt with
          | none => return [.suppressed obligation.obligationId "invalid_recovery_timestamp"]
          | some transition =>
              let manifest := request.toList.map (fun linked => Mark.request linked.requestId) ++
                [.obligation obligation.obligationId]
              inspect world (row.inspection transition) row.actor.endpoint
                (createActivation world work obligation.assigneeActor .assignmentRecovery manifest none
                  (some obligation.generation))

structure ReplyRow where
  request : Request
  policy : RecoveryPolicy
  work : Work
  actor : Actor
  source : Activation

def replyRow (store : Store) (request : Request) : Option ReplyRow := do
  let policy ← armedPolicy? store request.workId
  let work ← store.work? request.workId
  let actor ← activeActor? store request.returnActor
  let source ← request.replyActivationId.bind store.activation?
  if request.status = .replyReady ∧ source.status = .claimed then return ⟨request, policy, work, actor, source⟩
  else none

def ReplyRow.inspection (row : ReplyRow) (claimedAt : Int) : Inspection where
  incidentId := .reply row.request.workId row.request.requestId row.actor.generation row.request.replyActivationId
  workId := row.request.workId
  obligationId := none
  actorId := row.request.returnActor
  cause := .unconfirmedReplyHandling
  due := claimedAt + row.policy.intervalSeconds
  subject := row.request.requestId

def recoverReply (world : World) (row : ReplyRow) : Transaction (List RecoveryEntry) := do
  let request := row.request
  let work ← Tx.read fun store => requireWork store request.workId
  match ← Tx.ask fun store => effectiveExplicitStop store work.workId request.returnActor with
  | some reason => return [.suppressed request.requestId reason]
  | none =>
      match row.source.claimedAt with
      | none => return [.suppressed request.requestId "invalid_recovery_timestamp"]
      | some claimedAt =>
          inspect world (row.inspection claimedAt) row.actor.endpoint
            (createActivation world work request.returnActor .workRecovery
              [.request request.requestId, .activation row.source.activationId] none none)

structure WorkRow where
  work : Work
  policy : RecoveryPolicy
  actor : Actor
  source : Activation

def continuationSource (store : Store) (work : Work) (actor : Actor) (activation : Activation) : Bool :=
  decide (activation.workId = work.workId ∧ activation.actorId = work.ownerActor ∧
    activation.status = .claimed ∧ activation.endpointGeneration = actor.generation) &&
    (decide (activation.workRevision = work.revision ∧ activation.controlEpoch = work.controlEpoch ∧
        activation.reason ∈ [.continueCheckpoint, .waitSatisfied, .ownershipTransferred]) ||
      decide (activation.reason = .requestReply ∧ store.metadata.replyWaitOwner.get? work.workId =
          some ⟨work.revision, work.controlEpoch, actor.generation, activation.activationId⟩) &&
        store.requests.any fun request =>
          decide (request.replyActivationId = some activation.activationId ∧ request.workId = work.workId ∧
            request.returnActor = work.ownerActor ∧ request.status = .handled))

def laterClaim (first second : Activation) : Bool :=
  decide (second.claimedAt.getD 0 < first.claimedAt.getD 0 ∨
    second.claimedAt.getD 0 = first.claimedAt.getD 0 ∧ second.activationId ≤ first.activationId)

def workRow (store : Store) (work : Work) : Option WorkRow := do
  let policy ← armedPolicy? store work.workId
  let actor ← activeActor? store work.ownerActor
  let source ← ((store.activations.filter (continuationSource store work actor)).insertionSort
    fun first second => laterClaim first second = true).head?
  if work.mode = .continues ∨ work.mode = .waiting then return ⟨work, policy, actor, source⟩ else none

def WorkRow.inspection (row : WorkRow) (claimedAt : Int) : Inspection where
  incidentId := .owner row.work.workId row.work.revision row.work.controlEpoch row.actor.generation
    row.source.activationId
  workId := row.work.workId
  obligationId := none
  actorId := row.work.ownerActor
  cause := .unconfirmedOwnerCheckpoint
  due := claimedAt + row.policy.intervalSeconds
  subject := row.work.workId

def recoverWork (world : World) (row : WorkRow) : Transaction (List RecoveryEntry) := do
  match ← Tx.ask fun store => effectiveRecoveryStop store row.work row.work.ownerActor with
  | some reason => return [.suppressed row.work.workId reason]
  | none =>
      match row.source.claimedAt with
      | none => return [.suppressed row.work.workId "invalid_recovery_timestamp"]
      | some claimedAt =>
          inspect world (row.inspection claimedAt) row.actor.endpoint
            (createActivation world row.work row.work.ownerActor .workRecovery
              [.activation row.source.activationId] none none)

def moveRecoveryCursor (cursor : String) (store : Store) : Store :=
  { store with metadata := { store.metadata with recoveryCursor := cursor } }

def moveReplyCursor (cursor : String) (store : Store) : Store :=
  { store with metadata := { store.metadata with recoveryReplyCursor := cursor } }

def moveWorkCursor (cursor : String) (store : Store) : Store :=
  { store with metadata := { store.metadata with recoveryWorkCursor := cursor } }

def reconcileRecovery (world : World) : Transaction (List RecoveryEntry) := do
  let (obligations, cursor) ← Tx.ask fun store =>
    recoveryBatch (fun row => row.obligation.obligationId) store.metadata.recoveryCursor
      (store.obligations.filterMap (assignmentRow store))
  Tx.edit (moveRecoveryCursor cursor)
  let assignments ← Tx.gather (recoverAssignment world) obligations
  let (requests, replyCursor) ← Tx.ask fun store =>
    recoveryBatch (fun row => row.request.requestId) store.metadata.recoveryReplyCursor
      (store.requests.filterMap (replyRow store))
  Tx.edit (moveReplyCursor replyCursor)
  let replies ← Tx.gather (recoverReply world) requests
  let (works, workCursor) ← Tx.ask fun store =>
    recoveryBatch (fun row => row.work.workId) store.metadata.recoveryWorkCursor
      (store.works.filterMap (workRow store))
  Tx.edit (moveWorkCursor workCursor)
  let continuations ← Tx.gather (recoverWork world) works
  return assignments ++ replies ++ continuations

end OrchestratorEngine.Continuity
