import OrchestratorEngine.Continuity.Waits

set_option autoImplicit false

namespace OrchestratorEngine.Continuity

open Foundation

def createReminder (world : World) (work : Work) (actorId : String) (manifest : List Mark) (generation : Nat)
    (interval : Int) (index : Nat) : Transaction Unit := do
  let _ ← createActivation world work actorId .obligationReminder manifest
    (some (world.now + interval * (index + 1))) (some generation)

def scheduleObligationActivations (world : World) (work : Work) (actorId : String) (obligation : Obligation) :
    Transaction (Option Nat) := do
  let stopped ← Tx.ask fun store => effectiveExplicitStop store work.workId actorId
  if stopped ≠ none then return none
  else do
    let manifest := [Mark.obligation obligation.obligationId]
    let assignment ← createActivation world work actorId .obligationAssigned manifest none (some obligation.generation)
    Tx.each (createReminder world work actorId manifest obligation.generation obligation.reminderSeconds)
      (List.range obligation.maxReminders)
    return some assignment

def amendRequest (requestId : String) (change : Request → Request) (store : Store) : Store :=
  { store with requests := store.requests.map fun request =>
    if request.requestId = requestId then change request else request }

def pointRequest (activationId : Nat) (request : Request) : Request :=
  { request with requestActivationId := some activationId }

def redeliver (activationId : Nat) (request : Request) : Request :=
  { request with status := .deliveryPending, requestActivationId := some activationId }

def pointReply (activationId : Nat) (request : Request) : Request :=
  { request with replyActivationId := some activationId }

def rearmAssignment (world : World) (work : Work) (obligation : Obligation) (requestMarker : List Mark)
    (mode : AssignmentMode) : Transaction (Option Nat) :=
  if mode = .waiting then evaluateAssignmentWait world obligation.obligationId
  else do
    let claim ← Tx.read fun store =>
      if mode = .paused then currentObligationClaim store obligation else .ok none
    match claim with
    | some current => return some current.activationId
    | none => do
        let reason : Reason := if mode = .continues then .assignmentContinue else .assignmentPausedControl
        match ← Tx.read fun store => activeObligationActivation store obligation [reason] with
        | some active => return some active.activationId
        | none => do
            let created ← createActivation world work obligation.assigneeActor reason
              (requestMarker ++ [.obligation obligation.obligationId]) none (some obligation.generation)
            return some created

def rearmRequest (world : World) (work : Work) (obligation : Obligation) (request : Request) :
    Transaction (Option Nat) :=
  if request.terminalResponseId ≠ none then return none
  else do
    let active ← Tx.read fun store =>
      activeCurrentActivation store request.requestActivationId obligation.assigneeActor .requestMessage
    match active.filter fun activation => decide (activation.assignmentGeneration.getD 0 = obligation.generation) with
    | some current => return some current.activationId
    | none => do
        let created ← createActivation world work obligation.assigneeActor .requestMessage
          [.request request.requestId, .obligation obligation.obligationId] none (some obligation.generation)
        Tx.edit (amendRequest request.requestId (redeliver created))
        return some created

def rearmObligationRoute (world : World) (work : Work) (obligation : Obligation) (request : Option Request)
    (assignment : Option AssignmentCheckpoint) : Transaction (Option Nat) := do
  let stopped ← Tx.ask fun store => effectiveExplicitStop store work.workId obligation.assigneeActor
  if stopped ≠ none then return none
  else if work.mode = .complete ∧ request = none then return none
  else
    let requestMarker := request.toList.map fun linked => Mark.request linked.requestId
    match assignment, request with
    | some row, _ => rearmAssignment world work obligation requestMarker row.mode
    | none, some linked => rearmRequest world work obligation linked
    | none, none =>
        if obligation.claimedAt ≠ none then return none
        else scheduleObligationActivations world work obligation.assigneeActor obligation

def latestResult (world : World) (store : Store) (source : SourceKey) : Option Outcome :=
  ((byOutcome world (store.results.filter fun row => decide (row.sourceKey = source))).getLast?).map Result.outcomeId

def deliverMessage (world : World) (work : Work) (request : Request) : Transaction (List Nat) := do
  let settled ← Tx.ask fun store => request.obligationId.any fun id => (store.checkpoint? id).isSome
  if settled = true then return []
  else
    match request.obligationId with
    | none => do
        let created ← createActivation world work request.recipientActor .requestMessage
          [.request request.requestId] none none
        Tx.edit (amendRequest request.requestId (redeliver created))
        return [created]
    | some obligationId => do
        match ← Tx.ask fun store => store.obligation? obligationId with
        | none => return []
        | some obligation => do
            let created ← createActivation world work request.recipientActor .requestMessage
              [.request request.requestId, .obligation obligationId] none (some obligation.generation)
            Tx.edit (amendRequest request.requestId (redeliver created))
            return [created]

def deliverReply (world : World) (work : Work) (request : Request) : Transaction (List Nat) :=
  match request.terminalResponseId with
  | none => return []
  | some responseId => do
      let result ← Tx.ask fun store =>
        request.obligationId.bind fun id => latestResult world store (obligationSource id)
      let created ← createActivation world work request.returnActor .requestReply
        ([.request request.requestId, .response responseId] ++ result.toList.map .outcome) none none
      Tx.edit (amendRequest request.requestId (pointReply created))
      return [created]

def reconcileRequestDelivery (world : World) (request : Request) : Transaction (List Nat) := do
  let work ← Tx.read fun store => requireWork store request.workId
  let replying := decide (request.status = .replyReady)
  let actorId := if replying then request.returnActor else request.recipientActor
  let pointer := if replying then request.replyActivationId else request.requestActivationId
  let reason : Reason := if replying then .requestReply else .requestMessage
  let stopped ← Tx.ask fun store => effectiveExplicitStop store work.workId actorId
  if stopped ≠ none then return []
  else do
    match ← Tx.read fun store => activeCurrentActivation store pointer actorId reason with
    | some _ => return []
    | none => if replying then deliverReply world work request else deliverMessage world work request

def Request.outstanding (request : Request) : Bool :=
  decide (request.status = .deliveryPending ∨ request.status = .claimed ∨ request.status = .replyReady)

def reconcileRequestDeliveries (world : World) (workId : Option String) : Transaction (List Nat) := do
  let rows ← Tx.ask fun store => store.requests.filter fun request =>
    request.outstanding && workId.all fun id => decide (request.workId = id)
  Tx.gather (reconcileRequestDelivery world) rows

def scopeWorks (store : Store) (scopeKind : ScopeKind) (scopeId : String) : List Work :=
  match scopeKind with
  | .project => store.works
  | .work => store.works.filter fun work => decide (work.workId = scopeId)
  | .actor => store.works.filter fun work =>
      decide (work.ownerActor = scopeId) ||
        (store.obligations.any fun obligation =>
          decide (obligation.workId = work.workId ∧ obligation.assigneeActor = scopeId)) ||
        store.requests.any fun request =>
          decide (request.workId = work.workId ∧
            (request.recipientActor = scopeId ∨ request.returnActor = scopeId))

def currentContinuation (store : Store) (work : Work) (owner : Actor) : Bool :=
  store.activations.any fun activation =>
    decide (activation.workId = work.workId ∧ activation.actorId = work.ownerActor ∧
      activation.reason = .continueCheckpoint ∧ activation.workRevision = work.revision ∧
      activation.controlEpoch = work.controlEpoch ∧ activation.endpointGeneration = owner.generation) &&
      activation.live

def rearmOwner (world : World) (work : Work) : Transaction Unit := do
  let stopped ← Tx.ask fun store => effectiveExplicitStop store work.workId work.ownerActor
  if work.mode = .complete ∨ stopped ≠ none then return ()
  else
    match work.mode with
    | .continues => do
        let owner ← Tx.read fun store => requireActor store work.ownerActor
        let active ← Tx.ask fun store => currentContinuation store work owner
        if active = true then return ()
        else do
          let _ ← createActivation world work work.ownerActor .continueCheckpoint [] none none
    | .waiting => do
        let _ ← evaluateWait world work.workId
    | _ => return ()

def rearmObligation (world : World) (work : Work) (obligation : Obligation) : Transaction Unit := do
  let stopped ← Tx.ask fun store => effectiveExplicitStop store work.workId obligation.assigneeActor
  if stopped ≠ none then return ()
  else do
    let assignment ← Tx.ask fun store => store.checkpoint? obligation.obligationId
    let linked ← Tx.ask fun store => store.linkedRequest? obligation.obligationId
    let _ ← rearmObligationRoute world work obligation linked assignment

def rearmWork (world : World) (work : Work) : Transaction Unit := do
  let _ ← reconcileRequestDeliveries world (some work.workId)
  rearmOwner world work
  let obligations ← Tx.ask fun store => store.obligations.filter fun obligation =>
    decide (obligation.workId = work.workId ∧ obligation.status = .opened)
  Tx.each (rearmObligation world work) obligations

def rearmScopeRoutes (world : World) (scopeKind : ScopeKind) (scopeId : String) : Transaction Unit := do
  let works ← Tx.ask fun store => scopeWorks store scopeKind scopeId
  Tx.each (rearmWork world) works

end OrchestratorEngine.Continuity
