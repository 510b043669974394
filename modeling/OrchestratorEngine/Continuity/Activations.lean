import Mathlib.Data.List.Sort
import OrchestratorEngine.Continuity.Queries

set_option autoImplicit false

namespace OrchestratorEngine.Continuity

open Foundation

def Store.insertActivation (store : Store) (activation : Activation) : Store :=
  { store with
    metadata := { store.metadata with activationSequence := activation.activationId }
    activations := store.activations ++ [activation]
    outbox := store.outbox ++ [⟨activation.activationId, .pending, 0, none⟩] }

def Work.activation (world : World) (work : Work) (actor : Actor) (sequence : Nat) (reason : Reason)
    (manifest : List Mark) (notBefore : Option Int) (assignmentGeneration : Option Nat) : Activation where
  activationId := sequence
  workId := work.workId
  actorId := actor.actorId
  workRevision := work.revision
  controlEpoch := work.controlEpoch
  endpointGeneration := actor.generation
  assignmentGeneration
  status := .pending
  reason
  manifest
  wakeTarget := actor.endpoint
  notBefore
  createdAt := world.created sequence
  claimedAt := none

def createActivation (world : World) (work : Work) (actorId : String) (reason : Reason) (manifest : List Mark)
    (notBefore : Option Int) (assignmentGeneration : Option Nat) : Transaction Nat := do
  let actor ← Tx.read fun store => requireActor store actorId
  let sequence ← Tx.ask fun store => store.metadata.activationSequence + 1
  let activation := work.activation world actor sequence reason manifest notBefore assignmentGeneration
  Tx.note fun store => ⟨store, activation⟩
  Tx.edit fun store => store.insertActivation activation
  return sequence

def revoke (chosen : Activation → Bool) (activation : Activation) : Activation :=
  if activation.active && chosen activation then { activation with status := .revoked } else activation

def Store.revokeWhere (store : Store) (chosen : Activation → Bool) : Store :=
  { store with activations := store.activations.map (revoke chosen) }

def revokeObligationActivations (obligationId : String) (store : Store) : Store :=
  store.revokeWhere fun activation => decide (Mark.obligation obligationId ∈ activation.manifest)

def revokeRequestActivations (requestId actorId : String) (store : Store) : Store :=
  store.revokeWhere fun activation =>
    decide (activation.actorId = actorId ∧ Mark.request requestId ∈ activation.manifest)

def revokeManifestActivations (marker : Mark) (reasons : List Reason) (store : Store) : Store :=
  store.revokeWhere fun activation => decide (activation.reason ∈ reasons ∧ marker ∈ activation.manifest)

def Reason.ownerControl (reason : Reason) : Bool :=
  decide (reason ∈ [.continueCheckpoint, .waitSatisfied, .ownershipTransferred, .workRecovery])

def revokeOwnerControlActivations (workId actorId : String) (store : Store) : Store :=
  store.revokeWhere fun activation =>
    decide (activation.workId = workId ∧ activation.actorId = actorId) && activation.reason.ownerControl &&
      !(decide (activation.reason = .workRecovery) && names Mark.request? activation.manifest)

def communication (store : Store) (activation : Activation) : Except Error Bool :=
  if activation.reason = .requestMessage ∨ activation.reason = .requestReply ∨
      names Mark.request? activation.manifest = true then .ok true
  else do
    match ← manifestValue activation.manifest Mark.obligation? "obligation" with
    | some obligationId => return (store.linkedRequest? obligationId).isSome
    | none => return false

def revokeProductActivationsOnComplete (workId : String) : Transaction Unit := do
  let fenced ← Tx.read fun store =>
    filterOk (fun activation => return !(← communication store activation))
      (store.activations.filter fun activation => decide (activation.workId = workId) && activation.active)
  Tx.edit fun store => store.revokeWhere fun activation =>
    decide (activation.activationId ∈ fenced.map Activation.activationId)

def activeCurrentActivation (store : Store) (activationId : Option Nat) (actorId : String) (reason : Reason) :
    Except Error (Option Activation) :=
  match activationId with
  | none => .ok none
  | some id => do
      let actor ← requireActor store actorId
      return (store.activation? id).filter fun activation =>
        decide (activation.actorId = actorId ∧ activation.reason = reason ∧
          activation.endpointGeneration = actor.generation) && activation.live

def earlier (first second : Activation) : Bool :=
  decide (first.createdAt < second.createdAt ∨
    first.createdAt = second.createdAt ∧ first.activationId ≤ second.activationId)

def inOrder (activations : List Activation) : List Activation :=
  activations.insertionSort fun first second => earlier first second = true

def activeObligationActivation (store : Store) (obligation : Obligation) (reasons : List Reason) :
    Except Error (Option Activation) := do
  let actor ← requireActor store obligation.assigneeActor
  return (inOrder store.activations).reverse.find? fun activation =>
    decide (activation.workId = obligation.workId ∧ activation.actorId = obligation.assigneeActor ∧
      activation.assignmentGeneration = some obligation.generation ∧
      activation.endpointGeneration = actor.generation ∧ activation.reason ∈ reasons ∧
      Mark.obligation obligation.obligationId ∈ activation.manifest) && activation.live

def currentObligationClaim (store : Store) (obligation : Obligation) : Except Error (Option Activation) :=
  match obligation.claimedActivationId with
  | none => .ok none
  | some id =>
      if obligation.claimedGeneration.getD 0 ≠ obligation.generation then .ok none
      else do
        let actor ← requireActor store obligation.assigneeActor
        return (store.activation? id).filter fun activation =>
          decide (activation.actorId = obligation.assigneeActor ∧ activation.status = .claimed ∧
            activation.assignmentGeneration = some obligation.generation ∧
            activation.endpointGeneration = actor.generation)

def assertCurrentAssignmentClaim (store : Store) (obligation : Obligation) (actorId : String) (activationId : Nat) :
    Except Error Unit := do
  refuse (obligation.assigneeActor ≠ actorId) (.continuity "only the assigned actor may update the assignment")
  refuse (obligation.claimedActivationId ≠ some activationId ∨
    obligation.claimedGeneration.getD 0 ≠ obligation.generation)
    (.continuity "operation requires the current claimed assignment")
  let actor ← requireActor store actorId
  let current := (store.activation? activationId).any fun activation =>
    decide (activation.status = .claimed ∧ activation.actorId = actorId ∧
      activation.endpointGeneration = actor.generation ∧
      activation.assignmentGeneration.getD 0 = obligation.generation)
  refuse (current = false) (.continuity "assignment claim is stale or unavailable")

end OrchestratorEngine.Continuity
