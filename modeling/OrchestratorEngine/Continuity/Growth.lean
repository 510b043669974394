import Mathlib.Logic.Relation
import OrchestratorEngine.Continuity.Runs

set_option autoImplicit false

namespace OrchestratorEngine.Continuity

open Foundation

-- Where an activation is created. A settlement wakes an owner without asking
-- for its stop; an arming and a repair look at fewer routes than the rest.
inductive Site where
  | ordinary | settling | arming | repairing
deriving DecidableEq

def Store.beside (store : Store) (policies : List RecoveryPolicy) (incidents : List RecoveryIncident)
    (responses : List Response) (settings : Metadata) : Store :=
  { store with
    recoveryPolicies := policies
    recoveryIncidents := incidents
    responses
    metadata := { settings with
      activationSequence := store.metadata.activationSequence
      pendingReplays := store.metadata.pendingReplays } }

inductive Pointer where
  | nothing
  | redelivered (requestId : String)
  | pointed (requestId : String)
  | replied (requestId : String)

def Pointer.change (activationId : Nat) (pointer : Pointer) (request : Request) : Request :=
  match pointer with
  | .nothing => request
  | .redelivered requestId => if request.requestId = requestId then redeliver activationId request else request
  | .pointed requestId => if request.requestId = requestId then pointRequest activationId request else request
  | .replied requestId => if request.requestId = requestId then pointReply activationId request else request

def Pointer.apply (activationId : Nat) (pointer : Pointer) (store : Store) : Store :=
  { store with requests := store.requests.map (pointer.change activationId) }

structure Made (store : Store) (work : Work) (activation : Activation) : Prop where
  row : store.work? activation.workId = some work
  actor : ∃ actor, requireActor store activation.actorId = .ok actor ∧
    activation.endpointGeneration = actor.generation
  numbered : activation.activationId = store.metadata.activationSequence + 1
  revision : activation.workRevision = work.revision
  epoch : activation.controlEpoch = work.controlEpoch
  status : activation.status = .pending

structure Addressed (obligation : Obligation) (activation : Activation) (manifest : List Mark) : Prop where
  work : activation.workId = obligation.workId
  actor : activation.actorId = obligation.assigneeActor
  generation : activation.assignmentGeneration = some obligation.generation
  manifest : activation.manifest = manifest

def linkMarks (request : Option Request) : List Mark := request.toList.map fun linked => .request linked.requestId

structure Standing (store : Store) (obligation : Obligation) (linked : Option Request)
    (assignment : Option AssignmentCheckpoint) : Prop where
  row : store.obligation? obligation.obligationId = some obligation
  status : obligation.status = .opened
  linked : store.linkedRequest? obligation.obligationId = linked
  assignment : store.checkpoint? obligation.obligationId = assignment

inductive Unrouted (store : Store) (work : Work) (activation : Activation) : Site → Prop where
  | arming (clear : ∀ old ∈ store.activations, old.workId = work.workId → old.actorId = work.ownerActor →
      old.reason = .continueCheckpoint → old.workRevision = work.revision → old.controlEpoch = work.controlEpoch →
      old.endpointGeneration = activation.endpointGeneration → old.live = false) : Unrouted store work
      activation .arming
  | repairing (clear : ∀ old ∈ store.activations, old.workId = work.workId → old.actorId = work.ownerActor →
      old.reason = .continueCheckpoint → old.active = false) : Unrouted store work activation .repairing
  | renewed (clear : ∀ old ∈ store.activations, old.workId = work.workId → old.actorId = work.ownerActor →
      old.workRevision = work.revision → old.endpointGeneration = activation.endpointGeneration →
      old.reason ≠ .continueCheckpoint ∧ old.reason ≠ .ownershipTransferred) : Unrouted store work activation .ordinary

inductive Cause (site : Site) (store : Store) (work : Work) (activation : Activation) : Pointer → Prop where
  | assigned (obligation : Obligation) (standing : Standing store obligation none none)
      (unclaimed : obligation.claimedAt = none) (ongoing : work.mode ≠ .complete)
      (idle : site = .arming ∨
        activeObligationActivation store obligation [.obligationAssigned, .obligationReminder] = .ok none)
      (reason : activation.reason = .obligationAssigned)
      (addressed : Addressed obligation activation [.obligation obligation.obligationId]) :
      Cause site store work activation .nothing
  | reminded (obligation : Obligation) (linked : Option Request) (standing : Standing store obligation linked none)
      (unclaimed : obligation.claimedAt = none) (ongoing : work.mode ≠ .complete)
      (reason : activation.reason = .obligationReminder)
      (addressed : Addressed obligation activation (linkMarks linked ++ [.obligation obligation.obligationId])) :
      Cause site store work activation .nothing
  | informed (request : Request) (row : store.request? request.requestId = some request)
      (unlinked : request.obligationId = none)
      (status : request.status = .deliveryPending ∨ request.status = .claimed)
      (idle : activeCurrentActivation store request.requestActivationId request.recipientActor
      .requestMessage = .ok none)
      (reason : activation.reason = .requestMessage) (owner : activation.workId = request.workId)
      (actor : activation.actorId = request.recipientActor) (generation : activation.assignmentGeneration = none)
      (manifest : activation.manifest = [.request request.requestId]) (pointer : Pointer)
      (written : pointer = .redelivered request.requestId ∨
        pointer = .pointed request.requestId ∧ request.status = .deliveryPending) :
      Cause site store work activation pointer
  | requested (obligation : Obligation) (request : Request)
      (standing : Standing store obligation (some request) none)
      (row : store.request? request.requestId = some request)
      (active : Option Activation)
      (found : activeCurrentActivation store request.requestActivationId request.recipientActor .requestMessage =
        .ok active)
      (idle : ∀ current ∈ active, current.assignmentGeneration.getD 0 ≠ obligation.generation)
      (reason : activation.reason = .requestMessage)
      (addressed : Addressed obligation activation [.request request.requestId, .obligation obligation.obligationId])
      (pointer : Pointer)
      (written : pointer = .redelivered request.requestId ∨
        pointer = .pointed request.requestId ∧ request.status = .deliveryPending) :
      Cause site store work activation pointer
  | replied (request : Request) (row : store.request? request.requestId = some request)
      (status : request.status = .replyReady)
      (idle : activeCurrentActivation store request.replyActivationId request.returnActor .requestReply = .ok none)
      (reason : activation.reason = .requestReply) (owner : activation.workId = request.workId)
      (actor : activation.actorId = request.returnActor) (generation : activation.assignmentGeneration = none)
      (response : String) (outcome : Option Outcome)
      (manifest : activation.manifest =
        [.request request.requestId, .response response] ++ outcome.toList.map .outcome) :
      Cause site store work activation (.replied request.requestId)
  | carried (obligation : Obligation) (linked : Option Request) (assignment : AssignmentCheckpoint)
      (standing : Standing store obligation linked (some assignment)) (mode : assignment.mode = .continues)
      (idle : activeObligationActivation store obligation [.assignmentContinue] = .ok none)
      (reason : activation.reason = .assignmentContinue) (marks : List Mark)
      (shown : marks = [] ∨ marks = linkMarks linked)
      (addressed : Addressed obligation activation (marks ++ [.obligation obligation.obligationId])) :
      Cause site store work activation .nothing
  | controlled (obligation : Obligation) (linked : Option Request) (assignment : AssignmentCheckpoint)
      (standing : Standing store obligation linked (some assignment)) (mode : assignment.mode = .paused)
      (unclaimed : currentObligationClaim store obligation = .ok none)
      (idle : activeObligationActivation store obligation [.assignmentPausedControl] = .ok none)
      (ongoing : work.mode ≠ .complete ∨ linked ≠ none)
      (reason : activation.reason = .assignmentPausedControl)
      (addressed : Addressed obligation activation (linkMarks linked ++ [.obligation obligation.obligationId])) :
      Cause site store work activation .nothing
  | woken (obligation : Obligation) (linked : Option Request) (assignment : AssignmentCheckpoint)
      (standing : Standing store obligation linked (some assignment)) (mode : assignment.mode = .waiting)
      (current : assignment.assignmentGeneration = obligation.generation)
      (idle : activeAssignmentWaitActivation store obligation = .ok none)
      (ongoing : work.mode ≠ .complete ∨ linked ≠ none)
      (reason : activation.reason = .assignmentWaitSatisfied) (world : World) (outcomes : List Outcome)
      (satisfied : assignmentWaitSatisfied world store obligation.obligationId = some outcomes)
      (addressed : Addressed obligation activation (.obligation obligation.obligationId :: outcomes.map .outcome)) :
      Cause site store work activation .nothing
  | continued (mode : work.mode = .continues) (unrouted : Unrouted store work activation site)
      (reason : activation.reason = .continueCheckpoint) (actor : activation.actorId = work.ownerActor)
      (generation : activation.assignmentGeneration = none) (manifest : activation.manifest = []) :
      Cause site store work activation .nothing
  | satisfied (world : World) (mode : work.mode = .waiting) (reason : activation.reason = .waitSatisfied)
      (actor : activation.actorId = work.ownerActor) (generation : activation.assignmentGeneration = none)
      (ready : waitSatisfied store work.workId = true)
      (manifest : activation.manifest = (waitResultManifest world store work.workId).map .outcome)
      (idle : waitCompletionRoute store work (waitResultManifest world store work.workId) = .ok none) :
      Cause site store work activation .nothing
  | handedOver (handing : site = .ordinary) (ongoing : work.mode ≠ .complete)
      (reason : activation.reason = .ownershipTransferred) (actor : activation.actorId = work.ownerActor)
      (generation : activation.assignmentGeneration = none)
      (manifest : activation.manifest = []) : Cause site store work activation .nothing
  | assignmentRecovered (obligation : Obligation) (linked : Option Request) (assignment : Option AssignmentCheckpoint)
      (standing : Standing store obligation linked assignment)
      (ongoing : work.mode ≠ .complete ∨ linked ≠ none)
      (reason : activation.reason = .assignmentRecovery)
      (addressed : Addressed obligation activation (linkMarks linked ++ [.obligation obligation.obligationId])) :
      Cause site store work activation .nothing
  | replyRecovered (request : Request) (row : store.request? request.requestId = some request)
      (status : request.status = .replyReady) (source : Nat)
      (reason : activation.reason = .workRecovery) (owner : activation.workId = request.workId)
      (actor : activation.actorId = request.returnActor) (generation : activation.assignmentGeneration = none)
      (manifest : activation.manifest = [.request request.requestId, .activation source]) :
      Cause site store work activation .nothing
  | workRecovered (ongoing : work.mode = .continues ∨ work.mode = .waiting)
      (reason : activation.reason = .workRecovery) (actor : activation.actorId = work.ownerActor)
      (generation : activation.assignmentGeneration = none) (source : Nat)
      (manifest : activation.manifest = [.activation source]) : Cause site store work activation .nothing

def Quiet (site : Site) (store : Store) (activation : Activation) : Prop :=
  site = .settling ∧ activation.reason = .waitSatisfied ∨
    effectiveExplicitStop store activation.workId activation.actorId = none

-- The steps of every helper that restores routes: they create activations
-- and keep the books of recovery, and change nothing else.
inductive Growth (site : Site) (start : Database) : Database → Prop where
  | create (work : Work) (activation : Activation) (pointer : Pointer) (made : Made start.store work activation)
      (cause : Cause site start.store work activation pointer) (quiet : Quiet site start.store activation) :
      Growth site start ⟨pointer.apply activation.activationId (start.store.insertActivation activation),
        start.log ++ [⟨start.store, activation⟩]⟩
  | beside (policies : List RecoveryPolicy) (incidents : List RecoveryIncident) (responses : List Response)
      (settings : Metadata) : Growth site start ⟨start.store.beside policies incidents responses settings, start.log⟩

abbrev Grows (site : Site) : Database → Database → Prop := Relation.ReflTransGen (Growth site)

structure Framed (before after : Store) : Prop where
  actors : after.actors = before.actors
  works : after.works = before.works
  obligations : after.obligations = before.obligations
  results : after.results = before.results
  waits : after.waits = before.waits
  handledResults : after.handledResults = before.handledResults
  resultAliases : after.resultAliases = before.resultAliases
  assignmentCheckpoints : after.assignmentCheckpoints = before.assignmentCheckpoints
  assignmentHandledResults : after.assignmentHandledResults = before.assignmentHandledResults
  recoveryControls : after.recoveryControls = before.recoveryControls
  diagnostics : after.diagnostics = before.diagnostics
  pendingReplays : after.metadata.pendingReplays = before.metadata.pendingReplays

theorem Framed.refl (store : Store) : Framed store store :=
  ⟨rfl, rfl, rfl, rfl, rfl, rfl, rfl, rfl, rfl, rfl, rfl, rfl⟩

theorem Framed.trans {first second third : Store} (lower : Framed first second) (upper : Framed second third) :
    Framed first third where
  actors := upper.actors.trans lower.actors
  works := upper.works.trans lower.works
  obligations := upper.obligations.trans lower.obligations
  results := upper.results.trans lower.results
  waits := upper.waits.trans lower.waits
  handledResults := upper.handledResults.trans lower.handledResults
  resultAliases := upper.resultAliases.trans lower.resultAliases
  assignmentCheckpoints := upper.assignmentCheckpoints.trans lower.assignmentCheckpoints
  assignmentHandledResults := upper.assignmentHandledResults.trans lower.assignmentHandledResults
  recoveryControls := upper.recoveryControls.trans lower.recoveryControls
  diagnostics := upper.diagnostics.trans lower.diagnostics
  pendingReplays := upper.pendingReplays.trans lower.pendingReplays

variable {site : Site}

theorem Growth.framed {start next : Database} (growth : Growth site start next) :
    Framed start.store next.store := by
  cases growth with
  | create work activation pointer _ _ _ => exact ⟨rfl, rfl, rfl, rfl, rfl, rfl, rfl, rfl, rfl, rfl, rfl, rfl⟩
  | beside _ _ _ _ => exact ⟨rfl, rfl, rfl, rfl, rfl, rfl, rfl, rfl, rfl, rfl, rfl, rfl⟩

theorem Grows.framed {start final : Database} (grows : Grows site start final) :
    Framed start.store final.store := by
  induction grows with
  | refl => exact Framed.refl _
  | tail _ last ih => exact ih.trans last.framed

section Inserted

variable (store : Store) (activation : Activation)

@[simp] theorem insert_requests : (store.insertActivation activation).requests = store.requests := rfl

@[simp] theorem insert_obligation (obligationId : String) :
    (store.insertActivation activation).obligation? obligationId = store.obligation? obligationId := rfl

@[simp] theorem insert_linked (obligationId : String) :
    (store.insertActivation activation).linkedRequest? obligationId = store.linkedRequest? obligationId := rfl

end Inserted

section Pointers

variable (activationId : Nat) (pointer : Pointer) (request : Request)

@[simp] theorem change_request_id : (pointer.change activationId request).requestId = request.requestId := by
  cases pointer <;> simp only [Pointer.change] <;> first | rfl | (split <;> rfl)

@[simp] theorem change_obligation_id : (pointer.change activationId request).obligationId = request.obligationId := by
  cases pointer <;> simp only [Pointer.change] <;> first | rfl | (split <;> rfl)

@[simp] theorem change_work_id : (pointer.change activationId request).workId = request.workId := by
  cases pointer <;> simp only [Pointer.change] <;> first | rfl | (split <;> rfl)

@[simp] theorem change_recipient : (pointer.change activationId request).recipientActor = request.recipientActor := by
  cases pointer <;> simp only [Pointer.change] <;> first | rfl | (split <;> rfl)

@[simp] theorem change_terminal :
    (pointer.change activationId request).terminalResponseId = request.terminalResponseId := by
  cases pointer <;> simp only [Pointer.change] <;> first | rfl | (split <;> rfl)

@[simp] theorem apply_nothing (store : Store) : Pointer.nothing.apply activationId store = store := by
  have same : Pointer.nothing.change activationId = id := rfl
  simp [Pointer.apply, same]

variable (requestId : String)

theorem apply_pointed (store : Store) :
    (Pointer.pointed requestId).apply activationId store = amendRequest requestId
    (pointRequest activationId) store := rfl

@[simp] theorem apply_obligation (store : Store) (obligationId : String) :
    (pointer.apply activationId store).obligation? obligationId = store.obligation? obligationId := rfl

@[simp] theorem apply_request (store : Store) (requestId : String) :
    (pointer.apply activationId store).request? requestId =
      (store.request? requestId).map (pointer.change activationId) :=
  row_map Request.requestId (pointer.change activationId) (change_request_id activationId pointer)
    requestId store.requests

@[simp] theorem apply_linked (store : Store) (obligationId : String) :
    (pointer.apply activationId store).linkedRequest? obligationId =
      (store.linkedRequest? obligationId).map (pointer.change activationId) := by
  have same : (fun request => decide (request.obligationId = some obligationId)) ∘ pointer.change activationId =
      fun request => decide (request.obligationId = some obligationId) := by
    funext request
    rw [Function.comp_apply, change_obligation_id]
  change (store.requests.map (pointer.change activationId)).find? _ = _
  rw [List.find?_map, same]
  rfl

end Pointers

theorem Growth.linked_id {start next : Database} (growth : Growth site start next)
    (obligationId : String) :
    (next.store.linkedRequest? obligationId).map Request.requestId =
      (start.store.linkedRequest? obligationId).map Request.requestId := by
  cases growth with
  | beside _ _ _ _ => rfl
  | create work activation pointer _ _ _ => simp [Option.map_map, Function.comp_def]

theorem Grows.linked_id {start final : Database} (grows : Grows site start final)
    (obligationId : String) :
    (final.store.linkedRequest? obligationId).map Request.requestId =
      (start.store.linkedRequest? obligationId).map Request.requestId := by
  induction grows with
  | refl => rfl
  | tail _ last ih => exact (last.linked_id obligationId).trans ih

theorem link_marks_same {first second : Option Request}
    (same : first.map Request.requestId = second.map Request.requestId) :
    linkMarks first = linkMarks second := by
  cases first <;> cases second <;> simp_all [linkMarks]

end OrchestratorEngine.Continuity
