import OrchestratorEngine.Continuity.Inspections

set_option autoImplicit false

namespace OrchestratorEngine.Continuity

open Foundation

inductive Recorded (source : SourceKey) (status : String) (before : List Result) : List Result → Outcome → Prop where
  | updated (row : Result) (listed : row ∈ before) (same : row.sourceKey = source) (digest : Digest)
      (eventId : Option String) (data : Data) :
      Recorded source status before (before.map (updateResult row.outcomeId digest eventId data)) row.outcomeId
  | inserted (row : Result) (fresh : ∀ old ∈ before, old.outcomeId ≠ row.outcomeId) (same : row.sourceKey = source)
      (kept : row.status = status) (named : row.outcomeId.source = source) :
      Recorded source status before (before ++ [row]) row.outcomeId

inductive Restore (site : Site) (start : Database) : Database → Prop where
  | grow {next : Database} (growth : Growth site start next) : Restore site start next
  | record (source : SourceKey) (status : String) (results : List Result) (outcome : Outcome)
      (recorded : Recorded source status start.store.results results outcome)
      (external : source.kind ≠ .obligation) : Restore site start ⟨{ start.store with results }, start.log⟩

abbrev Restores (site : Site) : Database → Database → Prop := Relation.ReflTransGen (Restore site)

theorem Restore.framed {site : Site} {start next : Database} (restored : Restore site start next) :
    Framed { start.store with results := next.store.results } next.store := by
  cases restored with
  | grow growth =>
      have framed := growth.framed
      exact ⟨framed.actors, framed.works, framed.obligations, rfl, framed.waits, framed.handledResults,
        framed.resultAliases, framed.assignmentCheckpoints, framed.assignmentHandledResults, framed.recoveryControls,
        framed.diagnostics, framed.pendingReplays⟩
  | record _ _ _ _ _ _ => exact Framed.refl _

theorem Restores.framed {site : Site} {start final : Database} (restored : Restores site start final) :
    Framed { start.store with results := final.store.results } final.store := by
  induction restored with
  | refl => exact Framed.refl _
  | tail _ last ih =>
      have framed := last.framed
      exact ⟨framed.actors.trans ih.actors, framed.works.trans ih.works, framed.obligations.trans ih.obligations, rfl,
        framed.waits.trans ih.waits, framed.handledResults.trans ih.handledResults,
        framed.resultAliases.trans ih.resultAliases, framed.assignmentCheckpoints.trans ih.assignmentCheckpoints,
        framed.assignmentHandledResults.trans ih.assignmentHandledResults,
        framed.recoveryControls.trans ih.recoveryControls, framed.diagnostics.trans ih.diagnostics,
        framed.pendingReplays.trans ih.pendingReplays⟩

theorem Restores.linked_id {site : Site} {start final : Database} (restored : Restores site start final)
    (obligationId : String) :
    (final.store.linkedRequest? obligationId).map Request.requestId =
      (start.store.linkedRequest? obligationId).map Request.requestId := by
  induction restored with
  | refl => rfl
  | tail _ last ih =>
      cases last with
      | grow growth => exact (growth.linked_id obligationId).trans ih
      | record _ _ _ _ _ _ => exact ih

def Call.site : Call → Site
  | .requestRespond _ => .settling
  | .resolveObligation _ => .settling
  | .setRecoveryControl _ => .arming
  | .selfCheck _ => .repairing
  | _ => .ordinary

def Store.settle (store : Store) (obligationId : String) (status : ObligationStatus) (resultRef : String)
    (chosen : Activation → Bool) (results : List Result) : Store :=
  { (amendObligation obligationId (fun row => row.settled status resultRef) store).revokeWhere chosen with results }

structure Fenced (store : Store) (obligation : Obligation) (actorId : String) (activationId : Nat) : Prop where
  assignee : obligation.assigneeActor = actorId
  claimed : obligation.claimedActivationId = some activationId
  generation : obligation.claimedGeneration.getD 0 = obligation.generation
  current : ∃ actor activation, requireActor store actorId = .ok actor ∧
    store.activation? activationId = some activation ∧ activation.status = .claimed ∧ activation.actorId = actorId ∧
    activation.endpointGeneration = actor.generation

structure Settling (store : Store) (obligation : Obligation) (actorId : String) (activationId : Nat)
    (status : ObligationStatus) (results : List Result) (outcome : Outcome) : Prop where
  row : store.obligation? obligation.obligationId = some obligation
  opened : obligation.status = .opened
  ended : status ≠ .opened
  fence : Fenced store obligation actorId activationId
  recorded : Recorded (obligationSource obligation.obligationId) status.text store.results results outcome

def Store.advance (store : Store) (workId : String) (mode : WorkMode) (chosen : Activation → Bool)
    (handledResults : List HandledResult) (waits : List Wait)
    (pendingReplays : Dict String (Dict Outcome Nat)) : Store :=
  let works := store.works.map fun work => if work.workId = workId then work.advanced mode else work
  { store.revokeWhere chosen with works, handledResults, waits, metadata := { store.metadata with pendingReplays } }

structure Fencing (store : Store) (work : Work) (mode : WorkMode) (chosen : Activation → Bool) : Prop where
  own : ∀ activation ∈ store.activations, chosen activation = true → activation.workId = work.workId
  product : mode = .complete → ∀ activation ∈ store.activations, activation.workId = work.workId →
    activation.active = true → (chosen activation = true ↔ communication store activation = .ok false) ∧
      ∃ answer, communication store activation = .ok answer
  control : mode ≠ .complete → ∀ activation ∈ store.activations, (chosen activation = true ↔
    activation.workId = work.workId ∧ activation.actorId = work.ownerActor ∧ activation.reason.ownerControl = true ∧
      ¬ (activation.reason = .workRecovery ∧ names Mark.request? activation.manifest = true))

def Store.hand (store : Store) (workId fromActor toActor : String) : Store :=
  revokeOwnerControlActivations workId fromActor (amendWork workId (fun row => row.transferred toActor) store)

def Store.rebind (store : Store) (actor : Actor) : Store := putActor actor (revokeActor actor.actorId store)

def Store.renew (store : Store) (obligation : Obligation) : Store :=
  stampCheckpoint obligation.obligationId (obligation.generation + 1)
    (amendObligation obligation.obligationId Obligation.renewed store)

def Store.step (store : Store) (obligation : Obligation) (row : AssignmentCheckpoint) : Store :=
  let moved := if row.mode = .paused then store
    else amendObligation obligation.obligationId Obligation.renewed store
  putCheckpoint row (revokeObligationActivations obligation.obligationId moved)

-- How the ledger of a work moves at one of its checkpoints. An outcome leaves
-- it when it is to be processed again, and enters it through a reply or
-- through a claimed wait, which must be recent enough while a replay is due.
structure Acknowledging (before : Store) (taken : WorkStep) (work : Work) (handledResults : List HandledResult)
    (waits : List Wait) (replays : Dict String (Dict Outcome Nat)) : Prop where
  others : ∀ row : HandledResult, row.workId ≠ taken.workId → (row ∈ handledResults ↔ row ∈ before.handledResults)
  lost : ∀ outcome ∈ before.ledger taken.workId, outcome ∉ Store.ledger { before with handledResults } taken.workId →
    ∃ named ∈ taken.reprocessResults, resolveOutcomeAlias before named = .ok outcome
  gained : ∀ outcome ∈ Store.ledger { before with handledResults } taken.workId, outcome ∉ before.ledger taken.workId →
    (before.source? outcome).isSome = true ∧ ∀ requested,
      (Continuity.pendingReplays before taken.workId).get? outcome = some requested →
        ∃ activation ∈ before.activations, ∃ actor, activation.workId = taken.workId ∧
          activation.actorId = taken.actorId ∧ activation.reason = .waitSatisfied ∧ activation.status = .claimed ∧
          Mark.outcome outcome ∈ activation.manifest ∧ requested ≤ activation.workRevision ∧
          requireActor before taken.actorId = .ok actor ∧ activation.endpointGeneration = actor.generation
  covered : ∀ wait ∈ waits, wait.workId = taken.workId →
    ∀ outcome ∈ Store.ledger { before with handledResults } taken.workId, ∀ source,
      before.source? outcome = some source → source ∈ wait.sources → outcome ∈ wait.handled
  elsewhere : ∀ workId, workId ≠ taken.workId → replays.get? workId = before.metadata.pendingReplays.get? workId
  decided : ∀ named ∈ taken.reprocessResults, ∀ outcome, resolveOutcomeAlias before named = .ok outcome →
    ((replays.get? taken.workId).getD Dict.empty).get? outcome = some (work.revision + 1)
  due : ∀ outcome requested, (Continuity.pendingReplays before taken.workId).get? outcome = some requested →
    taken.mode = .complete ∨ outcome ∈ Store.ledger { before with handledResults } taken.workId ∨
      ((replays.get? taken.workId).getD Dict.empty).get? outcome = some requested ∨
      ∃ named ∈ taken.reprocessResults, resolveOutcomeAlias before named = .ok outcome

inductive Edit (call : Call) (before : Store) : Store → Prop where
  | enlist (registration : Registration) (called : call = .registerActor registration) (actor : Actor)
    (active : actor.active = true)
      (same : ∀ old, before.actor? actor.actorId = some old →
        old.generation = actor.generation ∧ old.endpoint = actor.endpoint) :
      Edit call before (putActor actor before)
  | rebind (registration : Registration) (called : call = .registerActor registration) (old actor : Actor)
      (row : before.actor? actor.actorId = some old) (active : actor.active = true)
      (raised : actor.generation = old.generation + 1) (named : actor.actorId = registration.actorId) :
      Edit call before (before.rebind actor)
  | renew (registration : Registration) (called : call = .registerActor registration) (obligation : Obligation)
      (row : before.obligation? obligation.obligationId = some obligation) (opened : obligation.status = .opened)
      (assignee : obligation.assigneeActor = registration.actorId)
      (idle : ∀ activation ∈ before.activations, Mark.obligation obligation.obligationId ∈ activation.manifest →
        activation.active = false) :
      Edit call before (before.renew obligation)
  | begin (work : Work) (fresh : before.work? work.workId = none) (mode : work.mode = .paused) :
      Edit call before { before with works := before.works ++ [work] }
  | opening (obligation : Obligation) (fresh : before.obligation? obligation.obligationId = none)
      (opened : obligation.status = .opened) (unclaimed : obligation.claimedActivationId = none)
      (unset : obligation.claimedAt = none) (generation : obligation.generation = 1) (work : Work)
      (owner : before.work? obligation.workId = some work) (ongoing : work.mode ≠ .complete) :
      Edit call before (insertObligation obligation before)
  | sending (request : Request) (obligation : Option Obligation)
      (fresh : ∀ old ∈ before.requests, old.requestId ≠ request.requestId)
      (status : request.status = .deliveryPending) (unsent : request.requestActivationId = none)
      (unanswered : request.terminalResponseId = none) (unrouted : request.replyActivationId = none)
      (asked : request.obligationId.isSome = request.requiresReply)
      (linked : obligation.map Obligation.obligationId = request.obligationId)
      (opened : ∀ row ∈ obligation, before.obligation? row.obligationId = none ∧ row.status = .opened ∧
        row.claimedActivationId = none ∧ row.claimedAt = none ∧ row.generation = 1 ∧
        row.workId = request.workId ∧ row.assigneeActor = request.recipientActor)
      (work : Work) (owner : before.work? request.workId = some work) (ongoing : work.mode ≠ .complete)
      (unused : ∀ old ∈ before.requests, old.idempotencyKey ≠ request.idempotencyKey) :
      Edit call before (insertRequest request obligation before)
  | settle (resolving : Resolving) (called : call = .resolveObligation resolving) (obligation : Obligation)
      (results : List Result) (outcome : Outcome) (resultRef : String)
      (settling : Settling before obligation resolving.actorId resolving.activationId resolving.statusValue results
        outcome) (named : obligation.obligationId = resolving.obligationId)
      (unlinked : before.linkedRequest? obligation.obligationId = none) (work : Work)
      (owner : before.work? obligation.workId = some work) (ongoing : work.mode ≠ .complete) :
      Edit call before (before.settle obligation.obligationId resolving.statusValue resultRef
        (fun activation => decide (Mark.obligation obligation.obligationId ∈ activation.manifest)) results)
  | progress (responding : Responding) (called : call = .requestRespond responding) (request : Request) 
      (row : before.request? request.requestId = some request) (obligation : Obligation)
      (linked : request.obligationId = some obligation.obligationId)
      (found : before.obligation? obligation.obligationId = some obligation) (opened : obligation.status = .opened)
      (unanswered : request.terminalResponseId = none)
      (fence : Fenced before obligation responding.actorId responding.activationId) :
      Edit call before (amendRequest request.requestId markClaimed before)
  | handle (request : Request) (row : before.request? request.requestId = some request)
      (status : request.status = .replyReady) :
      Edit call before (revokeManifestActivations (.request request.requestId) [.workRecovery]
        (amendRequest request.requestId markHandled before))
  | noted (assignmentHandledResults : List AssignmentHandledResult) :
      Edit call before { before with assignmentHandledResults }
  | step (taken : AssignmentStep) (called : call = .assignmentCheckpoint taken) (obligation : Obligation)
      (row : AssignmentCheckpoint) (found : before.obligation? obligation.obligationId = some obligation)
      (opened : obligation.status = .opened)
      (fence : Fenced before obligation taken.actorId taken.activationId)
      (taking : obligation.obligationId = taken.obligationId) (mode : row.mode = taken.mode)
      (named : row.obligationId = obligation.obligationId)
      (stamped : row.assignmentGeneration =
        if row.mode = .paused then obligation.generation else obligation.generation + 1) :
      Edit call before (before.step obligation row)
  | stop (control : RecoveryControl) (stopped : control.state = .stopped) (steering : Steering)
      (called : call = .setRecoveryControl steering) (kind : control.scopeKind = steering.scopeKind)
      (scope : control.scopeId = steering.scopeId) (state : steering.state = .stopped) :
      Edit call before ((putControl control before).revokeWhere (inScope control.scopeKind control.scopeId))
  | arm (control : RecoveryControl) (armed : control.state = .armed) (steering : Steering)
      (called : call = .setRecoveryControl steering) : Edit call before (putControl control before)
  | advance (taken : WorkStep) (called : call = .checkpoint taken) (work : Work)
      (row : before.work? work.workId = some work) (owner : work.ownerActor = taken.actorId)
      (named : work.workId = taken.workId) (ongoing : work.mode ≠ .complete)
      (required : taken.mode = .complete → openRequired before work.workId = [])
      (chosen : Activation → Bool) (fencing : Fencing before work taken.mode chosen)
      (handledResults : List HandledResult) (waits : List Wait)
      (waiting : taken.mode = .waiting → ∃ wait : Wait, wait.workId = work.workId ∧
        waits = put Wait.workId wait before.waits)
      (left : taken.mode ≠ .waiting → waits = before.waits.filter fun wait => decide (wait.workId ≠ work.workId))
      (pendingReplays : Dict String (Dict Outcome Nat))
      (acknowledging : Acknowledging before taken work handledResults waits pendingReplays) :
      Edit call before (before.advance work.workId taken.mode chosen handledResults waits pendingReplays)
  | hand (handover : Transfer) (called : call = .transfer handover) (work : Work)
      (row : before.work? work.workId = some work) (owner : work.ownerActor = handover.fromActor)
      (named : work.workId = handover.workId) (ongoing : work.mode ≠ .complete) :
      Edit call before (before.hand work.workId handover.fromActor handover.toActor)
  | claim (world : World) (activation : Activation) (actorId : String) (expectedEpoch : Nat)
      (called : call = .claim activation.activationId actorId expectedEpoch)
      (row : before.activation? activation.activationId = some activation) (obligation : Option Obligation)
      (request : Option Request)
      (granted : grant before activation actorId expectedEpoch = .ok (.fresh obligation request)) :
      Edit call before (recordClaim world activation obligation request
        (claimActivation activation.activationId world.now before))
  | published (activationId : Nat) : Edit call before (markPublished activationId before)
  | failed (activationId : Nat) (error : String) : Edit call before (markFailed activationId error before)

def Store.answered (store : Store) (request : Request) (obligation : Obligation) (status : ObligationStatus)
    (resultRef : String) (results : List Result) : Store :=
  store.settle obligation.obligationId status resultRef
    (fun activation => decide (activation.actorId = request.recipientActor ∧
      Mark.request request.requestId ∈ activation.manifest)) results

inductive Move (call : Call) (start : Database) : Database → Prop where
  | restore {next : Database} (restored : Restore call.site start next) : Move call start next
  | edit {after : Store} (edited : Edit call start.store after) : Move call start ⟨after, start.log⟩
  | respond (responding : Responding) (called : call = .requestRespond responding) (request : Request)
      (row : start.store.request? request.requestId = some request) (obligation : Obligation)
      (linked : request.obligationId = some obligation.obligationId) (unanswered : request.terminalResponseId = none)
      (status : ObligationStatus) (results : List Result) (outcome : Outcome) (resultRef : String)
      (settling : Settling start.store obligation responding.actorId responding.activationId status results outcome)
      (asked : request.requestId = responding.requestId) (responseId : String)
      (stopped : effectiveExplicitStop start.store request.workId request.returnActor ≠ none) :
      Move call start ⟨amendRequest request.requestId (replyReady responseId none)
        (start.store.answered request obligation status resultRef results), start.log⟩
  | reply (responding : Responding) (called : call = .requestRespond responding) (request : Request)
      (row : start.store.request? request.requestId = some request) (obligation : Obligation)
      (linked : request.obligationId = some obligation.obligationId) (unanswered : request.terminalResponseId = none)
      (status : ObligationStatus) (results : List Result) (outcome : Outcome) (resultRef : String)
      (settling : Settling start.store obligation responding.actorId responding.activationId status results outcome)
      (asked : request.requestId = responding.requestId) (responseId : String) (work : Work)
      (activation : Activation)
      (made : Made (start.store.answered request obligation status resultRef results) work activation)
      (quiet : effectiveExplicitStop start.store activation.workId activation.actorId = none)
      (reason : activation.reason = .requestReply) (owner : activation.workId = request.workId)
      (actor : activation.actorId = request.returnActor) (generation : activation.assignmentGeneration = none)
      (manifest : activation.manifest = [.request request.requestId, .response responseId, .outcome outcome]) :
      Move call start ⟨amendRequest request.requestId (replyReady responseId (some activation.activationId))
        ((start.store.answered request obligation status resultRef results).insertActivation activation),
        start.log ++ [⟨start.store.answered request obligation status resultRef results, activation⟩]⟩
  | report (asked : call = .selfCheck true ∨ ∃ diagnosticId actorId correction,
        call = .resolveDiagnostic diagnosticId actorId correction) (diagnostics : List Diagnostic) :
      Move call start ⟨{ start.store with diagnostics }, start.log⟩

abbrev Moves (call : Call) : Database → Database → Prop := Relation.ReflTransGen (Move call)

end OrchestratorEngine.Continuity
