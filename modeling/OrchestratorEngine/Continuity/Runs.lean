import Mathlib.Data.List.Induction
import OrchestratorEngine.Continuity.SelfCheck

set_option autoImplicit false

namespace OrchestratorEngine.Continuity

open Foundation

structure Published where
  store : Store
  published : List Nat := []
  errors : List (Nat × String) := []
  interrupted : Bool := false

def markPublished (activationId : Nat) (store : Store) : Store :=
  { store with
    activations := store.activations.map fun activation =>
      if activation.activationId = activationId ∧ activation.status = .pending then
        { activation with status := .published }
      else activation
    outbox := store.outbox.map fun row =>
      if row.activationId = activationId then
        { row with status := .published, attempts := row.attempts + 1, lastError := none }
      else row }

def markFailed (activationId : Nat) (error : String) (store : Store) : Store :=
  { store with outbox := store.outbox.map fun row =>
    if row.activationId = activationId then { row with attempts := row.attempts + 1, lastError := some error }
    else row }

def publishOne (world : World) (state : Published) (activationId : Nat) : Published :=
  if state.interrupted then state
  else
    match world.attempt activationId with
    | .delivered => { state with
        store := markPublished activationId state.store
        published := state.published ++ [activationId] }
    | .failed error => { state with
        store := markFailed activationId error state.store
        errors := state.errors ++ [(activationId, error)] }
    | .interrupted => { state with interrupted := true }

def unpublished (store : Store) : List Nat :=
  (inOrder (store.activations.filter fun activation => decide (activation.status = .pending) &&
    store.outbox.any fun row => decide (row.activationId = activation.activationId ∧ row.status = .pending))).map
    Activation.activationId

def publishPending (world : World) (store : Store) : Published :=
  (unpublished store).foldl (publishOne world) { store }

inductive Call where
  | registerActor (registration : Registration)
  | startWork (beginning : Beginning)
  | resolveDiagnostic (diagnosticId : Finding) (actorId correction : String)
  | openObligation (opening : Opening)
  | requestSend (sending : Sending)
  | requestRespond (responding : Responding)
  | requestHandle (requestId actorId : String) (activationId : Nat)
  | assignmentCheckpoint (step : AssignmentStep)
  | configureRecovery (enabled : Bool) (intervalSeconds maxIntervalSeconds : Int)
  | adoptRecovery (workIds : List String) (actorId : String) (intervalSeconds maxIntervalSeconds : Option Int)
  | setRecoveryControl (steering : Steering)
  | resolveObligation (resolving : Resolving)
  | checkpoint (step : WorkStep)
  | transfer (handover : Transfer)
  | claim (activationId : Nat) (actorId : String) (expectedEpoch : Nat)
  | observeSignal (signal : Signal)
  | publishPending
  | reconcile
  | selfCheck (repair : Bool)

inductive Reply where
  | done
  | activation (activationId : Option Nat)
  | idempotent (value : Bool)
  | assignment (reply : AssignmentReply)
  | claim (reply : ClaimReply)
  | reconciled (reconciliation : Reconciliation)
  | checked (report : CheckReport)
deriving DecidableEq

-- What follows the commit of a call: nothing, the publication of the outbox
-- with its errors in the reply, or one that raises them.
inductive Afterwards where
  | settle | publish | publishOrRaise
deriving DecidableEq

def claimAfterwards : ClaimReply → Afterwards
  | .claimed _ false => .publishOrRaise
  | _ => .settle

def transact (world : World) : Call → Transaction (Reply × Afterwards)
  | .registerActor registration => do
      registerActor world registration
      return (.done, .publishOrRaise)
  | .startWork beginning => do
      startWork beginning
      return (.done, .settle)
  | .resolveDiagnostic diagnosticId actorId correction => do
      resolveDiagnostic world diagnosticId actorId correction
      return (.done, .settle)
  | .openObligation opening => do
      let created ← openObligation world opening
      return (.activation created, .publishOrRaise)
  | .requestSend sending => do
      let idempotent ← requestSend world sending
      return (.idempotent idempotent, .publishOrRaise)
  | .requestRespond responding => do
      let idempotent ← requestRespond world responding
      return (.idempotent idempotent, .publishOrRaise)
  | .requestHandle requestId actorId activationId => do
      let idempotent ← requestHandle requestId actorId activationId
      return (.idempotent idempotent, .settle)
  | .assignmentCheckpoint step => do
      let reply ← assignmentCheckpoint world step
      return (.assignment reply, .publishOrRaise)
  | .configureRecovery enabled interval maximum => do
      configureRecovery enabled interval maximum
      return (.done, .settle)
  | .adoptRecovery workIds actorId interval maximum => do
      adoptRecovery workIds actorId interval maximum
      return (.done, .settle)
  | .setRecoveryControl steering => do
      setRecoveryControl world steering
      return (.done, .publishOrRaise)
  | .resolveObligation resolving => do
      let idempotent ← resolveObligation world resolving
      return (.idempotent idempotent, .publishOrRaise)
  | .checkpoint step => do
      let created ← checkpoint world step
      return (.activation created, .publishOrRaise)
  | .transfer handover => do
      let created ← transfer world handover
      return (.activation created, .publishOrRaise)
  | .claim activationId actorId expectedEpoch => do
      let reply ← claim world activationId actorId expectedEpoch
      return (.claim reply, claimAfterwards reply)
  | .observeSignal signal => do
      let changed ← observeSignal world signal
      return (.idempotent (!changed), if changed then .publishOrRaise else .settle)
  | .publishPending => return (.done, .publish)
  | .reconcile => do
      let reconciliation ← reconcile world
      return (.reconciled reconciliation, .publish)
  | .selfCheck repair => do
      let report ← selfCheck world repair
      return (.checked report, if repair then .publish else .settle)

-- How a call ended: the database it leaves, the activations its transaction
-- created, the errors of its publication, and what it returned or raised.
structure Answer where
  store : Store
  created : List Creation := []
  errors : List (Nat × String) := []
  reply : Except Error Reply

def publicationError : List (Nat × String) → Option Error
  | [] => none
  | (_, error) :: _ => some (.publication ("continuity state was committed but activation publication failed; " ++
      "run continuity reconcile: " ++ error))

def conclude (world : World) (session : Database) (reply : Reply) : Afterwards → Answer
  | .settle => ⟨session.store, session.log, [], .ok reply⟩
  | .publish =>
      let publication := publishPending world session.store
      ⟨publication.store, session.log, publication.errors,
        if publication.interrupted then .error .interrupted else .ok reply⟩
  | .publishOrRaise =>
      let publication := publishPending world session.store
      ⟨publication.store, session.log, publication.errors,
        if publication.interrupted then .error .interrupted
        else (publicationError publication.errors).elim (.ok reply) .error⟩

def perform (world : World) (call : Call) (store : Store) : Answer :=
  match transact world call ⟨store, []⟩ with
  | .error error => ⟨store, [], [], .error error⟩
  | .ok ((reply, afterwards), session) => conclude world session reply afterwards

abbrev Run := List (World × Call)

def run (calls : Run) (store : Store) : Store :=
  calls.foldl (fun reached step => (perform step.1 step.2 reached).store) store

def initialized : Store := {}

def World.calm (now : Int) (retained : SourceKey → Observation) : World where
  now
  created := fun sequence => sequence
  recorded := fun position => position
  retained
  contentSha256 := fun _ => none
  requestDigest := fun requestId => if requestId = "request" then "71cc0698dde501ddc28ef264" else requestId
  signalResult := none
  signalArtifacts := []
  rank := fun _ => 0
  sourceRank := fun _ => 0
  preflight := .ok ()
  attempt := fun _ => .delivered

def Reachable (store : Store) : Prop := ∃ calls : Run, store = run calls initialized

theorem run_snoc (calls : Run) (world : World) (call : Call) (store : Store) :
    run (calls ++ [(world, call)]) store = (perform world call (run calls store)).store := by
  simp [run]

theorem run_append (first second : Run) (store : Store) : run (first ++ second) store = run second
    (run first store) := by
  simp [run]

theorem run_invariant (invariant : Store → Prop) (condition : World → Call → Store → Prop) (start : Store)
    (initial : invariant start)
    (step : ∀ world call store, invariant store → condition world call store →
      invariant (perform world call store).store)
    (calls : Run)
    (met : ∀ front world call back, calls = front ++ (world, call) :: back →
      condition world call (run front start)) : invariant (run calls start) := by
  induction calls using List.reverseRecOn with
  | nil => exact initial
  | append_singleton front last ih =>
      obtain ⟨world, call⟩ := last
      rw [run_snoc]
      refine step world call _ (ih fun before now next after split => ?_) (met front world call [] rfl)
      exact met before now next (after ++ [(world, call)]) (by simp [split])

end OrchestratorEngine.Continuity
