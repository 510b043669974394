import Mathlib.Data.Option.Basic

set_option autoImplicit false

namespace OrchestratorEngine.CodexApp

inductive Status where
  | deliveryClaimed
  | deferred
  | queued
  | submitted
  | woken
  | failed
  | interrupted
  | retryRequested
  -- The answer to a delivery that was acknowledged before; no receipt has it.
  | skipped
deriving DecidableEq, Repr

inductive DeliveryMode where
  | sessionQueue
  | headlessAppServerTurn
deriving DecidableEq, Repr

inductive Reason where
  | queueDeliveryAmbiguous (detail : String)
  | headlessDeliveryAmbiguous (detail : String)
  | codexQueueLaunchFailed (detail : String)
  | threadActive
  | threadStatus (name : String)
  | threadRecentlyActive
  | alreadyWoken
  | error (text : String)
deriving DecidableEq, Repr

inductive TurnStatus where
  | completed
  | failed
  | interrupted
  | running
  | other (name : String)
deriving DecidableEq, Repr

structure Receipt where
  status : Option Status
  deliveryMode : Option DeliveryMode
  reason : Option Reason
  turnStatus : Option TurnStatus
  turnError : Option String
deriving DecidableEq, Repr

def Reason.ambiguous : Reason → Bool
  | .queueDeliveryAmbiguous _ | .headlessDeliveryAmbiguous _ => true
  | _ => false

def TurnStatus.recorded : TurnStatus → Option Status
  | .completed => some .woken
  | .failed => some .failed
  | .interrupted => some .interrupted
  | _ => none

namespace Receipt

def empty : Receipt := ⟨none, none, none, none, none⟩

def claimed (mode : DeliveryMode) : Receipt := { empty with status := some .deliveryClaimed, deliveryMode := some mode }

def deferred (mode : DeliveryMode) (reason : Reason) : Receipt :=
  { empty with status := some .deferred, deliveryMode := some mode, reason := some reason }

def queued : Receipt := { empty with status := some .queued, deliveryMode := some .sessionQueue }

def started (turn : TurnStatus) : Receipt :=
  { empty with
    status := some (if turn = .completed then .woken else .submitted)
    deliveryMode := some .headlessAppServerTurn
    turnStatus := some turn }

def skipped : Receipt := { empty with status := some .skipped, reason := some .alreadyWoken }

def finalized (receipt : Receipt) (turn : TurnStatus) (error : Option String) : Receipt :=
  { receipt with
    turnStatus := some turn
    status := turn.recorded.orElse fun _ => receipt.status
    turnError := error.orElse fun _ => receipt.turnError }

def ambiguous (receipt : Receipt) : Bool := receipt.reason.any Reason.ambiguous

def retryable (receipt : Receipt) : Bool :=
  decide (receipt.status = some .deliveryClaimed) || (decide (receipt.status = some .deferred) && receipt.ambiguous)

def reopened (receipt : Receipt) : Receipt := { receipt with status := some .retryRequested }

def delivered (receipt : Receipt) : Bool :=
  match receipt.status with
  | some .queued | some .woken | some .submitted | some .failed | some .interrupted => true
  | _ => false

end Receipt

def unacknowledgedClaim : DeliveryMode → Reason
  | .headlessAppServerTurn =>
      .headlessDeliveryAmbiguous "a previous durable delivery claim has no acknowledgement"
  | .sessionQueue => .queueDeliveryAmbiguous "a previous durable delivery claim has no acknowledgement"

def Receipt.answer (existing : Receipt) : Option Receipt :=
  if existing.status = some .deliveryClaimed then
    let mode := existing.deliveryMode.getD .sessionQueue
    some (Receipt.deferred mode (unacknowledgedClaim mode))
  else if existing.status = some .deferred ∧ existing.ambiguous then some existing
  else if existing.delivered then some Receipt.skipped
  else none

def existingWakeup (receipt : Option Receipt) : Option Receipt := receipt.bind Receipt.answer

def Closed (receipt : Option Receipt) : Prop := (existingWakeup receipt).isSome

instance (receipt : Option Receipt) : Decidable (Closed receipt) := inferInstanceAs (Decidable (_ = true))

variable (receipt : Receipt)

theorem closed_retryable (retryable : receipt.retryable = true) : Closed (some receipt) := by
  unfold Receipt.retryable at retryable
  change receipt.answer.isSome
  unfold Receipt.answer
  split
  · rfl
  · rename_i unclaimed
    rw [decide_eq_false unclaimed, Bool.false_or, Bool.and_eq_true, decide_eq_true_eq] at retryable
    rw [if_pos retryable]
    rfl

theorem closed_claimed (mode : DeliveryMode) : Closed (some (Receipt.claimed mode)) :=
  closed_retryable _ rfl

theorem closed_ambiguous (mode : DeliveryMode) (reason : Reason) (ambiguous : reason.ambiguous = true) :
    Closed (some (Receipt.deferred mode reason)) := by
  apply closed_retryable
  simpa [Receipt.retryable, Receipt.deferred, Receipt.ambiguous] using ambiguous

theorem closed_delivered (delivered : receipt.delivered = true) : Closed (some receipt) := by
  change receipt.answer.isSome
  unfold Receipt.answer
  split
  · rfl
  · split
    · rfl
    · rfl

theorem finalized_delivered (turn : TurnStatus) (error : Option String)
    (told : receipt.delivered = true ∨ turn.recorded.isSome = true) :
    (receipt.finalized turn error).delivered = true := by
  cases turn with
  | completed | failed | interrupted => rfl
  | running | other => exact told.resolve_right (by simp [TurnStatus.recorded])

theorem started_delivered (turn : TurnStatus) : (Receipt.started turn).delivered = true := by
  unfold Receipt.started Receipt.delivered
  by_cases ended : turn = .completed
  · simp only [if_pos ended]
  · simp only [if_neg ended]

end OrchestratorEngine.CodexApp
