import Mathlib.Logic.Function.Basic
import OrchestratorEngine.CodexApp.Receipts

set_option autoImplicit false

namespace OrchestratorEngine.CodexApp

inductive Phase where
  | idle
  | entered (mode : DeliveryMode)
  | prepared (mode : DeliveryMode)
  | claimed (mode : DeliveryMode)
  -- The command runs, or the thread was resumed: the attempt of that number.
  | attempting (mode : DeliveryMode) (attempt : Nat)
  | activating
  | handingOff
  | returning
  | awaiting
  | concluded (turn : TurnStatus) (error : Option String)
  | finalizing (turn : TurnStatus) (error : Option String) (receipt : Receipt)
  -- A retry that was called when so many attempts had begun.
  | requested (attempts : Nat)
  | reopening (attempts : Nat) (delivery : Receipt)
deriving DecidableEq, Repr

def Phase.locked : Phase → Bool
  | .entered _ | .prepared _ | .claimed _ | .attempting _ _ | .activating | .handingOff | .returning => true
  | _ => false

-- One event: its receipt, the receipt's lock, whether the watcher's state file
-- lists it as deferred, and every call about it. The last four fields record what
-- the calls did; no call reads them.
structure World where
  receipt : Option Receipt
  holder : Option Nat
  listed : Bool
  phase : Nat → Phase
  attempts : Nat
  launchFailures : List Nat
  retries : List Nat
  acknowledged : Bool

inductive Outcome where
  | timedOut (error : String)
  | launchFailed (error : String)
  | exited (code : Int) (detail : String)
  | unmatched
  | acknowledged
  -- thread/resume, turn/start or the turn itself fails.
  | failed (error : String)
  | running
  | ended (turn : TurnStatus)
deriving DecidableEq, Repr

inductive Step where
  | list (listed : Bool)
  | enter (call : Nat) (mode : DeliveryMode)
  | look (call : Nat)
  | hold (call : Nat) (reason : Reason)
  | claim (call : Nat)
  | begin (call : Nat)
  | settle (call : Nat) (outcome : Outcome)
  | activate (call : Nat)
  | spawn (call : Nat) (finalizer : Nat)
  | leave (call : Nat)
  -- A call that dies, or raises: its thread is gone and its lock is free.
  | stop (call : Nat)
  | conclude (call : Nat) (turn : TurnStatus) (error : Option String)
  | load (call : Nat) (readable : Bool)
  | finalize (call : Nat)
  | request (call : Nat)
  | inspect (call : Nat)
  | reopen (call : Nat)
deriving DecidableEq, Repr

namespace World

def start : World := ⟨none, none, false, fun _ => .idle, 0, [], [], false⟩

def goto (world : World) (call : Nat) (phase : Phase) : World :=
  { world with phase := Function.update world.phase call phase }

def write (world : World) (receipt : Receipt) : World := { world with receipt := some receipt }

def acknowledge (world : World) (receipt : Receipt) : World := { world.write receipt with acknowledged := true }

def release (world : World) (call : Nat) : World :=
  { world with holder := if world.holder = some call then none else world.holder }

end World

def Outcome.receipt : DeliveryMode → Outcome → Option Receipt
  | .sessionQueue, .timedOut error => some (.deferred .sessionQueue (.queueDeliveryAmbiguous error))
  | .sessionQueue, .launchFailed error => some (.deferred .sessionQueue (.codexQueueLaunchFailed error))
  | .sessionQueue, .exited code detail =>
      some (.deferred .sessionQueue (.queueDeliveryAmbiguous ("exit " ++ toString code ++ ": " ++ detail)))
  | .sessionQueue, .unmatched =>
      some (.deferred .sessionQueue (.queueDeliveryAmbiguous "success without a matching acknowledgement"))
  | .sessionQueue, .acknowledged => some .queued
  | .headlessAppServerTurn, .failed error =>
      some (.deferred .headlessAppServerTurn (.headlessDeliveryAmbiguous error))
  | .headlessAppServerTurn, .running => some (.started .running)
  | .headlessAppServerTurn, .ended .failed =>
      some (.deferred .headlessAppServerTurn (.headlessDeliveryAmbiguous "turn failed"))
  | .headlessAppServerTurn, .ended turn => some (.started turn)
  | _, _ => none

def Outcome.next : Outcome → Phase
  | .acknowledged => .activating
  | .running => .handingOff
  | _ => .returning

def settle (world : World) (call attempt : Nat) (mode : DeliveryMode) (outcome : Outcome) : Option World :=
  (outcome.receipt mode).map fun receipt =>
    let settled := world.goto call outcome.next
    match outcome with
    | .launchFailed _ => { settled.write receipt with launchFailures := attempt :: world.launchFailures }
    | _ => if receipt.delivered then settled.acknowledge receipt else settled.write receipt

def loaded (readable : Bool) (receipt : Option Receipt) : Receipt :=
  if readable then receipt.getD .empty else .empty

def step : Step → World → Option World
  | .list listed, world => some { world with listed }
  | .enter call mode, world =>
      match world.phase call, world.holder with
      | .idle, none => some { world.goto call (.entered mode) with holder := some call }
      | _, _ => none
  | .look call, world =>
      match world.phase call with
      | .entered mode =>
          match existingWakeup world.receipt with
          | some _ => some (world.goto call .returning)
          | none => some (world.goto call (.prepared mode))
      | _ => none
  -- Before its claim a headless call defers a busy thread and records an error as it is.
  | .hold call reason, world =>
      match world.phase call with
      | .prepared .headlessAppServerTurn =>
          some ((world.goto call .returning).write (.deferred .headlessAppServerTurn reason))
      | _ => none
  | .claim call, world =>
      match world.phase call with
      | .prepared mode => some ((world.goto call (.claimed mode)).write (.claimed mode))
      | _ => none
  | .begin call, world =>
      match world.phase call with
      | .claimed mode =>
          some { world.goto call (.attempting mode world.attempts) with attempts := world.attempts + 1 }
      | _ => none
  | .settle call outcome, world =>
      match world.phase call with
      | .attempting mode attempt => settle world call attempt mode outcome
      | _ => none
  | .activate call, world =>
      match world.phase call with
      | .activating => some ((world.goto call .returning).write .queued)
      | _ => none
  | .spawn call finalizer, world =>
      match world.phase call, world.phase finalizer with
      | .handingOff, .idle => some ((world.goto call .returning).goto finalizer .awaiting)
      | _, _ => none
  | .leave call, world =>
      match world.phase call with
      | .activating | .returning => some ((world.goto call .idle).release call)
      | _ => none
  | .stop call, world => some ((world.goto call .idle).release call)
  | .conclude call turn error, world =>
      match world.phase call with
      | .awaiting => some (world.goto call (.concluded turn error))
      | _ => none
  | .load call readable, world =>
      match world.phase call with
      | .concluded turn error => some (world.goto call (.finalizing turn error (loaded readable world.receipt)))
      | _ => none
  | .finalize call, world =>
      match world.phase call with
      | .finalizing turn error receipt =>
          let finalized := receipt.finalized turn error
          let written := (world.goto call .idle).write finalized
          some { written with acknowledged := world.acknowledged || decide (turn = .completed) }
      | _ => none
  | .request call, world =>
      match world.phase call, world.listed with
      | .idle, true =>
          some { world.goto call (.requested world.attempts) with retries := world.attempts :: world.retries }
      | _, _ => none
  | .inspect call, world =>
      match world.phase call with
      | .requested attempts =>
          match world.receipt with
          | some delivery =>
              if delivery.retryable then some (world.goto call (.reopening attempts delivery))
              else some (world.goto call .idle)
          | none => some (world.goto call .idle)
      | _ => none
  | .reopen call, world =>
      match world.phase call with
      | .reopening _ delivery => some ((world.goto call .idle).write delivery.reopened)
      | _ => none

end OrchestratorEngine.CodexApp
