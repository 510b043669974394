import OrchestratorEngine.Foundation.Table
import OrchestratorEngine.ResourceQueue.Assignments
import OrchestratorEngine.WorkerLease.Identity

set_option autoImplicit false

namespace OrchestratorEngine.ResourceQueue

open Foundation WorkerLease

abbrev Id := String

abbrev Token := String

-- Readings of time.time(), in steps of 2^-22 s. At this magnitude every reading is a multiple of the step, so
-- the differences and sums of the readings are exact and no rounding of floats is modelled.
abbrev Time := Int

inductive State where
  | waiting
  | granted
  | launching
  | running
  | cleanup
  | recoveryRequired
  | passed
  | failed
  | cancelled
  | invalidated
  | skipped
deriving DecidableEq, Repr

def terminalStates : List State := [.passed, .failed, .cancelled, .invalidated, .skipped]

def owningStates : List State := [.granted, .launching, .running, .cleanup, .recoveryRequired]

inductive Reason where
  | dependencyWait
  | dependencyFailed
  | hostWait
  | resourceWait
  | recoveryBlocked
  | unknown
deriving DecidableEq, Repr

structure WakeTarget where
  destination : String
  capturedAt : String
deriving DecidableEq, Repr

structure Subscriber where
  id : Id
  wakeTarget : Option WakeTarget := none
  wake : Option Bool := none
  wakePolicy : Option String := none
  checkId : Option String := none
deriving DecidableEq, Repr

-- What the ledger takes from its surroundings. Each reading of the clock, each
-- new identifier and each token is the next draw; identifiers never repeat.
-- The checks on a wake target and on a check id are taken as they come.
structure Host where
  clock : Nat → Time
  uuid : Nat → Id
  token : Nat → Token
  distinct : Function.Injective uuid
  validWakeTarget : WakeTarget → Bool
  validCheckId : String → Bool

structure Evidence where
  quiescent : Option Bool := none
  detail : String := ""
deriving DecidableEq, Repr

-- The keys that a stage definition may already carry, which submission copies
-- and only the operations below write later.
structure Record where
  outcome : Option State := none
  evidence : Option Evidence := none
  blockers : Option (List Id) := none
  bypassCount : Option Quantity := none
  grantedAt : Option Time := none
  startedAt : Option Time := none
  finishedAt : Option Time := none
  grantedAllocation : Option Allocation := none
  resourceIncarnations : Option (Dict Name Name) := none
  runner : Dict Name String := Dict.empty
deriving DecidableEq

structure Definition extends Record where
  id : Name
  needs : Option (List Need) := none
  after : Option (List Name) := none
  commands : Option String := none
deriving DecidableEq

structure Plan where
  stages : List Definition
  contractDigest : Option String := none
  workspace : Option String := none
  detail : String := ""
deriving DecidableEq

structure Stage extends Record where
  id : Id
  name : Name
  request : Id
  project : Name
  needs : List Need
  after : List Name
  commands : Option String
  state : State
  seq : Nat
  reason : Option Reason
  createdAt : Time
  epoch : Nat
  allocation : Allocation
  readyAt : Option Time := none
  readySeq : Option Nat := none
  protection : Option Allocation := none
  launchToken : Option Token := none
  maintenanceToken : Option Token := none
  cancelRequested : Bool := false
  supervisorIdentity : Option Identity := none
  waitSeconds : Dict Reason (Option Time) := Dict.empty
  transitionAt : Option Time := none
deriving DecidableEq

def Stage.owning (stage : Stage) : Bool := decide (stage.state ∈ owningStates)

def Stage.terminal (stage : Stage) : Bool := decide (stage.state ∈ terminalStates)

structure Request where
  id : Id
  project : Name
  external : Name
  plan : Plan
  subscribers : List Subscriber
  createdAt : Time
deriving DecidableEq

structure History where
  request : Id
  subscriber : Id
  generation : Nat
  body : Subscriber
  active : Bool
deriving DecidableEq

inductive Status where
  | passed
  | failed
  | cancelled
  | actionRequired
deriving DecidableEq, Repr

abbrev OutcomeId := Status × List (Id × Nat)

structure EventId where
  request : Id
  subscriber : Id
  generation : Nat
  outcomeId : OutcomeId
deriving DecidableEq

structure Notice where
  id : EventId
  request : Id
  project : Name
  external : Name
  status : Status
  outcomeId : OutcomeId
  subscriber : Subscriber
  generation : Nat
  stages : List Stage
deriving DecidableEq

-- The rows of stages stand in the order of their sequence numbers, the order
-- in which every query of the source reads them.
structure Ledger where
  registry : Registry
  sequence : Nat
  released : List Name
  requests : List Request
  stages : List Stage
  history : List History
  outbox : List Notice
  draws : Nat
deriving DecidableEq

def Ledger.create : Ledger := ⟨Dict.empty, 0, [], [], [], [], [], 0⟩

namespace Ledger

def now (host : Host) (ledger : Ledger) : Ledger × Time :=
  ({ ledger with draws := ledger.draws + 1 }, host.clock ledger.draws)

def newId (host : Host) (ledger : Ledger) : Ledger × Id :=
  ({ ledger with draws := ledger.draws + 1 }, host.uuid ledger.draws)

def newToken (host : Host) (ledger : Ledger) : Ledger × Token :=
  ({ ledger with draws := ledger.draws + 1 }, host.token ledger.draws)

def nextSequence (ledger : Ledger) : Ledger × Nat :=
  ({ ledger with sequence := ledger.sequence + 1 }, ledger.sequence + 1)

def activeStages (ledger : Ledger) : List Stage := ledger.stages.filter (fun stage => !stage.terminal)

def stagesOf (ledger : Ledger) (request : Id) : List Stage :=
  ledger.stages.filter (fun stage => decide (stage.request = request))

def stage (ledger : Ledger) (id : Id) : Except Error Stage :=
  match row? Stage.id id ledger.stages with
  | none => throw (.resource "unknown stage")
  | some stage => return stage

def request (ledger : Ledger) (id : Id) : Except Error Request :=
  match row? Request.id id ledger.requests with
  | none => throw (.resource "unknown resource request")
  | some request => return request

end Ledger

-- Time spent waiting is charged to the reason of the row that is replaced; a
-- clock that went back leaves the sum unknown.
def accumulated (old : Stage) (now : Time) : Dict Reason (Option Time) :=
  if old.state = .waiting then
    let duration := now - old.transitionAt.getD old.createdAt
    let reason := old.reason.getD .unknown
    match (old.waitSeconds.get? reason).getD (some 0) with
    | none => old.waitSeconds.set reason none
    | some previous => old.waitSeconds.set reason (if 0 ≤ duration then some (previous + duration) else none)
  else old.waitSeconds

namespace Ledger

def save (host : Host) (ledger : Ledger) (stage : Stage) : Ledger × Stage :=
  match row? Stage.id stage.id ledger.stages with
  | none =>
      let (ledger, now) := ledger.now host
      let stage := { stage with waitSeconds := Dict.empty, transitionAt := some now }
      ({ ledger with stages := put Stage.id stage ledger.stages }, stage)
  | some old =>
      if old.state = stage.state ∧ old.reason = stage.reason then
        ({ ledger with stages := put Stage.id stage ledger.stages }, stage)
      else
        let (ledger, now) := ledger.now host
        let stage := { stage with waitSeconds := accumulated old now, transitionAt := some now }
        ({ ledger with stages := put Stage.id stage ledger.stages }, stage)

end Ledger

def reportable (stages : List Stage) : Bool :=
  stages.any (fun stage => decide (stage.state = .recoveryRequired)) || stages.all Stage.terminal

def outcomeStatus (stages : List Stage) : Status :=
  if stages.any (fun stage => decide (stage.state = .recoveryRequired)) then .actionRequired
  else if stages.all (fun stage => decide (stage.state ∈ [State.cancelled, .skipped])) then .cancelled
  else if stages.all (fun stage => decide (stage.state = .passed)) then .passed
  else .failed

def outcomeId (stages : List Stage) : OutcomeId :=
  let incidents := stages.filter (fun stage => decide (stage.state = .recoveryRequired))
  (outcomeStatus stages, (incidents.map (fun stage => (stage.id, stage.epoch))).insertionSort
    (fun first second => first.1 < second.1 ∨ first.1 = second.1 ∧ first.2 ≤ second.2))

def Stage.shown (stage : Stage) : Stage :=
  { stage with launchToken := none, maintenanceToken := none, commands := none }

namespace Ledger

def activeHistory (ledger : Ledger) (request subscriber : Id) : List History :=
  ledger.history.filter fun row =>
    decide (row.request = request) && decide (row.subscriber = subscriber) && row.active

def newestHistory (rows : List History) : Option History :=
  rows.find? fun row => rows.all fun other => decide (other.generation ≤ row.generation)

def insertHistory (ledger : Ledger) (row : History) : Ledger :=
  if ledger.history.any (fun old => decide (old.request = row.request ∧ old.subscriber = row.subscriber ∧
      old.generation = row.generation)) then ledger
  else { ledger with history := ledger.history ++ [row] }

def insertNotice (ledger : Ledger) (notice : Notice) : Ledger :=
  if ledger.outbox.any (fun old => decide (old.id = notice.id)) then ledger
  else { ledger with outbox := ledger.outbox ++ [notice] }

def notify (request : Request) (stages : List Stage) (ledger : Ledger) (subscriber : Subscriber) : Ledger :=
  let history := newestHistory (ledger.activeHistory request.id subscriber.id)
  let generation := (history.map History.generation).getD 1
  let ledger := if history = none then
      ledger.insertHistory ⟨request.id, subscriber.id, generation, subscriber, true⟩
    else ledger
  ledger.insertNotice {
    id := ⟨request.id, subscriber.id, generation, outcomeId stages⟩
    request := request.id
    project := request.project
    external := request.external
    status := outcomeStatus stages
    outcomeId := outcomeId stages
    subscriber := subscriber
    generation := generation
    stages := stages.map Stage.shown }

def outcomesOf (ledger : Ledger) (id : Id) : Except Error Ledger := do
  if !reportable (ledger.stagesOf id) then
    return ledger
  let request ← ledger.request id
  return request.subscribers.foldl (notify request (ledger.stagesOf id)) ledger

def outcomes (ledger : Ledger) (requests : List Id) : Except Error Ledger :=
  requests.foldlM outcomesOf ledger

end Ledger

end OrchestratorEngine.ResourceQueue
