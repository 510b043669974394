import OrchestratorEngine.ResourceQueue.Schedule

set_option autoImplicit false

namespace OrchestratorEngine.ResourceQueue

open Foundation WorkerLease

def canonical (registry : Registry) : Registry := registry.sorted

def validateSubscriber (host : Host) (subscriber : Subscriber) : Except Error Unit := do
  let _ ← identifier subscriber.id
  refuse (subscriber.wakePolicy.getD "never" ∉ ["never", "always", "on-failure"])
    (.resource "unsupported subscriber wake policy")
  refuse (subscriber.checkId.any (fun check => !host.validCheckId check) = true) (.resource "invalid event id")
  refuse (subscriber.wakeTarget.any (fun target => !host.validWakeTarget target) = true)
    (.resource "invalid wake target")

def sameSubscriber (first second : Subscriber) : Bool :=
  decide (first.id = second.id ∧ first.wake = second.wake ∧ first.wakePolicy = second.wakePolicy ∧
    first.checkId = second.checkId ∧
    first.wakeTarget.map WakeTarget.destination = second.wakeTarget.map WakeTarget.destination)

def compareDigest (first second : Token) : Except Error Bool := do
  refuse ((first.toList ++ second.toList).any (fun character => decide (127 < character.toNat)) = true)
    (.type "comparing strings with non-ASCII characters is not supported")
  return decide (first = second)

-- Takes away, round by round, the stages that wait for no remaining one; the
-- fuel is the number of names, and every successful round removes some.
def peel (definitions : List Definition) : Nat → List Name → Except Error Unit
  | _, [] => return ()
  | 0, _ :: _ => throw (.resource "cyclic stage dependencies")
  | fuel + 1, remaining => do
      let ready := (definitions.filter fun definition => decide (definition.id ∈ remaining) &&
        (definition.after.getD []).all (fun name => decide (name ∉ remaining))).map (fun definition => definition.id)
      refuse (ready = []) (.resource "cyclic stage dependencies")
      peel definitions fuel (remaining.filter (fun name => decide (name ∉ ready)))

def Stage.finish (stage : Stage) (outcome : State) (released : List Name) (evidence : Evidence)
    (moment : Time) : Stage :=
  let allocation := stage.allocation.without released
  { stage with
    state := if allocation.items = [] then outcome else .recoveryRequired
    outcome := some outcome
    allocation := allocation
    evidence := some evidence
    finishedAt := some moment
    launchToken := none
    maintenanceToken := none }

def recoveryGroupOf (registry : Registry) (leaf : Name) : Except Error (Option Name) :=
  match registry.get? leaf with
  | none => throw (.key leaf)
  | some entry => return entry.recoveryGroup

namespace Ledger

def configure (raw : Registry) (ledger : Ledger) : Except Error Ledger := do
  let registry ← normalizeRegistry raw
  let _ ← ledger.activeStages.mapM fun stage => do
    refuse (stage.allocation.keys.any (fun leaf => decide (registry.get? leaf ≠ ledger.registry.get? leaf)) = true)
      (.resource "active resource changes require drain and release first")
    refuse (stage.state = .waiting ∧ ¬ Dict.Same registry ledger.registry)
      (.resource "cancel pending requests before registry changes")
  return { ledger with registry := canonical registry }

def requireDefinition (registry : Registry) (names : List Name) (definition : Definition) : Except Error Unit := do
  refuse ((definition.after.getD []).any (fun name => decide (name ∉ names)) = true)
    (.resource "unknown stage dependency")
  let found ← assignments registry (definition.needs.getD []) [] [] (fun _ => 0) []
  refuse (found.head? = none) (.resource "resource requirements have no complete assignment")

def insertStage (host : Host) (project : Name) (request : Id) (ledger : Ledger) (definition : Definition) : Ledger :=
  let (ledger, id) := ledger.newId host
  let (ledger, seq) := ledger.nextSequence
  let (ledger, now) := ledger.now host
  (ledger.save host {
    toRecord := definition.toRecord
    id := id
    name := definition.id
    request := request
    project := project
    needs := definition.needs.getD []
    after := definition.after.getD []
    commands := definition.commands
    state := .waiting
    seq := seq
    reason := some .dependencyWait
    createdAt := now
    epoch := 0
    allocation := Dict.empty }).1

def findRequest (ledger : Ledger) (project external : Name) : Option Request :=
  ledger.requests.find? fun request => decide (request.project = project ∧ request.external = external)

def insertRequest (host : Host) (project external : Name) (plan : Plan) (subscriber : Option Subscriber)
    (ledger : Ledger) : Ledger × Id :=
  let (ledger, id) := ledger.newId host
  let (ledger, now) := ledger.now host
  let request : Request := ⟨id, project, external, plan, subscriber.toList, now⟩
  let history := subscriber.toList.map fun subscriber => ⟨id, subscriber.id, 1, subscriber, true⟩
  let ledger := { ledger with requests := ledger.requests ++ [request], history := ledger.history ++ history }
  (plan.stages.foldl (insertStage host project id) ledger, id)

def submit (host : Host) (project external : Name) (plan : Plan) (subscriber : Option Subscriber) (ledger : Ledger) :
    Except Error (Ledger × Id) := do
  let _ ← identifier project
  let _ ← identifier external
  let _ ← subscriber.toList.mapM (validateSubscriber host)
  refuse (plan.stages = []) (.resource "plan requires stages")
  let names ← plan.stages.mapM fun definition => identifier definition.id
  refuse (¬ names.Nodup) (.resource "duplicate stage name")
  peel plan.stages names.length names
  match ledger.findRequest project external with
  | some request => do
      refuse (request.plan ≠ plan) (.resource "request ID already has different immutable inputs")
      return (ledger, request.id)
  | none => do
      let _ ← plan.stages.mapM (requireDefinition ledger.registry names)
      return ledger.insertRequest host project external plan subscriber

def attach (host : Host) (id : Id) (epoch : Nat) (identity : Option Identity) (ledger : Ledger) :
    Except Error Ledger := do
  let stage ← ledger.stage id
  refuse (stage.state ≠ .granted ∨ stage.epoch ≠ epoch) (.resource "revoked launch intent")
  return (ledger.save host { stage with state := .launching, supervisorIdentity := identity }).1

def runnerFields : List Name := ["command_identity", "command_group", "command_index", "results"]

def annotate (host : Host) (id : Id) (epoch : Nat) (fields : Dict Name String) (ledger : Ledger) :
    Except Error Ledger := do
  let stage ← ledger.stage id
  refuse (stage.epoch ≠ epoch ∨ stage.owning = false) (.resource "stale runner evidence")
  refuse (fields.keys.any (fun field => decide (field ∉ runnerFields)) = true)
    (.resource "unsupported runner evidence field")
  return (ledger.save host { stage with
    runner := fields.items.foldl (fun runner field => runner.set field.1 field.2) stage.runner }).1

def admitStage (host : Host) (id : Id) (token : Token) (ledger : Ledger) : Except Error (Ledger × Stage) := do
  let stage ← ledger.stage id
  refuse (stage.state ≠ .launching ∨ stage.cancelRequested = true) (.resource "revoked or consumed launch token")
  let authentic ← compareDigest (stage.launchToken.getD "") token
  refuse (authentic = false) (.resource "revoked or consumed launch token")
  let (ledger, now) := ledger.now host
  return ledger.save host { stage with state := .running, startedAt := some now }

def cancelStage (host : Host) (ledger : Ledger) (stage : Stage) : Ledger :=
  if stage.state = .waiting then
    let (ledger, now) := ledger.now host
    (ledger.save host { stage with state := .cancelled, finishedAt := some now, protection := none }).1
  else if stage.owning then (ledger.save host { stage with cancelRequested := true }).1
  else (ledger.save host stage).1

def cancel (host : Host) (id : Id) (ledger : Ledger) : Except Error Ledger := do
  let _ ← ledger.request id
  let ledger := (ledger.stagesOf id).foldl (cancelStage host) ledger
  ledger.outcomes [id]

def historyOf (ledger : Ledger) (request subscriber : Id) : List History :=
  ledger.history.filter fun row => decide (row.request = request) && decide (row.subscriber = subscriber)

def retire (ledger : Ledger) (request subscriber : Id) : Ledger :=
  { ledger with history := ledger.history.map fun row =>
      if row.request = request ∧ row.subscriber = subscriber then { row with active := false } else row }

-- A listed subscriber without history gets its first row; current ledgers have
-- no such subscriber.
def adopt (ledger : Ledger) (request : Id) (subscriber : Id) (current : Option Subscriber) : Ledger × Option History :=
  match newestHistory (ledger.historyOf request subscriber), current with
  | none, some current =>
      let row : History := ⟨request, subscriber, 1, current, true⟩
      ({ ledger with history := ledger.history ++ [row] }, some row)
  | newest, _ => (ledger, newest)

def resubscribe (ledger : Ledger) (request : Request) (subscriber : Subscriber) (remove : Bool)
    (current : Option Subscriber) (history : Option History) : Ledger × List Subscriber :=
  if remove then
    (ledger.retire request.id subscriber.id,
      request.subscribers.filter (fun other => decide (other.id ≠ subscriber.id)))
  else if current = none then
    let generation := (history.map (fun row => row.generation + 1)).getD 1
    let ledger := ledger.retire request.id subscriber.id
    ({ ledger with history := ledger.history ++ [⟨request.id, subscriber.id, generation, subscriber, true⟩] },
      request.subscribers ++ [subscriber])
  else (ledger, request.subscribers)

def rewrite (ledger : Ledger) (request : Request) : Ledger :=
  { ledger with requests := put Request.id request ledger.requests }

def subscribe (host : Host) (id : Id) (plan : Plan) (subscriber : Subscriber) (remove : Bool) (ledger : Ledger) :
    Except Error Ledger := do
  validateSubscriber host subscriber
  let request ← ledger.request id
  refuse (request.plan ≠ plan) (.resource "subscriber verification contract differs")
  let current := request.subscribers.find? fun other => decide (other.id = subscriber.id)
  refuse (current.any (fun current => !sameSubscriber current subscriber) = true)
    (.resource "subscription identity already has a pinned destination")
  let (ledger, history) := ledger.adopt id subscriber.id current
  refuse (history.any (fun row => !sameSubscriber row.body subscriber) = true)
    (.resource "subscription identity already has a pinned destination")
  let (ledger, subscribers) := ledger.resubscribe request subscriber remove current history
  (ledger.rewrite { request with subscribers := subscribers }).outcomes [id]

def release (ledger : Ledger) (released : List Name) : Ledger :=
  { ledger with released := (ledger.released ++ released).dedup.insertionSort (· ≤ ·) }

def complete (host : Host) (id : Id) (epoch : Nat) (outcome : State) (released : List Name) (evidence : Evidence)
    (ledger : Ledger) : Except Error Ledger := do
  let stage ← ledger.stage id
  refuse (stage.epoch ≠ epoch ∨ stage.owning = false) (.resource "stale completion or already released allocation")
  refuse (released.any (fun leaf => decide (leaf ∉ stage.allocation.keys)) = true)
    (.resource "release contains unowned resource")
  let groups ← released.mapM (recoveryGroupOf ledger.registry)
  let coupled ← stage.allocation.keys.anyM fun leaf => do
    let group ← recoveryGroupOf ledger.registry leaf
    return decide (group ∈ groups ∧ group ≠ none ∧ group ≠ some "" ∧ leaf ∉ released)
  refuse (coupled = true) (.resource "coupled recovery members must release together")
  let (ledger, now) := ledger.now host
  let (ledger, _) := ledger.save host (stage.finish outcome released evidence now)
  (ledger.release released).outcomes [stage.request]

def finish (host : Host) (id : Id) (epoch : Nat) (outcome : State) (released : List Name) (evidence : Evidence)
    (ledger : Ledger) : Except Error Ledger := do
  refuse (outcome ∉ terminalStates) (.resource "invalid terminal outcome")
  ledger.complete host id epoch outcome released evidence

-- The source reads the stage before the transaction of its completion begins;
-- whatever runs in between, that completion is one of finish.
def recover (host : Host) (id : Id) (epoch : Nat) (released : List Name) (evidence : Evidence) (ledger : Ledger) :
    Except Error Ledger := do
  let stage ← ledger.stage id
  refuse (stage.state ≠ .recoveryRequired ∨ evidence.quiescent ≠ some true)
    (.resource "recovery requires exact quarantined owner and quiescence evidence")
  ledger.finish host id epoch (stage.outcome.getD .failed) released evidence

def abortUnadmitted (host : Host) (id : Id) (epoch : Nat) (token : Option Token) (identity : Option Identity)
    (ledger : Ledger) : Except Error (Ledger × Bool) := do
  let stage ← ledger.stage id
  if stage.state ≠ .launching ∨ stage.epoch ≠ epoch then
    return (ledger, false)
  match token.filter (fun token => decide (token ≠ "")) with
  | some token =>
      if stage.cancelRequested = false then
        return (ledger, false)
      if !(← compareDigest (stage.launchToken.getD "") token) then
        return (ledger, false)
      let ledger ← ledger.complete host id epoch .cancelled stage.allocation.keys { detail := "admission revoked" }
      return (ledger, true)
  | none =>
      if !identityMatches stage.supervisorIdentity identity then
        return (ledger, false)
      let ledger ← ledger.complete host id epoch .failed stage.allocation.keys { detail := "admission revoked" }
      return (ledger, true)

end Ledger

inductive Call where
  | configure (raw : Registry)
  | submit (project external : Name) (plan : Plan) (subscriber : Option Subscriber)
  | schedule (unavailable : List Name)
  | attach (id : Id) (epoch : Nat) (identity : Option Identity)
  | annotate (id : Id) (epoch : Nat) (fields : Dict Name String)
  | admitStage (id : Id) (token : Token)
  | cancel (request : Id)
  | subscribe (request : Id) (plan : Plan) (subscriber : Subscriber) (remove : Bool)
  | abortUnadmitted (id : Id) (epoch : Nat) (token : Option Token) (identity : Option Identity)
  | finish (id : Id) (epoch : Nat) (outcome : State) (released : List Name) (evidence : Evidence)
  | recover (id : Id) (epoch : Nat) (released : List Name) (evidence : Evidence)

inductive Answer where
  | done
  | submitted (request : Id)
  | granted (stages : List Stage)
  | admitted (stage : Stage)
  | aborted (released : Bool)

def perform (host : Host) (ledger : Ledger) : Call → Except Error (Ledger × Answer)
  | .configure raw => do return (← ledger.configure raw, .done)
  | .submit project external plan subscriber => do
      let (ledger, request) ← ledger.submit host project external plan subscriber
      return (ledger, .submitted request)
  | .schedule unavailable => do
      let (ledger, granted) ← ledger.schedule host unavailable
      return (ledger, .granted granted)
  | .attach id epoch identity => do return (← ledger.attach host id epoch identity, .done)
  | .annotate id epoch fields => do return (← ledger.annotate host id epoch fields, .done)
  | .admitStage id token => do
      let (ledger, stage) ← ledger.admitStage host id token
      return (ledger, .admitted stage)
  | .cancel request => do return (← ledger.cancel host request, .done)
  | .subscribe request plan subscriber remove => do
      return (← ledger.subscribe host request plan subscriber remove, .done)
  | .abortUnadmitted id epoch token identity => do
      let (ledger, released) ← ledger.abortUnadmitted host id epoch token identity
      return (ledger, .aborted released)
  | .finish id epoch outcome released evidence => do
      return (← ledger.finish host id epoch outcome released evidence, .done)
  | .recover id epoch released evidence => do return (← ledger.recover host id epoch released evidence, .done)

def commit (host : Host) (ledger : Ledger) (call : Call) : Ledger :=
  match perform host ledger call with
  | .ok (next, _) => next
  | .error _ => ledger

def run (host : Host) (calls : List Call) : Ledger := calls.foldl (commit host) Ledger.create

end OrchestratorEngine.ResourceQueue
