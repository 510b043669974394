import Mathlib.Data.List.Lex
import Mathlib.Data.String.Basic
import Mathlib.Algebra.GroupWithZero.Nat
import OrchestratorEngine.Continuity.Claiming

set_option autoImplicit false

namespace OrchestratorEngine.Continuity

open Foundation

structure Walk where
  path : List String
  frames : List (String × List String)
  opened : List String
  closed : List String
  cycles : List (List String)

def waitGraph (store : Store) : List (String × List String) :=
  (waitingCheckpoints store).map fun row =>
    (row.obligationId, ((row.sources.filter fun source => decide (source.kind = .obligation)).map
      SourceKey.identity).dedup.insertionSort (· ≤ ·))

def rotations (cycle : List String) : List (List String) :=
  (List.range cycle.length).map fun index => cycle.drop index ++ cycle.take index

def leastRotation (cycle : List String) : List String :=
  ((rotations cycle).insertionSort (· ≤ ·)).headD cycle

def Walk.next (graph : List (String × List String)) (walk : Walk) : Walk :=
  match walk.frames with
  | [] => walk
  | (node, []) :: frames =>
      { walk with frames, path := walk.path.dropLast, closed := node :: walk.closed }
  | (node, dependency :: others) :: frames =>
      let walk := { walk with frames := (node, others) :: frames }
      match graph.lookup dependency with
      | none => walk
      | some dependencies =>
          if dependency ∈ walk.closed then walk
          else if dependency ∈ walk.opened then
            let cycle := walk.path.dropWhile (· ≠ dependency)
            { walk with cycles := walk.cycles ++ [leastRotation cycle] }
          else { walk with
            opened := dependency :: walk.opened
            path := walk.path ++ [dependency]
            frames := (dependency, dependencies) :: (node, others) :: frames }

def walkBound (graph : List (String × List String)) : Nat :=
  (graph.map fun entry => entry.2.length + 1).sum

def walkFrom (graph : List (String × List String)) (walk : Walk) (root : String × List String) : Walk :=
  if root.1 ∈ walk.closed then walk
  else
    let started : Walk :=
      { walk with opened := root.1 :: walk.opened, path := [root.1], frames := [root] }
    (Walk.next graph)^[walkBound graph] started

def assignmentDependencyCycles (store : Store) : List (List String) :=
  let graph := waitGraph store
  let roots := graph.insertionSort fun first second => first.1 ≤ second.1
  let walk := roots.foldl (walkFrom graph) ⟨[], [], [], [], []⟩
  walk.cycles.dedup.insertionSort (· ≤ ·)

def endpointFindings (store : Store) : List Finding :=
  ((store.works.filter fun work =>
      (activeActor? store work.ownerActor).isNone && decide (work.mode ≠ .complete)).map fun work =>
    .ownerEndpointMissing work.workId) ++
  ((store.obligations.filter fun obligation =>
      decide (obligation.status = .opened) && (activeActor? store obligation.assigneeActor).isNone).map
      fun obligation =>
    .assigneeEndpointMissing obligation.obligationId) ++
  ((store.requests.filter fun request =>
      decide (request.requiresReply = true ∧ request.obligationId = none)).map fun request =>
    .requestReplyObligationMissing request.requestId)

def checkRequest (world : World) (repair : Bool) (request : Request) : Transaction (List Finding) := do
  let replying := decide (request.status ≠ .deliveryPending)
  let actorId := if replying then request.returnActor else request.recipientActor
  let pointer := if replying then request.replyActivationId else request.requestActivationId
  let reason : Reason := if replying then .requestReply else .requestMessage
  let work ← Tx.read fun store => requireWork store request.workId
  let stopped ← Tx.ask fun store => effectiveExplicitStop store work.workId actorId
  if stopped ≠ none then return []
  else do
    match ← Tx.read fun store => activeCurrentActivation store pointer actorId reason with
    | some _ => return []
    | none => do
        let _ ← if repair then reconcileRequestDeliveries world (some request.workId) else pure []
        return [if replying then .requestReplyDeliveryMissing request.requestId
          else .requestMessageDeliveryMissing request.requestId]

def unassigned (store : Store) : List Obligation :=
  store.obligations.filter fun obligation =>
    decide (obligation.status = .opened ∧ obligation.claimedAt = none) &&
      (store.linkedRequest? obligation.obligationId).isNone && (store.checkpoint? obligation.obligationId).isNone

def checkObligation (world : World) (repair : Bool) (obligation : Obligation) : Transaction (List Finding) := do
  let work ← Tx.read fun store => requireWork store obligation.workId
  let stopped ← Tx.ask fun store => effectiveExplicitStop store work.workId obligation.assigneeActor
  if work.mode = .complete ∨ stopped ≠ none then return []
  else do
    let actor ← Tx.ask fun store => activeActor? store obligation.assigneeActor
    if actor = none then return []
    else do
      match ← Tx.read fun store =>
        activeObligationActivation store obligation [.obligationAssigned, .obligationReminder] with
      | some _ => return []
      | none => do
          let _ ← if repair then rearmObligationRoute world work obligation none none else pure none
          return [.obligationAssignmentDeliveryMissing work.workId obligation.obligationId]

def observationState : Observation → String
  | .terminal _ _ => "terminal"
  | .pending => "pending"
  | .missing _ => "missing"
  | .invalid _ => "invalid"
  | .unsupported _ => "unsupported"

def unavailable : Observation → Option String
  | .missing descriptorPath => some descriptorPath
  | .invalid reason => some reason
  | .unsupported reason => some reason
  | _ => none

def checkWaitSource (world : World) (repair : Bool) (wait : Wait) (source : SourceKey) : Transaction (List Finding) :=
  if source.kind = .obligation then do
    let known ← Tx.ask fun store => store.obligation? source.identity
    return if known = none then [.waitSourceMissing wait.workId source] else []
  else
    match world.retained source with
    | .terminal status data => do
        let outcome := outcomeIdentity source status data none
        let recorded ← Tx.ask fun store => store.results.any fun row =>
          decide (row.sourceKey = source ∧ row.digest = .current outcome)
        if recorded = true then return []
        else do
          let _ ← if repair then recordResult world source status none data else pure (false, outcome)
          return [.terminalSourceUnrecorded wait.workId source outcome]
    | observation =>
        match unavailable observation with
        | some detail => return [.waitSourceUnavailable (observationState observation) wait.workId source detail]
        | none => return []

def claimedRoutes (store : Store) (work : Work) (route : Option Activation) (manifest : List Outcome) :
    List (Nat × List Mark) :=
  (store.activations.filter fun activation =>
    decide (activation.workId = work.workId ∧ activation.reason = .waitSatisfied ∧ activation.status = .claimed ∧
      activation.workRevision = work.revision ∧ activation.controlEpoch = work.controlEpoch) &&
      (store.actor? work.ownerActor).any fun owner =>
        decide (activation.endpointGeneration = owner.generation)).map
    (fun activation => (activation.activationId, activation.manifest)) ++
  ((route.filter fun active => decide (active.reason = .requestReply ∧ active.status = .claimed)).toList.map
    fun active => (active.activationId, manifest.map .outcome))

def unhandledFindings (wait : Wait) (routes : List (Nat × List Mark)) : List Finding :=
  routes.filterMap fun route =>
    let unhandled := route.2.filter fun mark => decide (mark ∉ wait.handled.map Mark.outcome)
    if unhandled = [] then none else some (.claimedResultUnhandled wait.workId route.1 unhandled)

def checkWait (world : World) (repair : Bool) (wait : Wait) : Transaction (List Finding) := do
  let sourceFindings ← Tx.gather (checkWaitSource world repair wait) wait.sources
  let work ← Tx.read fun store => requireWork store wait.workId
  let satisfied ← Tx.ask fun store => waitSatisfied store wait.workId
  let manifest ← Tx.ask fun store => if satisfied then waitResultManifest world store wait.workId else []
  let route ← Tx.read fun store => if satisfied then waitCompletionRoute store work manifest else .ok none
  let routes ← Tx.ask fun store => claimedRoutes store work route manifest
  let findings := sourceFindings ++ unhandledFindings wait routes
  if satisfied = false then return findings
  else do
    let stopped ← Tx.ask fun store => effectiveExplicitStop store work.workId work.ownerActor
    if stopped ≠ none ∨ route ≠ none then return findings
    else do
      let _ ← if repair then evaluateWait world wait.workId else pure none
      return findings ++ [.satisfiedWaitNotActivated wait.workId]

def assignmentSourceFinding (world : World) (store : Store) (obligationId : String) (source : SourceKey) :
    Option Finding :=
  if source.kind = .obligation then
    if store.obligation? source.identity = none then some (.assignmentWaitSourceMissing obligationId source) else none
  else
    (unavailable (world.retained source)).map fun detail =>
      .assignmentWaitSourceUnavailable (observationState (world.retained source)) obligationId source detail

def checkAssignment (world : World) (repair : Bool) (row : AssignmentCheckpoint) : Transaction (List Finding) := do
  match ← Tx.ask fun store => store.obligation? row.obligationId with
  | none => return []
  | some obligation => do
      let allowed ← Tx.read fun store => assignmentContinuationAllowed store obligation
      if allowed = false then return []
      else do
        let findings ← Tx.ask fun store =>
          row.sources.filterMap (assignmentSourceFinding world store row.obligationId)
        let satisfied ← Tx.ask fun store => assignmentWaitSatisfied world store row.obligationId
        if satisfied = none then return findings
        else do
          let work ← Tx.read fun store => requireWork store obligation.workId
          let stopped ← Tx.ask fun store => effectiveExplicitStop store work.workId obligation.assigneeActor
          if stopped ≠ none then return findings
          else do
            match ← Tx.read fun store => activeAssignmentWaitActivation store obligation with
            | some _ => return findings
            | none => do
                let _ ← if repair then evaluateAssignmentWait world row.obligationId else pure none
                return findings ++ [.assignmentWaitNotActivated row.obligationId]

def pendingContinuation (store : Store) (work : Work) : Bool :=
  store.activations.any fun activation =>
    decide (activation.workId = work.workId ∧ activation.actorId = work.ownerActor ∧
      activation.reason = .continueCheckpoint) && activation.active

def checkContinuation (world : World) (repair : Bool) (row : Work) : Transaction (List Finding) := do
  if row.mode = .waiting then do
    let wait ← Tx.ask fun store => store.wait? row.workId
    return if wait = none then [.waitingCheckpointMissing row.workId] else []
  else do
    let work ← Tx.read fun store => requireWork store row.workId
    let stopped ← Tx.ask fun store => effectiveExplicitStop store work.workId row.ownerActor
    if stopped ≠ none then return []
    else do
      let routed ← Tx.ask fun store => pendingContinuation store row
      if routed = true then return []
      else do
        let _ ← if repair then createActivation world work row.ownerActor .continueCheckpoint [] none none else pure 0
        return [.continuationRouteMissing row.workId]

def outboxFindings (store : Store) : List Finding :=
  (store.outbox.filter fun row => decide (row.status = .pending ∧ 0 < row.attempts)).map fun row =>
    .outboxDeliveryFailed row.activationId row.attempts row.lastError

def scan (world : World) (repair : Bool) : Transaction (List Finding) := do
  let endpoints ← Tx.ask endpointFindings
  let requests ← Tx.ask fun store => store.requests.filter fun request =>
    decide (request.status = .deliveryPending ∨ request.status = .replyReady)
  let deliveries ← Tx.gather (checkRequest world repair) requests
  let cycles ← Tx.ask fun store => (assignmentDependencyCycles store).map .assignmentDependencyCycle
  let obligations ← Tx.ask unassigned
  let assigned ← Tx.gather (checkObligation world repair) obligations
  let waits ← Tx.ask Store.waits
  let waiting ← Tx.gather (checkWait world repair) waits
  let rows ← Tx.ask waitingCheckpoints
  let assignments ← Tx.gather (checkAssignment world repair) rows
  let works ← Tx.ask fun store => store.works.filter fun work =>
    decide (work.mode = .waiting ∨ work.mode = .continues)
  let continuations ← Tx.gather (checkContinuation world repair) works
  let outbox ← Tx.ask outboxFindings
  return endpoints ++ deliveries ++ cycles ++ assigned ++ waiting ++ assignments ++ continuations ++ outbox

def hidden (store : Store) (finding : Finding) : Bool :=
  (store.diagnostic? finding).any fun row => decide (row.status = .resolved ∧ row.findingDigest = finding)

def putDiagnostic (finding : Finding) (store : Store) : Store :=
  let row : Diagnostic := ⟨finding, .opened, finding, none⟩
  { store with diagnostics := put Diagnostic.diagnosticId row store.diagnostics }

def closeUnobserved (observed : List Finding) (store : Store) : Store :=
  { store with diagnostics := store.diagnostics.map fun row =>
    if row.status = .opened ∧ row.diagnosticId ∉ observed then { row with status := .resolved } else row }

def recordFindings (observed actionable : List Finding) (store : Store) : Store :=
  closeUnobserved observed (actionable.foldl (fun kept finding => putDiagnostic finding kept) store)

structure CheckReport where
  observed : List Finding
  findings : List Finding
  resolvedFindings : List Finding
deriving DecidableEq

def selfCheck (world : World) (repair : Bool) : Transaction CheckReport := do
  let observed ← scan world repair
  let resolved ← Tx.ask fun store => observed.filter fun finding => hidden store finding
  let actionable ← Tx.ask fun store => observed.filter fun finding => !hidden store finding
  if repair then Tx.edit (recordFindings observed actionable) else pure ()
  return ⟨observed, actionable, resolved⟩

end OrchestratorEngine.Continuity
