import OrchestratorEngine.ResourceQueue.Ledger

set_option autoImplicit false

namespace OrchestratorEngine.ResourceQueue

open Foundation

def failedPredecessor (stage : Stage) : Bool :=
  decide (stage.state ∈ terminalStates.filter (fun state => decide (state ≠ .passed))) ||
    (decide (stage.state = .recoveryRequired) && decide (stage.outcome ≠ some .passed))

def predecessors (ledger : Ledger) (stage : Stage) : List Stage :=
  (ledger.stagesOf stage.request).filter fun other => decide (other.name ∈ stage.after)

def gateReason (unavailable : List Name) (ledger : Ledger) (stage : Stage) : Option Reason :=
  let before := predecessors ledger stage
  if before.any failedPredecessor then some .dependencyFailed
  else if before.any (fun other => decide (other.state ≠ .passed)) then some .dependencyWait
  else if stage.project ∈ unavailable then some .hostWait
  else none

def Stage.gated (stage : Stage) (reason : Reason) : Stage :=
  { stage with protection := none, readySeq := none, reason := some reason }

-- The dependency gate of one stage. It reads the siblings from the ledger, so
-- it sees the stages that this pass has skipped already.
def gateStage (host : Host) (unavailable : List Name) (ledger : Ledger) (stage : Stage) : Ledger × Stage :=
  if stage.state ≠ .waiting then (ledger, stage)
  else
    match gateReason unavailable ledger stage with
    | some .dependencyFailed =>
        let (ledger, now) := ledger.now host
        ledger.save host { stage.gated .dependencyFailed with state := .skipped, finishedAt := some now }
    | some reason => ledger.save host (stage.gated reason)
    | none =>
        if stage.readySeq.isSome then (ledger, stage)
        else
          let (ledger, now) := ledger.now host
          let (ledger, seq) := ledger.nextSequence
          (ledger, { stage with readyAt := some now, readySeq := some seq })

def gateStages (host : Host) (unavailable : List Name) (ledger : Ledger) : List Stage → Ledger × List Stage
  | [] => (ledger, [])
  | stage :: rest =>
      let (ledger, stage) := gateStage host unavailable ledger stage
      let (ledger, rest) := gateStages host unavailable ledger rest
      (ledger, stage :: rest)

-- A stage that passed the gate has a ready number, and every other waiting
-- stage has just lost its own.
def Stage.ready (stage : Stage) : Bool := decide (stage.state = .waiting) && stage.readySeq.isSome

def readyOrder (first second : Stage) : Prop :=
  first.readySeq.getD 0 < second.readySeq.getD 0 ∨
    first.readySeq.getD 0 = second.readySeq.getD 0 ∧ first.id ≤ second.id

instance (first second : Stage) : Decidable (readyOrder first second) := by
  unfold readyOrder
  infer_instance

structure Setting where
  registry : Registry
  quarantine : List Name
  released : List Name
  previouslyReady : List Id

-- The copies of the rows in memory, the owners so far, and the protections of
-- the ready stages already visited.
structure Pass where
  ledger : Ledger
  stages : List Stage
  active : List Stage
  protection : List Allocation
  granted : List Stage

def demandedLeaves (registry : Registry) (stages : List Stage) (stage : Stage) : Except Error (List Name) := do
  let rivals := stages.filter fun other => decide (other.id ≠ stage.id) && decide (other.state = .waiting)
  let found ← rivals.mapM fun other => do
    let specifications ← demands registry other.needs
    let leaves ← specifications.mapM fun specification => selectorLeaves registry specification.name
    return leaves.flatten
  return found.flatten

def demandCount (leaves : List Name) (leaf : Name) : Int := leaves.count leaf

def incarnationOf (registry : Registry) (leaf : Name) : Except Error Name :=
  match registry.get? leaf with
  | none => throw (.key leaf)
  | some entry =>
      match entry.incarnation with
      | none => throw (.key "incarnation")
      | some incarnation => return incarnation

def incarnations (registry : Registry) (leaves : List Name) : Except Error (Dict Name Name) :=
  leaves.foldlM (fun found leaf => do return found.set leaf (← incarnationOf registry leaf)) Dict.empty

def chooseGrant (setting : Setting) (pass : Pass) (stage : Stage) (leaves : List Name) :
    Except Error (Option Allocation) := do
  let found ← assignments setting.registry stage.needs (pass.active.map (fun owner => owner.allocation) ++
    pass.protection)
    setting.quarantine (demandCount leaves) []
  return found.head?

def bypass (host : Host) (state : Ledger × List Stage) (older : Stage) : Except Error (Ledger × List Stage) := do
  let (ledger, stages) := state
  let count ← (older.bypassCount.getD (.integer 0)).next
  let (ledger, older) := ledger.save host { older with bypassCount := some count }
  return (ledger, put Stage.id older stages)

def bypassed (stages : List Stage) (stage : Stage) : List Stage :=
  stages.filter fun older => older.ready && decide (older.readySeq.getD 0 < stage.readySeq.getD 0)

def Stage.take (stage : Stage) (chosen : Allocation) (known : Dict Name Name) (launchToken maintenanceToken : Token)
    (moment : Time) : Stage :=
  { stage with
    state := .granted
    allocation := chosen
    epoch := stage.epoch + 1
    launchToken := some launchToken
    maintenanceToken := some maintenanceToken
    grantedAt := some moment
    reason := none
    resourceIncarnations := some known
    grantedAllocation := some chosen
    protection := none }

def grant (host : Host) (setting : Setting) (pass : Pass) (stage : Stage) (chosen : Allocation) :
    Except Error Pass := do
  let (ledger, launchToken) := pass.ledger.newToken host
  let (ledger, maintenanceToken) := ledger.newToken host
  let (ledger, now) := ledger.now host
  let known ← incarnations setting.registry chosen.keys
  -- the capacities that the grant's event records
  let _ ← chosen.keys.mapM (capacityOf setting.registry)
  let (ledger, stage) := ledger.save host (stage.take chosen known launchToken maintenanceToken now)
  let stages := put Stage.id stage pass.stages
  let (ledger, stages) ← (bypassed stages stage).foldlM (bypass host) (ledger, stages)
  return { pass with
    ledger := ledger
    stages := stages
    active := pass.active ++ [stage]
    granted := pass.granted ++ [stage] }

def keptProtection (setting : Setting) (protection : List Allocation) (previous : Option Allocation) :
    Except Error (Option Allocation) := do
  match previous with
  | none => return none
  | some candidate =>
      if candidate.keys.any (fun leaf => decide (leaf ∈ setting.quarantine)) then
        return none
      if !(← compatible setting.registry candidate protection) then
        return none
      return some candidate

def newProtection (setting : Setting) (protection : List Allocation) (stage : Stage) (leaves : List Name) :
    Except Error (Option Allocation) := do
  if setting.released = [] ∨ stage.id ∉ setting.previouslyReady then
    return none
  let found ← assignments setting.registry stage.needs protection setting.quarantine (demandCount leaves)
    setting.released
  return found.head?

def chooseProtection (setting : Setting) (protection : List Allocation) (stage : Stage) (leaves : List Name) :
    Except Error (Option Allocation) := do
  match ← keptProtection setting protection stage.protection with
  | some candidate => return some candidate
  | none => newProtection setting protection stage leaves

-- The comprehension of the source unpacks the name of a need where it expects
-- groups of leaves: "leaves" and "leaf" both run over single characters.
def conflicts (registry : Registry) (specifications : List Specification) (allocation : Allocation) :
    Except Error Bool :=
  specifications.anyM fun specification =>
    (specification.name.toList.map String.singleton).anyM fun leaves =>
      (leaves.toList.map String.singleton).anyM fun leaf => do
        return !(← compatible registry (Dict.single leaf specification.claim) [allocation])

def blockersOf (registry : Registry) (needs : List Need) (active : List Stage) : Except Error (List Id) := do
  let blocking ← filterOk (fun owner => do conflicts registry (← demands registry needs) owner.allocation) active
  return blocking.map (fun owner => owner.id)

def waitReason (setting : Setting) (needs : List Need) : Except Error Reason := do
  let found ← assignments setting.registry needs [] setting.quarantine (fun _ => 0) []
  return if found.head? = none then .recoveryBlocked else .resourceWait

def Stage.wait (stage : Stage) (candidate : Option Allocation) (reason : Reason) (blockers : List Id) : Stage :=
  { stage with
    protection := candidate
    reason := some reason
    blockers := some blockers }

def hold (host : Host) (setting : Setting) (pass : Pass) (stage : Stage) (leaves : List Name) : Except Error Pass := do
  let candidate ← chooseProtection setting pass.protection stage leaves
  let reason ← waitReason setting stage.needs
  let blockers ← blockersOf setting.registry stage.needs pass.active
  let (ledger, stage) := pass.ledger.save host (stage.wait candidate reason blockers)
  return { pass with
    ledger := ledger
    stages := put Stage.id stage pass.stages
    protection := pass.protection ++ candidate.toList }

def visit (host : Host) (setting : Setting) (pass : Pass) (stage : Stage) : Except Error Pass := do
  let leaves ← demandedLeaves setting.registry pass.stages stage
  match ← chooseGrant setting pass stage leaves with
  | some chosen => grant host setting pass stage chosen
  | none => hold host setting pass stage leaves

namespace Ledger

def owners (ledger : Ledger) : List Stage := ledger.stages.filter Stage.owning

def quarantine (ledger : Ledger) : List Name :=
  ((ledger.owners.filter (fun stage => decide (stage.state = .recoveryRequired))).flatMap
    (fun stage => stage.allocation.keys)).dedup

def setting (ledger : Ledger) : Setting where
  registry := ledger.registry
  quarantine := ledger.quarantine
  released := ledger.released
  previouslyReady := (ledger.activeStages.filter (fun stage => stage.readySeq.isSome)).map (fun stage => stage.id)

def gate (host : Host) (unavailable : List Name) (ledger : Ledger) : Pass :=
  let (gated, stages) := gateStages host unavailable { ledger with released := [] } ledger.activeStages
  ⟨gated, stages, ledger.owners, [], []⟩

def schedule (host : Host) (unavailable : List Name) (ledger : Ledger) : Except Error (Ledger × List Stage) := do
  let pass := ledger.gate host unavailable
  let ready := (pass.stages.filter Stage.ready).insertionSort readyOrder
  let pass ← ready.foldlM (visit host ledger.setting) pass
  let ledger ← pass.ledger.outcomes ((ledger.activeStages.map (fun stage => stage.request)).dedup)
  return (ledger, pass.granted)

end Ledger

end OrchestratorEngine.ResourceQueue
