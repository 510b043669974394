import OrchestratorEngine.Continuity.Results

set_option autoImplicit false

namespace OrchestratorEngine.Continuity

open Foundation

def satisfies (mode : WaitMode) (sources : List SourceKey) (handled : List Outcome) (rows : List Result) : Bool :=
  let unhandled := rows.any fun row => decide (row.outcomeId ∉ handled)
  match mode with
  | .any => unhandled
  | .all => (sources.all fun source => rows.any fun row => decide (row.sourceKey = source)) && unhandled

def Store.resultsOf (store : Store) (sources : List SourceKey) : List Result :=
  store.results.filter fun row => decide (row.sourceKey ∈ sources)

def waitSatisfied (store : Store) (workId : String) : Bool :=
  match store.wait? workId with
  | none => false
  | some wait => decide (wait.sources ≠ []) &&
      satisfies wait.mode wait.sources wait.handled (store.resultsOf wait.sources)

def bySource (world : World) (results : List Result) : List Result :=
  results.insertionSort fun first second =>
    first.recordedAt < second.recordedAt ∨ first.recordedAt = second.recordedAt ∧
      (world.sourceRank first.sourceKey < world.sourceRank second.sourceKey ∨
        world.sourceRank first.sourceKey = world.sourceRank second.sourceKey ∧
          world.rank first.outcomeId ≤ world.rank second.outcomeId)

def byOutcome (world : World) (results : List Result) : List Result :=
  results.insertionSort fun first second =>
    first.recordedAt < second.recordedAt ∨ first.recordedAt = second.recordedAt ∧
      world.rank first.outcomeId ≤ world.rank second.outcomeId

def firstOfEach (included : List SourceKey) : List Result → List Outcome
  | [] => []
  | row :: rows =>
      if row.sourceKey ∈ included then firstOfEach included rows
      else row.outcomeId :: firstOfEach (row.sourceKey :: included) rows

def waitResultManifest (world : World) (store : Store) (workId : String) : List Outcome :=
  match store.wait? workId with
  | none => []
  | some wait =>
      let available := firstOfEach [] ((bySource world (store.resultsOf wait.sources)).filter fun row =>
        decide (row.outcomeId ∉ wait.handled))
      match wait.mode with
      | .any => available.take 1
      | .all => available

def covers (reply : Activation) (manifest : List Outcome) : Bool :=
  decide (manifest ≠ []) && manifest.all fun outcome => decide (Mark.outcome outcome ∈ reply.manifest)

def currentWaitActivation (store : Store) (work : Work) (owner : Actor) : Option Activation :=
  store.activations.find? fun activation =>
    decide (activation.workId = work.workId ∧ activation.actorId = work.ownerActor ∧
      activation.reason = .waitSatisfied ∧ activation.workRevision = work.revision ∧
      activation.controlEpoch = work.controlEpoch ∧ activation.endpointGeneration = owner.generation) &&
      activation.live

def waitCompletionRoute (store : Store) (work : Work) (manifest : List Outcome) : Except Error (Option Activation) := do
  let owner ← requireActor store work.ownerActor
  match currentWaitActivation store work owner with
  | some active => return some active
  | none =>
      if ∃ outcome ∈ manifest, outcome ∈ (pendingReplays store work.workId).keys then return none
      else return (currentReplyActivations store work.workId work.ownerActor false).find? fun reply =>
        covers reply manifest

def setReplyWaitOwner (workId : String) (identity : ReplyWaitOwner) (store : Store) : Store :=
  let replyWaitOwner := store.metadata.replyWaitOwner.set workId identity
  { store with metadata := { store.metadata with replyWaitOwner } }

def noteReplyWaitOwner (work : Work) (route : Activation) : Transaction Unit :=
  if route.reason = .requestReply then do
    let owner ← Tx.read fun store => requireActor store work.ownerActor
    Tx.edit (setReplyWaitOwner work.workId ⟨work.revision, work.controlEpoch, owner.generation, route.activationId⟩)
  else pure ()

def evaluateWait (world : World) (workId : String) : Transaction (Option Nat) := do
  let satisfied ← Tx.ask fun store => waitSatisfied store workId
  if satisfied = false then return none
  else do
    let work ← Tx.read fun store => requireWork store workId
    if work.mode ≠ .waiting then return none
    else do
      let manifest ← Tx.ask fun store => waitResultManifest world store workId
      match ← Tx.read fun store => waitCompletionRoute store work manifest with
      | some route => do
          noteReplyWaitOwner work route
          return some route.activationId
      | none => do
          let created ← createActivation world work work.ownerActor .waitSatisfied (manifest.map .outcome) none none
          return some created

def assignmentWaitSatisfied (world : World) (store : Store) (obligationId : String) : Option (List Outcome) :=
  match store.checkpoint? obligationId with
  | none => none
  | some row =>
      if row.mode ≠ .waiting ∨ row.sources = [] then none
      else
        let rows := byOutcome world (store.resultsOf row.sources)
        let unhandled := (rows.filter fun result => decide (result.outcomeId ∉ row.handled)).map Result.outcomeId
        if satisfies (row.waitMode.getD .all) row.sources row.handled rows = false then none
        else if row.waitMode = some .any then some (unhandled.take 1)
        else some unhandled

def activeAssignmentWaitActivation (store : Store) (obligation : Obligation) : Except Error (Option Activation) := do
  let actor ← requireActor store obligation.assigneeActor
  return (inOrder store.activations).find? fun activation =>
    decide (activation.workId = obligation.workId ∧ activation.actorId = obligation.assigneeActor ∧
      activation.reason = .assignmentWaitSatisfied ∧
      activation.assignmentGeneration = some obligation.generation ∧
      activation.endpointGeneration = actor.generation ∧
      Mark.obligation obligation.obligationId ∈ activation.manifest) && activation.live

def assignmentContinuationAllowed (store : Store) (obligation : Obligation) : Except Error Bool := do
  let work ← requireWork store obligation.workId
  return decide (work.mode ≠ .complete) || (store.linkedRequest? obligation.obligationId).isSome

def evaluateAssignmentWait (world : World) (obligationId : String) : Transaction (Option Nat) := do
  let obligation? ← Tx.ask fun store => store.obligation? obligationId
  let row? ← Tx.ask fun store => store.checkpoint? obligationId
  match obligation?, row? with
  | some obligation, some row =>
      if obligation.status ≠ .opened ∨ row.assignmentGeneration ≠ obligation.generation then return none
      else do
        let allowed ← Tx.read fun store => assignmentContinuationAllowed store obligation
        if allowed = false then return none
        else do
          match ← Tx.ask fun store => assignmentWaitSatisfied world store obligationId with
          | none => return none
          | some results => do
              match ← Tx.read fun store => activeAssignmentWaitActivation store obligation with
              | some active => return some active.activationId
              | none => do
                  let work ← Tx.read fun store => requireWork store obligation.workId
                  let created ← createActivation world work obligation.assigneeActor .assignmentWaitSatisfied
                    (.obligation obligationId :: results.map .outcome) none (some obligation.generation)
                  return some created
  | _, _ => return none

end OrchestratorEngine.Continuity
