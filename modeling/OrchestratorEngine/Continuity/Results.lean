import OrchestratorEngine.Continuity.Activations

set_option autoImplicit false

namespace OrchestratorEngine.Continuity

open Foundation

def outcomeIdentity (source : SourceKey) (status : String) (data : Data) (eventId : Option String) : Outcome where
  source
  status
  identity :=
    match data.resultSha256, data.resultReference, eventId with
    | some sha256, _, _ => .result sha256
    | none, some reference, _ => .reference reference
    | none, none, some event => .event event
    | none, none, none => .data data

def outcomeHasStableAnchor (data : Data) (eventId : Option String) : Bool :=
  data.resultSha256.isSome || data.resultReference.isSome || eventId.isSome

def byRecording (results : List Result) : List Result :=
  results.insertionSort fun first second => first.recordedAt ≤ second.recordedAt

-- The row that already holds an observation: one with its digest, or the only
-- row of its source and status when that one has no stable anchor.
def recordedRow (store : Store) (source : SourceKey) (status : String) (eventId : Option String) (data : Data) :
    Option Result :=
  let digests := [Digest.current (outcomeIdentity source status data eventId), .legacy source status data]
  match byRecording (store.results.filter fun row => decide (row.sourceKey = source ∧ row.digest ∈ digests)) with
  | row :: _ => some row
  | [] =>
      match store.results.filter fun row => decide (row.sourceKey = source ∧ row.status = status) with
      | [row] => if outcomeHasStableAnchor row.data row.eventId then none else some row
      | _ => none

def updateResult (id : Outcome) (digest : Digest) (eventId : Option String) (data : Data) (row : Result) : Result :=
  if row.outcomeId = id then { row with digest, eventId := row.eventId.orElse fun _ => eventId, data } else row

def recordResult (world : World) (source : SourceKey) (status : String) (eventId : Option String) (data : Data) :
    Transaction (Bool × Outcome) := do
  let outcome := outcomeIdentity source status data eventId
  match ← Tx.ask fun store => recordedRow store source status eventId data with
  | some row => do
      let taken ← Tx.ask fun store => store.results.any fun other =>
        decide (other.outcomeId ≠ row.outcomeId ∧ other.sourceKey = source ∧ other.digest = .current outcome)
      Tx.require (taken = true) .integrity
      Tx.edit fun store =>
        { store with results := store.results.map (updateResult row.outcomeId (.current outcome) eventId data) }
      return (false, row.outcomeId)
  | none => do
      let taken ← Tx.ask fun store => store.results.any fun other => decide (other.outcomeId = outcome)
      Tx.require (taken = true) .integrity
      Tx.edit fun store => { store with
        results := store.results ++
          [⟨outcome, source, status, eventId, .current outcome, data, world.recorded store.results.length⟩] }
      return (true, outcome)

def reconcileSource (world : World) (source : SourceKey) : Transaction (List Outcome) := do
  match world.retained source with
  | .terminal status data => do
      let (changed, outcome) ← recordResult world source status none data
      return if changed then [outcome] else []
  | _ => return []

def reconcileSources (world : World) (sources : List SourceKey) : Transaction (List Outcome) :=
  Tx.gather (reconcileSource world) (sources.eraseDups.filter fun source => decide (source.kind ≠ .obligation))

def pendingReplays (store : Store) (workId : String) : Dict Outcome Nat :=
  (store.metadata.pendingReplays.get? workId).getD Dict.empty

def resolveOutcomeAlias (store : Store) (outcome : Outcome) : Except Error Outcome :=
  match row? Result.outcomeId outcome store.results with
  | some row => .ok row.outcomeId
  | none =>
      match row? ResultAlias.aliasOutcomeId outcome store.resultAliases with
      | some row => .ok row.outcomeId
      | none => .error (.continuity "unknown managed result identity")

def resolveOutcomeAliases (store : Store) (outcomes : List Outcome) : Except Error (List Outcome) :=
  outcomes.mapM (resolveOutcomeAlias store)

def Store.source? (store : Store) (outcome : Outcome) : Option SourceKey :=
  (row? Result.outcomeId outcome store.results).map Result.sourceKey

def currentReplyActivations (store : Store) (workId actorId : String) (claimed : Bool) : List Activation :=
  inOrder (store.activations.filter fun activation =>
    decide (activation.workId = workId ∧ activation.actorId = actorId ∧ activation.reason = .requestReply) &&
      activation.live && (!claimed || decide (activation.status = .claimed)) &&
      (store.actor? actorId).any (fun actor =>
        actor.active && decide (activation.endpointGeneration = actor.generation)) &&
      store.requests.any fun request =>
        decide (request.replyActivationId = some activation.activationId ∧ request.workId = workId ∧
          request.returnActor = actorId ∧ (request.status = .replyReady ∨ request.status = .handled)))

def replyOutcomes (store : Store) (reply : Activation) : List Outcome :=
  match store.requests.find? fun request => decide (request.replyActivationId = some reply.activationId) with
  | some request => reply.manifest.filterMap fun mark =>
      match mark, request.obligationId with
      | .outcome outcome, some obligationId =>
          if store.source? outcome = some (obligationSource obligationId) then some outcome else none
      | _, _ => none
  | none => []

def claimedReplyOutcomes (store : Store) (workId actorId : String) : List Outcome :=
  ((currentReplyActivations store workId actorId true).flatMap (replyOutcomes store)).filter fun outcome =>
    decide (outcome ∉ (pendingReplays store workId).keys)

def replayClaimAllowed (store : Store) (workId actorId : String) (outcome : Outcome) (activation : Activation) :
    Except Error Bool :=
  match (pendingReplays store workId).get? outcome with
  | none => .ok true
  | some requested =>
      if activation.workRevision < requested then .ok false
      else do
        let actor ← requireActor store actorId
        return decide (activation.endpointGeneration = actor.generation)

def claimedByWait (store : Store) (workId actorId : String) (outcome : Outcome) : Except Error Bool :=
  (store.activations.filter fun activation =>
    decide (activation.workId = workId ∧ activation.actorId = actorId ∧ activation.reason = .waitSatisfied ∧
      activation.status = .claimed)).anyM fun activation =>
    if Mark.outcome outcome ∈ activation.manifest then replayClaimAllowed store workId actorId outcome activation
    else .ok false

def HandledResult.key (row : HandledResult) : String × Outcome := (row.workId, row.outcomeId)

def putHandled (workId actorId : String) (outcome : Outcome) (source : SourceKey) (store : Store) : Store :=
  let row : HandledResult := ⟨workId, outcome, source, actorId⟩
  { store with handledResults := put HandledResult.key row store.handledResults }

def dropHandled (workId : String) (outcome : Outcome) (store : Store) : Store :=
  { store with handledResults := store.handledResults.filter fun row => decide (row.key ≠ (workId, outcome)) }

def Store.ledger (store : Store) (workId : String) : List Outcome :=
  (store.handledResults.filter fun row => decide (row.workId = workId)).map HandledResult.outcomeId

def acknowledge (workId actorId : String) (allowed : Option (List SourceKey)) (replies : List Outcome)
    (outcome : Outcome) : Transaction Unit := do
  match ← Tx.ask fun store => store.source? outcome with
  | none => Tx.raise (.continuity "unknown managed result identity")
  | some source => do
      Tx.require (∃ sources ∈ allowed, source ∉ sources ∧ outcome ∉ replies)
        (.continuity "handled result is outside the current wait")
      let claimed ← Tx.read fun store =>
        if outcome ∈ replies then .ok true else claimedByWait store workId actorId outcome
      Tx.require (claimed = false) (.continuity "handled result requires a claimed activation containing it")
      Tx.edit (putHandled workId actorId outcome source)

def reprocess (workId : String) (sources : List SourceKey) (outcome : Outcome) : Transaction Unit := do
  let source ← Tx.ask fun store => store.source? outcome
  Tx.require (∀ known ∈ source, known ∉ sources) (.continuity "reprocessed result is outside the current wait")
  Tx.edit (dropHandled workId outcome)

def nextHandledResults (workId actorId : String) (sources : List SourceKey)
    (handledResults reprocessResults : List Outcome) : Transaction (List Outcome) := do
  let handledSources ← Tx.ask fun store =>
    sources ++ ((store.wait? workId).map Wait.sources).getD []
  let previous ← Tx.ask fun store => store.ledger workId
  let handled ← Tx.read fun store => resolveOutcomeAliases store handledResults
  let replayed ← Tx.read fun store => resolveOutcomeAliases store reprocessResults
  let replies ← Tx.ask fun store => claimedReplyOutcomes store workId actorId
  Tx.each (acknowledge workId actorId (some handledSources) replies) handled
  Tx.each (reprocess workId sources) replayed
  Tx.ask fun store => (previous ++ handled).dedup.filter fun outcome =>
    decide (outcome ∉ replayed) && (store.source? outcome).any fun source => decide (source ∈ sources)

def persistHandledResults (workId actorId : String) (handledResults : List Outcome) : Transaction Unit := do
  let handled ← Tx.read fun store => resolveOutcomeAliases store handledResults
  let replies ← Tx.ask fun store => claimedReplyOutcomes store workId actorId
  Tx.each (acknowledge workId actorId none replies) handled

def setReplays (workId : String) (replays : Dict Outcome Nat) (store : Store) : Store :=
  let pendingReplays := store.metadata.pendingReplays.set workId replays
  { store with metadata := { store.metadata with pendingReplays } }

def recordReplayDecisions (workId : String) (revision : Nat) (handled reprocess : List Outcome) : Transaction Unit := do
  let popped ← Tx.read fun store => resolveOutcomeAliases store handled
  let decided ← Tx.read fun store => resolveOutcomeAliases store reprocess
  Tx.edit fun store => setReplays workId
    (decided.foldl (fun replays outcome => replays.set outcome revision)
      ((pendingReplays store workId).without popped)) store

def AssignmentHandledResult.key (row : AssignmentHandledResult) : String × Outcome := (row.obligationId, row.outcomeId)

def putAssignmentHandled (obligationId actorId : String) (outcome : Outcome) (source : SourceKey) (store : Store) :
    Store :=
  let row : AssignmentHandledResult := ⟨obligationId, outcome, source, actorId⟩
  { store with assignmentHandledResults := put AssignmentHandledResult.key row store.assignmentHandledResults }

def dropAssignmentHandled (obligationId : String) (outcome : Outcome) (store : Store) : Store :=
  let kept := store.assignmentHandledResults.filter fun row => decide (row.key ≠ (obligationId, outcome))
  { store with assignmentHandledResults := kept }

def acknowledgeAssignment (obligationId actorId : String) (sources : List SourceKey) (claimed : List (List Mark))
    (outcome : Outcome) : Transaction Unit := do
  match ← Tx.ask fun store => store.source? outcome with
  | none => Tx.raise (.continuity "unknown managed result identity")
  | some source => do
      Tx.require (source ∉ sources) (.continuity "handled result is outside the assignment wait")
      Tx.require (∀ manifest ∈ claimed, Mark.outcome outcome ∉ manifest)
        (.continuity "handled result requires the claimed assignment wait activation")
      Tx.edit (putAssignmentHandled obligationId actorId outcome source)

def reprocessAssignment (obligationId : String) (sources : List SourceKey) (outcome : Outcome) : Transaction Unit := do
  let source ← Tx.ask fun store => store.source? outcome
  Tx.require (∀ known ∈ source, known ∉ sources) (.continuity "reprocessed result is outside the assignment wait")
  Tx.edit (dropAssignmentHandled obligationId outcome)

def claimedAssignmentManifests (store : Store) (obligationId actorId : String) : List (List Mark) :=
  (store.activations.filter fun activation =>
    decide (activation.actorId = actorId ∧ activation.reason = .assignmentWaitSatisfied ∧
      activation.status = .claimed ∧ Mark.obligation obligationId ∈ activation.manifest)).map Activation.manifest

def nextAssignmentHandledResults (obligationId actorId : String) (sources previousSources : List SourceKey)
    (handledResults reprocessResults : List Outcome) : Transaction (List Outcome) := do
  let previous ← Tx.ask fun store =>
    (store.assignmentHandledResults.filter fun row => decide (row.obligationId = obligationId)).map
      AssignmentHandledResult.outcomeId
  let handled ← Tx.read fun store => resolveOutcomeAliases store handledResults
  let replayed ← Tx.read fun store => resolveOutcomeAliases store reprocessResults
  let claimed ← Tx.ask fun store => claimedAssignmentManifests store obligationId actorId
  Tx.each (acknowledgeAssignment obligationId actorId (sources ++ previousSources) claimed) handled
  Tx.each (reprocessAssignment obligationId sources) replayed
  Tx.ask fun store => (previous ++ handled).dedup.filter fun outcome =>
    decide (outcome ∉ replayed) && (store.source? outcome).any fun source => decide (source ∈ sources)

end OrchestratorEngine.Continuity
