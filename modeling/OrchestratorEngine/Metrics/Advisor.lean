import Mathlib.Data.List.MinMax
import OrchestratorEngine.Metrics.Records

set_option autoImplicit false

namespace OrchestratorEngine.Metrics

open Foundation

inductive Scope where
  | package
  | operationOnly
deriving DecidableEq

structure Query where
  calendar : Calendar
  scope : Scope
  packageId : Option String
  operationId : Option String
  ownerSources : List String
  canonicalSources : List String
  semantics : Semantics
  asOf : Stamp

abbrev Binding := Dict String Json

def valueOf (value : Dict String Json) (name : String) : Json := (value.get? name).getD .null

def concerns (name : String) (wanted : Option String) (item : Observation) : Bool :=
  match wanted with
  | none => true
  | some value => (item.scopeField name).equals (.str value) || (item.field name).equals (.str value)

def textFields (value : Dict String Json) (names : List String) : Bool := names.all fun name =>
    (valueOf value name).isText

def packageBindingsComplete (value : Binding) : Bool :=
  textFields value ["requirement_set_id", "candidate_id", "check_plan_revision", "policy_revision"] &&
    (valueOf value "obligations_complete").isTrue &&
    match valueOf value "obligation_ids" with
    | .arr items => items.all Json.isText && decide (items.filterMap Json.text?).Nodup
    | _ => false

def textOf : Json → String
  | .str text => text
  | _ => ""

def numberOf (value : Json) : Rat := value.number?.getD 0

-- "tuple(sorted(value))": what cannot be compared cannot be sorted.
def sortedTuple : Json → Except Fault (List Json)
  | .arr items =>
      if items.all Json.isStr then .ok (sortedBy textOf items)
      else if items.all fun item => item.number?.isSome then .ok (sortedBy numberOf items)
      else if items.length ≤ 1 then .ok items
      else .error .typeError
  | .str text => .ok (sortedBy textOf (text.toList.map fun char => .str (String.singleton char)))
  | .obj fields => .ok (sortedBy textOf (fields.map fun field => .str field.1))
  | _ => .error .typeError

-- The signature is put into a set, so all of it is hashed.
def bindingSignature (value : Binding) : Except Fault Json := do
  let requirements ← sortedTuple ((value.get? "requirement_ids").getD (.arr []))
  let obligations ← sortedTuple ((value.get? "obligation_ids").getD (.arr []))
  let parts := [valueOf value "requirement_set_id", valueOf value "candidate_id", valueOf value "check_plan_revision",
    valueOf value "policy_revision", valueOf value "obligations_complete"]
  refuse (¬ (parts ++ requirements ++ obligations).all Json.hashable) .typeError
  return .arr [.arr parts, .arr requirements, .arr obligations]

def isPackageBinding (ownerSources : List String) (item : Observation) : Bool :=
  decide (item.recordType = "classification") && (item.field "classification_kind").equals (.str "package_binding") &&
    decide (item.sourceId ∈ ownerSources)

def latestBySource (items : List Observation) : Dict String Observation :=
  items.foldl (fun latest item => latest.set item.sourceId item) Dict.empty

def selectPackageBinding (ownerSources : List String) (records : List Observation) :
    Except Fault (Except String Binding) := do
  let latest := (latestBySource ((sortedBy Observation.applicabilityOrder records).filter
    (isPackageBinding ownerSources))).items.map Prod.snd
  match latest.argmax Observation.applicabilityOrder with
  | none => return .error "package_context_unavailable"
  | some current => do
      let signatures ← latest.mapM fun item => bindingSignature item.data
      if ¬ signatures.all fun one => signatures.all one.equals then return .error "ambiguous_package_binding"
      else if packageBindingsComplete current.data then return .ok current.data
      else return .error "package_binding_incomplete"

def sameFields (names : List String) (value binding : Dict String Json) : Bool :=
  names.all fun name => (valueOf value name).equals (valueOf binding name)

def obligationMatchesBinding (value : Dict String Json) (binding : Binding) : Bool :=
  sameFields ["requirement_set_id", "candidate_id", "check_plan_revision", "policy_revision"] value binding

def obligationOf (ownerSources : List String) (item : Observation) : Option String :=
  if item.recordType = "obligation" ∧ item.sourceId ∈ ownerSources then (item.field "obligation_id").text? else none

def groupObligations (ownerSources : List String) (items : List Observation) : Dict String (Dict String Observation) :=
  items.foldl (fun grouped item =>
    match obligationOf ownerSources item with
    | none => grouped
    | some obligationId =>
        grouped.set obligationId (((grouped.get? obligationId).getD Dict.empty).set item.sourceId item)) Dict.empty

def unsettled (binding : Binding) (item : Observation) : Except Fault Bool := do
  let settled ← (item.field "status").among ["completed", "waived"]
  return !settled || !obligationMatchesBinding item.data binding

def listed : Json → List String
  | .arr items => items.filterMap Json.text?
  | _ => []

def pendingObligations (ownerSources : List String) (records : List Observation) (binding : Option Binding) :
    Except Fault (List String) :=
  match binding with
  | none => .ok []
  | some current =>
      let grouped := groupObligations ownerSources (sortedBy Observation.recordOrder records)
      filterOk (fun obligationId =>
        let states := ((grouped.get? obligationId).getD Dict.empty).items.map Prod.snd
        if states = [] then .ok true else states.anyM (unsettled current)) (listed (valueOf current "obligation_ids"))

def matchesPackageBinding (value : Dict String Json) (binding : Option Binding) : Bool :=
  match binding with
  | none => true
  | some current =>
      sameFields ["candidate_id", "check_plan_revision", "policy_revision"] value current &&
        match valueOf current "requirement_ids" with
        | .arr items => (valueOf value "requirement_id").isNull || items.any (valueOf value "requirement_id").equals
        | _ => true

def attemptAppliesToBinding (value : Dict String Json) (binding : Option Binding) : Bool :=
  match binding with
  | none => true
  | some current =>
      ["candidate_id", "check_plan_revision", "policy_revision"].all fun name =>
        (valueOf value name).isNull || (valueOf value name).equals (valueOf current name)

-- The operation that an attempt is one of, and its label. The kinds of an
-- accepted record are texts or null.
def operationKey (canonicalSources : List String) (item : Observation) : Option (List String × String) :=
  match canonicalName item canonicalSources with
  | some (space, value) => some (["canonical", space, value], s!"{space}:{value}")
  | none =>
      match ((item.field "operation_id").text?).or (item.field "execution_id").text? with
      | none => none
      | some identifier =>
          let kind := (((item.field "operation_kind").text?).or (item.field "execution_kind").text?).getD "native"
          some (["native", item.sourceId, kind, identifier], s!"{item.sourceId}:{kind}:{identifier}")

def attemptKey (canonicalSources : List String) (item : Observation) : List String × String :=
  (operationKey canonicalSources item).getD
    (["unidentified", item.sourceId, item.observationId], s!"unidentified:{item.observationId}")

def groupAttempts (canonicalSources : List String) (attempts : List Observation) :
    Dict (List String) (String × List Observation) :=
  attempts.foldl (fun grouped item =>
    let (key, label) := attemptKey canonicalSources item
    let earlier := if (operationKey canonicalSources item).isSome then ((grouped.get? key).map Prod.snd).getD [] else []
    grouped.set key (label, earlier ++ [item])) Dict.empty

def latestBy (value : Observation → Option Int) (items : List Observation) : Option (List Observation × Bool) :=
  match (items.filterMap value).max? with
  | none => none
  | some last =>
      if (items.filterMap value).length ≠ items.length then some (items, true)
      else
        let latest := items.filter fun item => decide (value item = some last)
        some (latest, decide (latest.length ≠ 1))

def attemptSequence (item : Observation) : Option Int :=
  match item.field "attempt_sequence" with
  | .int value => some value
  | _ => none

def optionalTimestamp (calendar : Calendar) : Json → Option Int
  | .str text => calendar.parse text
  | _ => none

def latestAttempt (calendar : Calendar) (items : List Observation) : List Observation × Bool :=
  (((latestBy attemptSequence items).or
  (latestBy (fun item => optionalTimestamp calendar (item.field "started_at")) items)).or
    (latestBy (fun item => some item.effectiveAt.instant) items)).getD (items, true)

def currentOperationAttempts (calendar : Calendar) (canonicalSources : List String) (attempts : List Observation) :
    List Observation × List String :=
  let groups := (groupAttempts canonicalSources attempts).items
  let chosen := groups.filterMap fun group => (latestAttempt calendar group.2.2).1.argmax Observation.recordOrder
  let unidentified := (attempts.filter fun item => (operationKey canonicalSources item).isNone).map fun item =>
    (attemptKey canonicalSources item).2
  let tied := (groups.filter fun group => (latestAttempt calendar group.2.2).2).map fun group => group.2.1
  (chosen, sortedBy id (unidentified.dedup ++ tied))

def finalGate (ownerSources : List String) (binding : Option Binding) (item : Observation) : Bool :=
  (item.field "verification_role").equals (.str "final_gate") && (item.field "status").equals (.str "completed") &&
    (item.field "accepted").isTrue && (item.field "authority_status").equals (.str "owner_authorized") &&
    decide (item.sourceId ∈ ownerSources) &&
    textFields item.data ["candidate_id", "check_plan_revision", "evidence_digest"] &&
    matchesPackageBinding item.data binding

def isClassification (kind : String) (item : Observation) : Bool :=
  decide (item.recordType = "classification") && (item.field "classification_kind").equals (.str kind)

def sourceExecutionExists (value : Dict String Json) (attempts : List Observation) : Bool :=
  let found := attempts.filter fun item => (item.field "execution_id").equals (valueOf value "source_execution_id")
  match (valueOf value "source_execution_source_id").text? with
  | some sourceId => found.any fun item => decide (item.sourceId = sourceId)
  | none => decide ((found.map Observation.sourceId).dedup.length = 1)

def invalidReuse (binding : Option Binding) (attempts : List Observation) (item : Observation) : Except Fault Bool := do
  let bad ← (item.field "status").among ["invalid", "unknown"]
  return bad || (item.field "invalidation_reason").truthy ||
    !textFields item.data ["requirement_id", "check_plan_revision", "candidate_id", "source_execution_id",
      "environment_id", "evidence_digest", "policy_revision"] ||
    !matchesPackageBinding item.data binding || !sourceExecutionExists item.data attempts

def settlements : List String := ["resolved", "superseded", "accepted_risk", "not_applicable"]

def targetsFailure (disposition failure : Observation) (records : List Observation) : Bool :=
  match (disposition.field "source_execution_source_id").text? with
  | some sourceId => decide (sourceId = failure.sourceId)
  | none =>
      let found := records.filter fun item => decide (item.recordType = "execution_attempt") &&
        (item.field "execution_id").equals (failure.field "execution_id")
      !found.isEmpty && found.all fun item => decide (item.sourceId = failure.sourceId)

def disposes (ownerSources : List String) (records : List Observation) (failure item : Observation) :
    Except Fault Bool := do
  if isClassification "failure_disposition" item &&
      (item.field "source_execution_id").equals (failure.field "execution_id") then
    let settles ← (item.field "status").among settlements
    return settles && decide (item.sourceId ∈ ownerSources) && targetsFailure item failure records
  else return false

-- "value in {None, candidate}"
def sameCandidate (failure item : Observation) : Except Fault Bool := do
  refuse (¬ ((failure.field "candidate_id").hashable && (item.field "candidate_id").hashable)) .typeError
  return (item.field "candidate_id").isNull || (item.field "candidate_id").equals (failure.field "candidate_id")

def settlesItself (ownerSources : List String) (failure : Observation) : Except Fault Bool :=
  if failure.sourceId ∈ ownerSources then (failure.field "disposition").among settlements else .ok false

def withCandidate (failure : Observation) (dispositions : List Observation) : Except Fault (List Observation) :=
  if (failure.field "candidate_id").isNull then .ok dispositions else filterOk (sameCandidate failure) dispositions

def failureIsUnresolved (ownerSources : List String) (records : List Observation) (binding : Option Binding)
    (failure : Observation) : Except Fault Bool := do
  let settled ← settlesItself ownerSources failure
  if settled then return false
  else if binding.isSome && !(failure.field "candidate_id").isNull && !matchesPackageBinding failure.data binding then
    return false
  else do
    let dispositions ← filterOk (disposes ownerSources records failure) records
    let applicable ← withCandidate failure dispositions
    return applicable.isEmpty

structure Details where
  checkRequired : Bool
  checkAdmissibleNow : Bool
  historicalVerification : Bool
  liveReadiness : Bool
  publicationEligible : Bool
  reuseDecisions : Nat
  invalidReuseDecisions : Nat
  unresolvedFailures : List Observation
  runningOperations : List Observation
  incompleteOperations : List Observation
  ambiguousOperations : List String
  resourceConflicts : List Observation
  packageBinding : Option Binding

structure Guidance where
  available : Bool
  nextAction : String
  reason : String
  pending : List String
  details : Option Details

def unavailable (reason : String) : Guidance := ⟨false, "use_ordinary_project_policy", reason, [], none⟩

def known (asOf : Stamp) (item : Observation) : Bool :=
  decide (item.knownAt.instant ≤ asOf.instant) && decide (item.effectiveAt.instant ≤ asOf.instant)

def packageRecords (query : Query) (observations : List Observation) : Except Fault (List Observation) := do
  let current ← latestLogicalRecords query.semantics [] (observations.filter (known query.asOf))
  return current.filter fun item =>
    concerns "package_id" query.packageId item && concerns "operation_id" query.operationId item

def isAttempt (item : Observation) : Bool := decide (item.recordType = "execution_attempt")

def terminalStatuses : List String := ["completed", "passed", "succeeded", "failed", "errored", "timed_out"]

def statusAmong (names : List String) (item : Observation) : Except Fault Bool := (item.field "status").among names

structure Findings where
  pending : List String
  current : List Observation
  ambiguous : List String
  running : List Observation
  incomplete : List Observation
  conflicts : List Observation
  equivalent : List Observation
  historical : Bool
  passed : Bool
  reuse : List Observation
  invalid : List Observation
  foreign : List Observation
  invalidating : List Observation
  unresolved : List Observation
  succeeded : List Observation

def isFailed (item : Observation) : Except Fault Bool := statusAmong ["failed", "errored", "timed_out"] item

def unresolvedFailures (ownerSources : List String) (records : List Observation) (binding : Option Binding) :
    Except Fault (List Observation) := do
  let failed ← filterOk isFailed (records.filter isAttempt)
  filterOk (failureIsUnresolved ownerSources records binding) failed

def lifecycleAttempts (records : List Observation) (binding : Option Binding) : List Observation :=
  (records.filter isAttempt).filter fun item => (item.field "status").isStr && attemptAppliesToBinding item.data binding

def inspect (query : Query) (records : List Observation) (binding : Option Binding) : Except Fault Findings := do
  let pending ← pendingObligations query.ownerSources records binding
  let attempts := records.filter isAttempt
  let chosen := currentOperationAttempts query.calendar query.canonicalSources (lifecycleAttempts records binding)
  let running ← filterOk (statusAmong ["starting", "queued", "pending", "running"]) chosen.1
  let incomplete ← filterOk (fun item => (statusAmong terminalStatuses item).map not) chosen.1
  let conflicts ← filterOk (statusAmong ["unavailable", "rate_limited"])
    (records.filter fun item => decide (item.recordType = "source_capability"))
  let reuse := records.filter (isClassification "reuse_decision")
  let invalid ← filterOk (invalidReuse binding attempts) reuse
  let mutations := records.filter (isClassification "environment_mutation")
  let unresolved ← unresolvedFailures query.ownerSources records binding
  let succeeded ← filterOk (statusAmong ["completed", "passed", "succeeded"]) chosen.1
  return {
    pending
    current := chosen.1
    ambiguous := chosen.2
    running
    incomplete
    conflicts
    equivalent := attempts.filter fun item => (item.field "equivalent_repetition").isTrue ||
      (item.field "equivalence_key").truthy && (item.field "evidence_delta").isFalse
    historical := attempts.any (finalGate query.ownerSources binding)
    passed := chosen.1.any (finalGate query.ownerSources binding)
    reuse
    invalid
    foreign := mutations.filter fun item => (item.field "planned").isFalse
    invalidating := mutations.filter fun item => (item.field "invalidates_live_readiness").isTrue
    unresolved
    succeeded }

def nextAction (scope : Scope) (found : Findings) : String × String :=
  if found.running ≠ [] then ("wait_for_running_operation", "operation_in_flight")
  else if found.conflicts ≠ [] then ("use_project_outage_fallback", "resource_unavailable")
  else if found.foreign ≠ [] then ("restore_or_revalidate_environment", "foreign_mutation")
  else if found.invalidating ≠ [] then ("revalidate_environment", "planned_state_transition")
  else if found.invalid ≠ [] then ("refresh_invalidated_evidence", "reuse_not_applicable")
  else if 2 ≤ found.equivalent.length then ("diagnose_before_repeating", "equivalent_repetition")
  else if found.unresolved ≠ [] then ("repair_failed_operation", "failed_evidence")
  else if found.incomplete ≠ [] ∨ found.ambiguous ≠ [] then
    ("inspect_incomplete_operation",
      if found.ambiguous ≠ [] then "operation_attempt_ambiguous" else "operation_terminal_outcome_unavailable")
  else if scope = .operationOnly ∧ found.current ≠ [] ∧ found.succeeded.length = found.current.length then
    ("handoff_operation_result", "operation_evidence_complete")
  else if scope = .operationOnly then ("inspect_incomplete_operation", "operation_terminal_outcome_unavailable")
  else if found.pending ≠ [] then ("complete_next_pending_obligation", "pending_obligations")
  else if found.passed = false then ("run_project_required_final_gate", "final_gate_not_proven")
  else ("handoff_for_acceptance", "project_evidence_complete")

def detail (scope : Scope) (binding : Option Binding) (found : Findings) : Details where
  checkRequired := decide (found.unresolved ≠ [] ∨ found.incomplete ≠ [] ∨ found.ambiguous ≠ [] ∨
    scope = .package ∧ (found.pending ≠ [] ∨ found.passed = false))
  checkAdmissibleNow := decide (found.running = [] ∧ found.conflicts = [])
  historicalVerification := found.historical
  liveReadiness := decide (found.running = [] ∧ found.incomplete = [] ∧ found.ambiguous = [] ∧ found.conflicts = [] ∧
    found.invalidating = [])
  publicationEligible := decide (scope = .package ∧ found.passed = true ∧ found.running = [] ∧ found.incomplete = [] ∧
    found.ambiguous = [] ∧ found.conflicts = [] ∧ found.unresolved = [] ∧ found.pending = [] ∧ found.foreign = [] ∧
    found.invalidating = [] ∧ found.invalid = [])
  reuseDecisions := found.reuse.length
  invalidReuseDecisions := found.invalid.length
  unresolvedFailures := found.unresolved
  runningOperations := found.running
  incompleteOperations := found.incomplete
  ambiguousOperations := found.ambiguous
  resourceConflicts := found.conflicts
  packageBinding := binding

def guide (query : Query) (records : List Observation) (binding : Option Binding) : Except Fault Guidance :=
  if query.scope = .operationOnly ∧ records = [] then .ok (unavailable "operation_context_unavailable")
  else do
    let found ← inspect query records binding
    let (action, reason) := nextAction query.scope found
    return ⟨true, action, reason, found.pending, some (detail query.scope binding found)⟩

def advise (query : Query) (observations : List Observation) : Except Fault Guidance := do
  if query.scope = .package ∧ (query.packageId = none ∨ query.packageId = some "") then
    return unavailable "package_context_unavailable"
  else do
    let records ← packageRecords query observations
    let selected ← selectPackageBinding query.ownerSources records
    match query.scope, selected with
    | .package, .error reason => return unavailable reason
    | _, .error _ => guide query records none
    | _, .ok binding => guide query records (some binding)

end OrchestratorEngine.Metrics
