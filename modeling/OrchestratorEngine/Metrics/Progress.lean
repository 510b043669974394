import OrchestratorEngine.Foundation.Grouping
import OrchestratorEngine.Metrics.Records

set_option autoImplicit false

namespace OrchestratorEngine.Metrics.Progress

open Foundation

def text (item : Observation) (name : String) : String :=
  match item.field name with
  | .str value => value
  | _ => ""

def integer (item : Observation) (name : String) : Int :=
  match item.field name with
  | .int value => value
  | _ => 0

structure Digests (δ : Type) where
  of : Dict String Json → δ
  texts : ∀ {first second : Dict String Json}, of first = of second → ∀ {name value},
    first.get? name = some (.str value) → second.get? name = some (.str value)

def revisionId (item : Observation) : String := text item "scope_revision_id"

def workItemId (item : Observation) : String := text item "work_item_id"

def status (item : Observation) : String := text item "status"

inductive Role where
  | baseline
  | current
deriving DecidableEq, Repr

inductive Reason where
  | projectOwnerSourceUnavailable
  | scopeRevisionUnavailable
  | requestedUnavailable (role : Role)
  | baselineScopeUnavailable
  | ambiguousBaselineScopeRevision
  | ambiguousCurrentScopeRevision
  | conflictingScopeItems (workItemIds : List String)
  | currentScopeItemsUnavailable
deriving DecidableEq, Repr

abbrev RevisionOrder := Int ×ₗ Int ×ₗ String

def revisionOrder (item : Observation) : RevisionOrder :=
  toLex (integer item "revision_index", toLex (item.knownAt.instant, item.observationId))

def selectRevision (revisions : List Observation) (requested : Option String) (role : Role) :
    Except Reason Observation :=
  match requested with
  | some wanted =>
      match revisions.filter fun item => (item.field "scope_revision_id").names wanted with
      | [item] => .ok item
      | _ => .error (.requestedUnavailable role)
  | none =>
      match role with
      | .baseline =>
          let candidates := revisions.filter fun item => (item.field "baseline").truthy
          match (sortedBy revisionOrder candidates).head? with
          | none => .error .baselineScopeUnavailable
          | some first =>
              if candidates.all fun item => decide (revisionId item = revisionId first) then .ok first
              else .error .ambiguousBaselineScopeRevision
      | .current =>
          let marked := revisions.filter fun item => (item.field "current").truthy
          let candidates := if marked.isEmpty then revisions else marked
          let highest := ((candidates.map fun item => integer item "revision_index").max?).getD 0
          match candidates.filter fun item => decide (integer item "revision_index" = highest) with
          | [item] => .ok item
          | _ => .error .ambiguousCurrentScopeRevision

section Items

variable {δ : Type} [DecidableEq δ] (digests : Digests δ)

def conflicting (items : List Observation) : Bool :=
  decide (1 < (items.map Observation.sourceId).dedup.length ∧ 1 <
  (items.map fun item => digests.of item.data).dedup.length)

def inModule (moduleId : Option String) (item : Observation) : Bool :=
  match moduleId with
  | none => true
  | some wanted => (item.field "module_id").names wanted

def revisionItems (records : List Observation) (revision : String) (moduleId : Option String) : List Observation :=
  records.filter fun item => (item.field "scope_revision_id").names revision && inModule moduleId item

def itemsForRevision (records : List Observation) (revision : String) (moduleId : Option String) :
    List Observation × List String :=
  let grouped := (groupBy workItemId (revisionItems records revision moduleId)).items
  let conflicts := (grouped.filter fun group => conflicting digests group.2).map Prod.fst
  let selected := (grouped.filter fun group => !conflicting digests group.2).filterMap fun group =>
    maxBy Observation.recordOrder group.2
  (sortedBy workItemId selected, sortedBy id conflicts)

end Items

abbrev Terms := String × String × String

def termsOf (item : Observation) : Option Terms :=
  match (item.field "work_item_id").text?, (item.field "scope_revision_id").text?,
  (item.field "criteria_revision").text? with
  | some workItem, some revision, some criteria => some (workItem, revision, criteria)
  | _, _, _ => none

def isAccepted (item : Observation) : Bool :=
  (item.field "accepted").isTrue && ["evidence_ref", "evidence_digest"].any fun name => (item.field name).isText

def latestBySource (items : List Observation) : List Observation :=
  ((sortedBy Observation.recordOrder items).foldl (fun latest item => latest.set item.sourceId item)
    (Dict.empty : Dict String Observation)).items.map Prod.snd

def settleAcceptance (items : List Observation) : Option Observation :=
  let current := latestBySource items
  let unaccepted := current.filter fun item => !isAccepted item
  maxBy Observation.recordOrder (if unaccepted.isEmpty then current else unaccepted)

def acceptanceStates (records : List Observation) : Dict (Option Terms) (Option Observation) :=
  (groupBy termsOf (records.filter fun item =>
    decide (item.recordType = "acceptance") && (termsOf item).isSome)).mapValues fun _ items => settleAcceptance items

def acceptanceForItem (item : Observation) (acceptances : Dict (Option Terms) (Option Observation)) :
    Option Observation :=
  (acceptances.get? (some (workItemId item, revisionId item, text item "criteria_revision"))).getD none

def acceptedItem (acceptances : Dict (Option Terms) (Option Observation)) (item : Observation) : Bool :=
  decide (status item ≠ "removed" ∧ status item ≠ "reopened") && (acceptanceForItem item acceptances).any isAccepted

-- The exact value of the float; "float" of an integer from 2^1024 on raises an OverflowError, which is not modelled.
def weight (item : Observation) : Rat := ((item.field "weight").number?).getD 1

inductive WeightingMode where
  | ownerSupplied
  | uniformItems
  | mixedExplicitAndUniform
deriving DecidableEq, Repr

def activeStatuses : List String := ["accepted", "blocked", "in_progress", "planned", "reopened", "review_ready"]

structure Summary where
  itemCount : Nat
  acceptedCount : Nat
  acceptedWeight : Rat
  denominatorWeight : Rat
  progressRatio : Rat
  progressPercent : Rat
  weightingMode : WeightingMode
  statusDistribution : List (String × Nat)
  acceptedWithoutEvidenceCount : Nat
deriving DecidableEq

section Summaries

variable (acceptances : Dict (Option Terms) (Option Observation))

def active (items : List Observation) : List Observation := items.filter fun item => decide (status item ≠ "removed")

def totalWeight (items : List Observation) : Rat := (items.map weight).sum

def scopeSummary (items : List Observation) : Summary :=
  let active := active items
  let accepted := active.filter (acceptedItem acceptances)
  let explicitWeights := active.countP fun item => (item.data.get? "weight").isSome
  let ratio := if totalWeight active = 0 then 0 else totalWeight accepted / totalWeight active
  { itemCount := active.length
    acceptedCount := accepted.length
    acceptedWeight := totalWeight accepted
    denominatorWeight := totalWeight active
    progressRatio := ratio
    progressPercent := ratio * 100
    weightingMode := if explicitWeights = active.length then .ownerSupplied
      else if explicitWeights = 0 then .uniformItems
      else .mixedExplicitAndUniform
    statusDistribution := activeStatuses.map fun name => (name, active.countP fun item => decide (status item = name))
    acceptedWithoutEvidenceCount := active.countP fun item =>
      decide (status item = "accepted") && !(acceptanceForItem item acceptances).any isAccepted }

def moduleName (item : Observation) : String :=
  match item.data.get? "module_id" with
  | some (.str name) => name
  | _ => "unassigned"

def moduleSummaries (items : List Observation) : List (String × Summary) :=
  (sortedBy Prod.fst (groupBy moduleName items).items).map fun group => (group.1, scopeSummary acceptances group.2)

end Summaries

structure ScopeChange where
  addedCount : Nat
  removedCount : Nat
  carriedCount : Nat
  splitCount : Nat
  addedWorkItemIds : List String
  removedWorkItemIds : List String
  baselineWeight : Rat
  currentWeight : Rat
  growthWeight : Rat
  growthRatio : Option Rat
  growthPercent : Option Rat
  changeReasons : List String
deriving DecidableEq

def byWorkItem (items : List Observation) : Dict String Observation :=
  items.foldl (fun known item => known.set (workItemId item) item) Dict.empty

def texts : Json → List String
  | .arr items => items.filterMap Json.text?
  | _ => []

def changeReason (item : Observation) : Option String := (item.field "change_reason").text?

def scopeChange (baselineItems currentItems : List Observation) : Option ScopeChange :=
  if baselineItems.isEmpty then none
  else
    let baseline := byWorkItem (active baselineItems)
    let current := byWorkItem (active currentItems)
    let currentAll := byWorkItem currentItems
    let added := sortedBy id (current.keys.filter fun name => decide (name ∉ baseline.keys))
    let removed := sortedBy id (baseline.keys.filter fun name => decide (name ∉ current.keys))
    let values (known : Dict String Observation) := known.items.map Prod.snd
    let baselineWeight := totalWeight (values baseline)
    let currentWeight := totalWeight (values current)
    let delta := currentWeight - baselineWeight
    let reasons := (added.filterMap fun name => (current.get? name).bind changeReason) ++
      removed.filterMap fun name => ((currentAll.get? name).or (baseline.get? name)).bind changeReason
    some {
      addedCount := added.length
      removedCount := removed.length
      carriedCount := (baseline.keys.filter fun name => decide (name ∈ current.keys)).length
      splitCount := (values current).countP fun item =>
        (texts (item.field "parent_work_item_ids")).any fun parent => decide (parent ∈ baseline.keys)
      addedWorkItemIds := added.take 50
      removedWorkItemIds := removed.take 50
      baselineWeight
      currentWeight
      growthWeight := delta
      growthRatio := if baselineWeight = 0 then none else some (delta / baselineWeight)
      growthPercent := if baselineWeight = 0 then none else some (delta * 100 / baselineWeight)
      changeReasons := (sortedBy id reasons.dedup).take 20 }

structure Query where
  projectSources : List String
  semantics : Semantics
  baselineRevision : Option String
  currentRevision : Option String
  moduleId : Option String
  minimumSamples : Nat

structure Report (φ : Type) where
  baselineRevision : Option String
  currentRevision : String
  baseline : Option Summary
  current : Summary
  scopeChange : Option ScopeChange
  modules : List (String × Summary)
  forecast : φ

section Calculation

variable {δ φ : Type} [DecidableEq δ] (digests : Digests δ)

variable (forecast : List Observation → List Observation → Dict (Option Terms) (Option Observation) → Nat → φ)

def ofSources (sources : List String) (records : List Observation) : List Observation :=
  records.filter fun item => decide (item.sourceId ∈ sources)

def selectBaseline (query : Query) (revisions : List Observation) : Except Reason (Option Observation) :=
  match selectRevision revisions query.baselineRevision .baseline with
  | .ok selected => .ok (some selected)
  | .error reason => if query.baselineRevision.isSome then .error reason else .ok none

def agreedItems (query : Query) (items : List Observation) (revision : Observation) : Except Reason
    (List Observation) :=
  let (selected, conflicts) := itemsForRevision digests items (revisionId revision) query.moduleId
  if conflicts.isEmpty then .ok selected else .error (.conflictingScopeItems (conflicts.take 20))

def itemsOfBaseline (query : Query) (items : List Observation) (selected : Option Observation) :
    Except Reason (List Observation) :=
  match selected with
  | some revision => agreedItems digests query items revision
  | none => .ok []

def ownedProgress (query : Query) (authoritative : List Observation) : Except Reason (Report φ) := do
  let revisions := ofType "scope_revision" authoritative
  refuse (query.projectSources = []) .projectOwnerSourceUnavailable
  refuse (revisions = []) .scopeRevisionUnavailable
  let selectedCurrent ← selectRevision revisions query.currentRevision .current
  let selectedBaseline ← selectBaseline query revisions
  let allScopeItems := ofType "scope_item" authoritative
  let currentItems ← agreedItems digests query allScopeItems selectedCurrent
  refuse (currentItems = []) .currentScopeItemsUnavailable
  let baselineItems ← itemsOfBaseline digests query allScopeItems selectedBaseline
  let acceptances := acceptanceStates authoritative
  return {
    baselineRevision := selectedBaseline.map revisionId
    currentRevision := revisionId selectedCurrent
    baseline := if baselineItems.isEmpty then none else some (scopeSummary acceptances baselineItems)
    current := scopeSummary acceptances currentItems
    scopeChange := scopeChange baselineItems currentItems
    modules := moduleSummaries acceptances currentItems
    forecast := forecast currentItems allScopeItems acceptances query.minimumSamples }

def calculateProgress (query : Query) (observations : List Observation) : Except Fault (Except Reason (Report φ)) := do
  refuse (query.minimumSamples < 1) (.valueError "minimum_samples must be at least 1")
  let records ← latestLogicalRecords query.semantics [] observations
  return ownedProgress digests forecast query (ofSources query.projectSources records)

end Calculation

end OrchestratorEngine.Metrics.Progress
