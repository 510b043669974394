import Mathlib.Data.List.Sort
import Mathlib.Data.Prod.Lex
import Mathlib.Data.String.Basic
import OrchestratorEngine.Metrics.Values

set_option autoImplicit false

namespace OrchestratorEngine.Metrics

open Foundation

-- An ISO-8601 text with the instant it stands for.
structure Stamp where
  text : String
  instant : Int
deriving DecidableEq

-- An observation that normalize_observation has accepted: its envelope is typed,
-- its data is what the producer sent.
structure Observation where
  observationId : String
  sourceId : String
  recordType : String
  observedAt : Stamp
  effectiveAt : Stamp
  knownAt : Stamp
  scope : Dict String Json
  data : Dict String Json

structure Calendar where
  parse : String → Option Int

abbrev Order := Int ×ₗ Int ×ₗ String

instance (priority := high) orderPreorder : Preorder Order :=
  @Prod.Lex.instPreorder Int (Int ×ₗ String) Int.instLinearOrder.toPreorder
    (@Prod.Lex.instPreorder Int String Int.instLinearOrder.toPreorder inferInstance)

def sortedBy {α κ : Type} [LE κ] [DecidableLE κ] (key : α → κ) (items : List α) : List α :=
  items.insertionSort fun left right => key left ≤ key right

namespace Observation

-- "item['data'].get(name)"
def field (item : Observation) (name : String) : Json := (item.data.get? name).getD .null

def scopeField (item : Observation) (name : String) : Json := (item.scope.get? name).getD .null

def recordOrder (item : Observation) : Order :=
  toLex (item.knownAt.instant, toLex (item.effectiveAt.instant, item.observationId))

def applicabilityOrder (item : Observation) : Order :=
  toLex (item.effectiveAt.instant, toLex (item.knownAt.instant, item.observationId))

def arrivalOrder (item : Observation) : Order :=
  toLex (item.knownAt.instant, toLex (item.observedAt.instant, item.observationId))

end Observation

def Json.entry (value : Json) (name : String) : Json :=
  match value with
  | .obj fields => (Dict.getItem name fields).getD .null
  | _ => .null

def identityFields : List String :=
  ["execution_id", "event_id", "operation_id", "attempt_id", "work_item_id", "delivery_id", "obligation_id",
    "classification_id", "capability_id", "sample_id", "report_snapshot_id"]

def fieldIdentity (item : Observation) : List String → List String
  | [] => [item.sourceId, "observation", item.observationId]
  | name :: rest =>
      match (item.field name).text? with
      | none => fieldIdentity item rest
      | some value =>
          if name = "execution_id" then
            match (item.field "execution_kind").text? with
            | some kind => [item.sourceId, item.recordType, name, kind, value]
            | none => [item.sourceId, item.recordType, name, value]
          else [item.sourceId, item.recordType, name, value]

def sourceIdentity (item : Observation) : List String :=
  let named := fieldIdentity item identityFields
  if item.recordType = "scope_item" then
    match item.field "scope_revision_id", item.field "work_item_id" with
    | .str revision, .str workItem => [item.sourceId, "scope_item", revision, workItem]
    | _, _ => named
  else if item.recordType = "scope_revision" then
    match (item.field "scope_revision_id").text? with
    | some revision => [item.sourceId, "scope_revision", revision]
    | none => named
  else if item.recordType = "acceptance" then
    match (item.field "scope_revision_id").text?, (item.field "criteria_revision").text?,
        (item.field "work_item_id").text? with
    | some revision, some criteria, some workItem => [item.sourceId, "acceptance", revision, criteria, workItem]
    | _, _, _ => named
  else named

def canonicalName (item : Observation) (canonicalSources : List String) : Option (String × String) :=
  if item.sourceId ∈ canonicalSources then
    match ((item.field "canonical_identity").entry "namespace").text?,
        ((item.field "canonical_identity").entry "id").text? with
    | some space, some value => some (space, value)
    | _, _ => none
  else none

def identity (canonicalSources : List String) (item : Observation) : List String :=
  match canonicalName item canonicalSources with
  | some (space, value) => [item.recordType, "canonical", space, value]
  | none => sourceIdentity item

abbrev Semantics := String → Option String

def mergesInto (semantics : Semantics) (record : Observation) : Except Fault Bool :=
  if (semantics record.sourceId).getD "mixed" ≠ "mixed" then .ok false
  else ((record.data.get? "observation_mode").getD (.str "full_snapshot")).among ["partial_update", "complement"]

def updated (previous latest : Dict String Json) : Dict String Json :=
  latest.items.foldl (fun merged item => merged.set item.1 item.2) previous

def settleRecord (semantics : Semantics) (canonicalSources : List String) (selected : Dict (List String) Observation)
    (record : Observation) : Except Fault (Dict (List String) Observation) := do
  let key := identity canonicalSources record
  match selected.get? key with
  | none => return selected.set key record
  | some previous => do
      if ← mergesInto semantics record then
        return selected.set key { record with data := updated previous.data record.data }
      else return selected.set key record

def latestLogicalRecords (semantics : Semantics) (canonicalSources : List String) (observations : List Observation) :
    Except Fault (List Observation) := do
  let selected ← (sortedBy Observation.arrivalOrder observations).foldlM
    (settleRecord semantics canonicalSources) Dict.empty
  return selected.items.map Prod.snd

def ofType (recordType : String) (records : List Observation) : List Observation :=
  records.filter fun item => decide (item.recordType = recordType)

def recordOf (items : List (String × Json)) : Dict String Json :=
  items.foldl (fun fields item => fields.set item.1 item.2) Dict.empty

def observed (observationId recordType : String) (instant : Int) (items : List (String × Json)) : Observation where
  observationId
  sourceId := "owner"
  recordType
  observedAt := ⟨"", instant⟩
  effectiveAt := ⟨"", instant⟩
  knownAt := ⟨"", instant⟩
  scope := recordOf [("package_id", .str "package")]
  data := recordOf items

end OrchestratorEngine.Metrics
