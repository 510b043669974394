import OrchestratorEngine.Metrics.Records

set_option autoImplicit false

namespace OrchestratorEngine.Metrics

open Foundation

-- The floating point of the interpreter. An integer that is too large for it
-- raises, and a sum is taken in the order of the values.
structure Floats where
  Value : Type
  ofInt : Int → Option Value
  ofFloat : Rat → Value
  sum : List Value → Value
  isZero : Value → Bool

def Floats.number (floats : Floats) : Json → Except Fault (Option floats.Value)
  | .int value =>
      match floats.ofInt value with
      | some number => .ok (some number)
      | none => .error .overflow
  | .float value => .ok (some (floats.ofFloat value))
  | _ => .ok none

abbrev UsageSources := Option (List String)

def UsageSources.admits (usage : UsageSources) (source : String) : Bool :=
  match usage with
  | none => true
  | some names => decide (source ∈ names)

inductive Availability where
  | unknown
  | incomplete
  | known
deriving DecidableEq, Repr

def availability (known total : Nat) : Availability :=
  if total = 0 ∨ known = 0 then .unknown
  else if known < total then .incomplete
  else .known

def usageKey (item : Observation) : List String :=
  match (item.field "usage_event_id").text? with
  | some event => [item.sourceId, event]
  | none => identity [] item

section Reports

variable (floats : Floats) (usage : UsageSources)

def qualifiedUsage (item : Observation) : Except Fault Bool := do
  match ← floats.number (item.field "total_tokens") with
  | none => return false
  | some _ =>
      if ← (item.field "usage_measurement_status").among ["complete", "partial"] then
        return usage.admits item.sourceId
      else return false

structure Tally where
  known : Dict (List String) floats.Value
  lowerBounds : Dict (List String) floats.Value
  unqualified : Nat

def Tally.empty : Tally floats := ⟨.empty, .empty, 0⟩

def count (tally : Tally floats) (item : Observation) : Except Fault (Tally floats) := do
  let value ← floats.number (item.field "total_tokens")
  match value with
  | none => return tally
  | some number =>
      if ← qualifiedUsage floats usage item then
        let measurement := item.field "usage_measurement_status"
        if measurement.names "partial" then
          return { tally with lowerBounds := tally.lowerBounds.set (usageKey item) number }
        else if measurement.names "complete" then
          return { tally with known := tally.known.set (usageKey item) number }
        else return tally
      else return { tally with unqualified := tally.unqualified + 1 }

structure TokenReport where
  value : Option floats.Value
  availability : Availability
  known : Nat
  total : Nat
  deduplicatedUsageEvents : Nat
  partialUsageRecords : Nat
  lowerBound : Option floats.Value
  unqualifiedUsageRecords : Nat

def tokens (records : List Observation) : Except Fault (TokenReport floats) := do
  let attempts := ofType "execution_attempt" records
  let tally ← attempts.foldlM (count floats usage) (Tally.empty floats)
  let known := tally.known.items.map Prod.snd
  let bound := floats.sum (tally.lowerBounds.items.map Prod.snd)
  return {
    value := if known = [] then none else some (floats.sum known)
    availability := if tally.lowerBounds.items.isEmpty then availability known.length attempts.length else .incomplete
    known := known.length + tally.lowerBounds.items.length
    total := attempts.length
    deduplicatedUsageEvents := known.length
    partialUsageRecords := tally.lowerBounds.items.length
    lowerBound := if floats.isZero bound then none else some bound
    unqualifiedUsageRecords := tally.unqualified }

structure CoverageReport where
  value : Option Rat
  knownUsageAttempts : Nat
  total : Nat
deriving DecidableEq, Repr

def covers (item : Observation) : Except Fault Bool := do
  if ← qualifiedUsage floats usage item then
    return (item.field "usage_measurement_status").names "complete"
  else return false

def usageCoverage (records : List Observation) : Except Fault CoverageReport := do
  let attempts := ofType "execution_attempt" records
  let covered ← attempts.mapM (covers floats usage)
  let known := covered.count true
  return {
    value := if attempts = [] then none else some (known / attempts.length)
    knownUsageAttempts := known
    total := attempts.length }

structure UsageReport where
  tokens : TokenReport floats
  coverage : CoverageReport

def calculateUsage (semantics : Semantics) (canonicalSources : List String) (observations : List Observation) :
    Except Fault (UsageReport floats) := do
  let records ← latestLogicalRecords semantics canonicalSources observations
  return ⟨← tokens floats usage records, ← usageCoverage floats usage records⟩

end Reports

end OrchestratorEngine.Metrics
