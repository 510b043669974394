import Mathlib.Data.List.MinMax
import Mathlib.Data.Prod.Lex
import OrchestratorEngine.MetricsStore.Records

set_option autoImplicit false

namespace OrchestratorEngine.MetricsStore

open Foundation

-- What register_source is called with; the fields that only its normal form
-- looks at are that form, or the reason why there is none.
structure Registration where
  sourceId : Option String
  name : String
  enabled : Bool
  profile : Except Error String

def Registration.given (registration : Registration) : Option String :=
  registration.sourceId.filter fun sourceId => decide (sourceId ≠ "")

inductive Reply where
  | initialized (projectUuid : String) (generation : Generation)
  | existing (projectUuid : String) (generation : Generation)
  | knownSource (source : Source)
  | registered (source : Source) (generation : Generation)
  | unchangedSource (source : Source)
  | updated (source : Source) (generation : Generation)
  | unchanged (duplicates : Nat) (generation : Generation) (indexRebuilt : Bool)
  | committed (imported duplicates : Nat) (generation : Generation) (indexRebuilt : Bool)
  | recovered (generation : Generation)

def initializeStore (site : Site) (draw : Draw) : Program Reply := do
  if ← Journal.ask fun root => root.registry.isSome then do
    let generation ← consult fun root => currentGeneration root false
    let registry ← consult readRegistry
    return .existing registry.projectUuid generation
  else do
    let registry : Registry := ⟨draw.projectUuid, draw.registryAt, []⟩
    mirror registry
    let manifest ← commitGeneration site draw none registry [] []
    return .initialized registry.projectUuid manifest

def normalizeSource (draw : Draw) (registration : Registration) : Except Error Source := do
  let profile ← registration.profile
  return ⟨registration.given.getD draw.sourceUuid, registration.name, registration.enabled, profile, draw.sourceAt⟩

def Source.comparable (source : Source) : String × String × Bool × String :=
  (source.sourceId, source.name, source.enabled, source.profile)

def admission (source : Source) : List Source → Except Error (Option Source)
  | [] => .ok none
  | existing :: rest =>
      if existing.sourceId = source.sourceId then
        if existing.comparable = source.comparable then .ok (some existing)
        else .error (.store "source_id is already registered")
      else if existing.name = source.name then .error (.store "source name is already registered")
      else admission source rest

def Registry.enlisted (registry : Registry) (source : Source) : Registry :=
  { registry with sources := registry.sources ++ [source] }

def Registry.replaced (registry : Registry) (updated : Source) : Registry :=
  { registry with
    sources := registry.sources.map fun item => if item.sourceId = updated.sourceId then updated else item }

def commitRegistry (site : Site) (draw : Draw) (registry : Registry) : Program Generation := do
  let current ← consult fun root => currentGeneration root false
  let manifest ← commitGeneration site draw (some current) registry [] current.segments
  mirror registry
  return manifest

def registerSource (site : Site) (draw : Draw) (registration : Registration) : Program Reply := do
  consult requireInitialized
  let source ← Journal.lift (normalizeSource draw registration)
  let registry ← consult readRegistry
  match ← Journal.lift (admission source registry.sources) with
  | some existing => return .knownSource existing
  | none => do
      let manifest ← commitRegistry site draw (registry.enlisted source)
      return .registered source manifest

def answers (sourceRef : String) (item : Source) : Bool := decide (sourceRef = item.sourceId ∨ sourceRef = item.name)

def matching (registry : Registry) (sourceRef : String) : Except Error Source :=
  match registry.sources.find? (answers sourceRef) with
  | none => .error (.store s!"metrics source is not registered: {sourceRef}")
  | some source => .ok source

def setSourceEnabled (site : Site) (draw : Draw) (sourceRef : String) (enabled : Bool) : Program Reply := do
  consult requireInitialized
  let registry ← consult readRegistry
  let source ← Journal.lift (matching registry sourceRef)
  if source.enabled = enabled then return .unchangedSource source
  else do
    let updated := { source with enabled := enabled }
    let manifest ← commitRegistry site draw (registry.replaced updated)
    return .updated updated manifest

-- The normal forms of a batch, each identity once, and the number of values
-- that repeat an earlier one.
def gather (index : Nat) (normalized : List Observation) (repeated : Nat) :
    List (Except Error Observation) → Except Error (List Observation × Nat)
  | [] => .ok (normalized, repeated)
  | value :: rest => do
      refuse (maxImportRecords ≤ index) (.store "one import may contain at most 1000 records")
      let item ← value
      match row? Observation.observationId item.observationId normalized with
      | some previous => do
          refuse (previous ≠ item)
            (.store s!"observation_id appears more than once with different content: {item.observationId}")
          gather (index + 1) normalized (repeated + 1) rest
      | none => gather (index + 1) (normalized ++ [item]) repeated rest

def firstOf (identifiers : List String) : Option String :=
  (identifiers.mergeSort fun left right => decide (left ≤ right)).head?

def requireSources (registry : Registry) (normalized : List Observation) : Except Error Unit := do
  let needed := normalized.map Observation.sourceId
  match firstOf (needed.filter fun sourceId => decide (sourceId ∉ registry.sources.map Source.sourceId)) with
  | some missing => .error (.store s!"unregistered source_id: {missing}")
  | none => pure ()
  match firstOf (needed.filter fun sourceId =>
      (registry.sources.findRev? fun item => decide (item.sourceId = sourceId)).all fun item => !item.enabled) with
  | some disabled => .error (.store s!"metrics source is disabled: {disabled}")
  | none => pure ()

def insertRows (rows : List Observation) (error : Error) : List Observation → Except Error (List Observation)
  | [] => .ok rows
  | item :: rest => do
      refuse (item.observationId ∈ identities rows) error
      insertRows (rows ++ [item]) error rest

def declaredRows (root : Root) (rows : List Observation) : List Segment → Except Error (List Observation)
  | [] => .ok rows
  | segment :: rest => do
      root.segments.load segment
      let rows ← insertRows rows (.store "duplicate observation in metrics generation") segment.observations
      declaredRows root rows rest

def setIndex (index : Index) : Program Unit := Journal.write fun root => { root with index := index }

def ensureIndex (generation : Generation) : Program Bool := do
  let index ← Journal.ask Root.index
  if index.generation = some generation then return false
  else do
    let rows ← consult fun root => declaredRows root [] generation.segments
    setIndex ⟨some generation, rows⟩
    return true

def advanceIndex (generation : Generation) (additions : List Observation) : Program Unit := do
  let index ← Journal.ask Root.index
  if index.generation = none ∨ index.generation ≠ generation.parent? then do
    let _ ← ensureIndex generation
  else do
    let rows ← Journal.lift (insertRows index.rows .integrity additions)
    setIndex ⟨some generation, rows⟩

def additionsOver (rows : List Observation) : List Observation → Except Error (List Observation)
  | [] => .ok []
  | item :: rest =>
      match row? Observation.observationId item.observationId rows with
      | none => do
          let later ← additionsOver rows rest
          return item :: later
      | some previous => do
          refuse (previous ≠ item)
            (.store s!"observation_id already exists with different content: {item.observationId}")
          additionsOver rows rest

def ingest (site : Site) (draw : Draw) (values : List (Except Error Observation)) : Program Reply := do
  let (normalized, repeated) ← Journal.lift (gather 0 [] 0 values)
  consult requireInitialized
  let registry ← consult readRegistry
  Journal.lift (requireSources registry normalized)
  let current ← consult fun root => currentGeneration root false
  let rebuilt ← ensureIndex current
  let rows ← Journal.ask fun root => root.index.rows
  let additions ← Journal.lift (additionsOver rows normalized)
  if additions = [] then return .unchanged (normalized.length + repeated) current rebuilt
  else do
    let manifest ← commitGeneration site draw (some current) registry additions current.segments
    advanceIndex manifest additions
    return .committed additions.length (normalized.length - additions.length + repeated) manifest rebuilt

instance (priority := high) agePreorder : Preorder (Nat ×ₗ Int) :=
  @Prod.Lex.instPreorder Nat Int inferInstance Int.instLinearOrder.toPreorder

def age (generation : Generation) : Nat ×ₗ Int := toLex (generation.sequence, generation.createdAt)

def newest (generations : List Generation) : Option Generation := generations.argmax age

def candidates (site : Site) (root : Root) : List Generation :=
  ((root.generations.whole ++ root.generations.torn).mergeSort fun left right =>
    decide (site.order left ≤ site.order right)).filter fun generation =>
      decide (loadGeneration root true generation = .ok ())

def recover (site : Site) : Program Reply := do
  Journal.require (← Journal.ask fun root => root.registry.isNone)
    (.store "metrics store is not initialized; run metrics init")
  match ← Journal.ask fun root => newest (candidates site root) with
  | none => Journal.raise (.store "no valid metrics generation is recoverable")
  | some selected => do
      select selected
      consult fun root => root.objects.load (.registry selected.registry)
      mirror selected.registry
      return .recovered selected

inductive Call where
  | initializeStore
  | registerSource (registration : Registration)
  | setSourceEnabled (sourceRef : String) (enabled : Bool)
  | ingest (values : List (Except Error Observation))
  | recover

def Call.body (site : Site) (draw : Draw) : Call → Program Reply
  | initializeStore => MetricsStore.initializeStore site draw
  | registerSource registration => MetricsStore.registerSource site draw registration
  | setSourceEnabled sourceRef enabled => MetricsStore.setSourceEnabled site draw sourceRef enabled
  | ingest values => MetricsStore.ingest site draw values
  | recover => MetricsStore.recover site

-- A call and the number of durable steps after which the process stops, unless
-- the call is over by then.
structure Event where
  call : Call
  draw : Draw
  stop : Nat

def Event.visited (site : Site) (event : Event) (root : Root) : List Root :=
  ((event.call.body site event.draw).run root).1

def Event.after (site : Site) (root : Root) (event : Event) : Root :=
  ((event.visited site root).take event.stop).getLastD root

def replay (site : Site) (history : List Event) : Root := history.foldl (Event.after site) {}

end OrchestratorEngine.MetricsStore
