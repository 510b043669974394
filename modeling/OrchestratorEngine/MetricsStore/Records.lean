import OrchestratorEngine.Foundation.Journal
import OrchestratorEngine.Foundation.Table

set_option autoImplicit false

namespace OrchestratorEngine.MetricsStore

open Foundation

inductive Error where
  | store (message : String)
  | contract (message : String)
  | fileNotFound
  | integrity
  | invalidJson
deriving DecidableEq

structure Source where
  sourceId : String
  name : String
  enabled : Bool
  profile : String
  createdAt : Int
deriving DecidableEq

structure Registry where
  projectUuid : String
  createdAt : Int
  sources : List Source
deriving DecidableEq

structure Observation where
  observationId : String
  sourceId : String
  content : String
deriving DecidableEq

inductive Object where
  | registry (value : Registry)
  | batch (observations : List Observation)
deriving DecidableEq

structure Segment where
  createdAt : Int
  batches : List (List Observation)
  observations : List Observation
deriving DecidableEq

inductive Generation where
  | first (createdAt : Int) (registry : Registry)
  | next (parent : Generation) (createdAt : Int) (sequence : Nat) (registry : Registry) (segments : List Segment)
deriving DecidableEq

namespace Generation

def createdAt : Generation → Int
  | first createdAt _ => createdAt
  | next _ createdAt _ _ _ => createdAt

def sequence : Generation → Nat
  | first _ _ => 0
  | next _ _ sequence _ _ => sequence

def parent? : Generation → Option Generation
  | first _ _ => none
  | next parent _ _ _ _ => some parent

def registry : Generation → Registry
  | first _ registry => registry
  | next _ _ _ registry _ => registry

def segments : Generation → List Segment
  | first _ _ => []
  | next _ _ _ _ segments => segments

end Generation

def generationObservations (generation : Generation) : List Observation :=
  generation.segments.flatMap Segment.observations

-- Files that are named by the digest of their content. One that was claimed but
-- not filled is there without being readable.
structure Shelf (α : Type) where
  whole : List α := []
  torn : List α := []

namespace Shelf

variable {α : Type} [DecidableEq α]

abbrev Holds (shelf : Shelf α) (value : α) : Prop := value ∈ shelf.whole ∨ value ∈ shelf.torn

def load (shelf : Shelf α) (value : α) : Except Error Unit :=
  if value ∈ shelf.whole then .ok ()
  else if value ∈ shelf.torn then .error .invalidJson
  else .error .fileNotFound

def claim (value : α) (shelf : Shelf α) : Shelf α := { shelf with torn := value :: shelf.torn }

def fill (value : α) (shelf : Shelf α) : Shelf α where
  whole := value :: shelf.whole
  torn := shelf.torn.filter fun other => decide (other ≠ value)

end Shelf

structure Index where
  generation : Option Generation := none
  rows : List Observation := []

-- The metrics directory: its two mutable files, which are replaced at once, the
-- content addressed ones, and the observation index.
structure Root where
  registry : Option Registry := none
  current : Option Generation := none
  objects : Shelf Object := {}
  segments : Shelf Segment := {}
  generations : Shelf Generation := {}
  index : Index := {}

-- The length of what is written as JSON, where a time takes a fixed number of
-- bytes, and the order of digests.
structure Site where
  bytes : Observation → Nat
  segmentBytes : List (List Observation) → List Observation → Nat
  order : Generation → Nat

structure Draw where
  projectUuid : String
  sourceUuid : String
  registryAt : Int
  sourceAt : Int
  segmentAt : Int
  generationAt : Int

abbrev Program (α : Type) := Journal Root Error α

def consult {α : Type} (query : Root → Except Error α) : Program α := do
  Journal.lift (← Journal.ask query)

def maxImportRecords : Nat := 1000

def maxManifestBytes : Nat := 1048576

def batchTargetBytes : Nat := 524288

def observationBatches (site : Site) : List Observation → List Observation → Nat → List (List Observation)
  | [], [], _ => []
  | [], current, _ => [current]
  | observation :: rest, current, currentBytes =>
      let observationBytes := site.bytes observation + 1
      if current ≠ [] ∧ batchTargetBytes < currentBytes + observationBytes then
        current :: observationBatches site rest [observation] (96 + observationBytes)
      else observationBatches site rest (current ++ [observation]) (currentBytes + observationBytes)

section Files

variable {α : Type} [DecidableEq α]

structure Place (α : Type) where
  shelf : Root → Shelf α
  put : (Shelf α → Shelf α) → Root → Root
  shelf_put : ∀ change root, shelf (put change root) = change (shelf root)

def loadHashed (place : Place α) (value : α) : Program Unit := consult fun root => (place.shelf root).load value

-- core.claim_json creates the file in one step and fills it in another; when it
-- finds a file, the store loads it.
def writeHashed (place : Place α) (value : α) : Program Unit := do
  if ← Journal.ask fun root => decide ((place.shelf root).Holds value) then loadHashed place value
  else do
    Journal.write (place.put (Shelf.claim value))
    Journal.write (place.put (Shelf.fill value))

end Files

def objectFiles : Place Object where
  shelf := Root.objects
  put change root := { root with objects := change root.objects }
  shelf_put _ _ := rfl

def segmentFiles : Place Segment where
  shelf := Root.segments
  put change root := { root with segments := change root.segments }
  shelf_put _ _ := rfl

def generationFiles : Place Generation where
  shelf := Root.generations
  put change root := { root with generations := change root.generations }
  shelf_put _ _ := rfl

def select (generation : Generation) : Program Unit := Journal.write fun root =>
    { root with current := some generation }

def mirror (registry : Registry) : Program Unit := Journal.write fun root => { root with registry := some registry }

def identities (observations : List Observation) : List String := observations.map Observation.observationId

def collect (earlier actual : List Observation) : List Observation → Except Error (List Observation)
  | [] => .ok actual
  | item :: rest => do
      refuse (item.observationId ∈ identities actual) (.store "duplicate observation in metrics segment")
      refuse (item.observationId ∈ identities earlier) (.store "duplicate observation in metrics generation")
      collect earlier (actual ++ [item]) rest

def collectBatches (root : Root) (earlier actual : List Observation) :
    List (List Observation) → Except Error (List Observation)
  | [] => .ok actual
  | batch :: rest => do
      root.objects.load (.batch batch)
      let actual ← collect earlier actual batch
      collectBatches root earlier actual rest

def presentBatches (root : Root) : List (List Observation) → Except Error Unit
  | [] => .ok ()
  | batch :: rest => do
      refuse (¬ root.objects.Holds (.batch batch)) (.store "metrics generation object is missing")
      presentBatches root rest

def collectSegments (root : Root) (verifyObjects : Bool) (earlier : List Observation) :
    List Segment → Except Error (List Observation)
  | [] => .ok earlier
  | segment :: rest => do
      root.segments.load segment
      if verifyObjects then do
        let actual ← collectBatches root earlier [] segment.batches
        refuse (segment.observations ≠ actual) (.store "metrics segment observation digest index differs")
        collectSegments root verifyObjects (earlier ++ actual) rest
      else do
        presentBatches root segment.batches
        collectSegments root verifyObjects earlier rest

def loadGeneration (root : Root) (verifyObjects : Bool) (generation : Generation) : Except Error Unit := do
  root.generations.load generation
  refuse (¬ generation.segments.Nodup) (.store "duplicate metrics generation segment")
  root.objects.load (.registry generation.registry)
  let _ ← collectSegments root verifyObjects [] generation.segments

def currentGeneration (root : Root) (verifyObjects : Bool) : Except Error Generation :=
  match root.current with
  | none => .error .fileNotFound
  | some generation => do
      loadGeneration root verifyObjects generation
      return generation

def observations (root : Root) : Except Error (List Observation) := do
  let generation ← currentGeneration root true
  collectSegments root true [] generation.segments

def readRegistry (root : Root) : Except Error Registry :=
  match root.registry with
  | none => .error (.store "metrics store is not initialized")
  | some kept =>
      match root.current with
      | none => .ok kept
      | some _ => do
          let generation ← currentGeneration root false
          root.objects.load (.registry generation.registry)
          return generation.registry

def requireInitialized (root : Root) : Except Error Unit :=
  refuse (root.registry = none ∨ root.current = none)
    (.store "metrics store is not initialized; run metrics init")

def writeSegment (site : Site) (draw : Draw) (newObservations : List Observation) : Program (List Segment) :=
  if newObservations = [] then return []
  else do
    let batches := observationBatches site newObservations [] 96
    Journal.each (writeHashed objectFiles) (batches.map Object.batch)
    Journal.require (maxManifestBytes < site.segmentBytes batches newObservations)
      (.store "metrics segment exceeds the 1 MiB limit")
    let segment : Segment := ⟨draw.segmentAt, batches, newObservations⟩
    writeHashed segmentFiles segment
    return [segment]

def nextGeneration (draw : Draw) (parent : Option Generation) (registry : Registry) (segments : List Segment) :
    Generation :=
  match parent with
  | none => .first draw.generationAt registry
  | some old => .next old draw.generationAt (old.sequence + 1) registry segments

def commitGeneration (site : Site) (draw : Draw) (parent : Option Generation) (registry : Registry)
    (newObservations : List Observation) (previousSegments : List Segment) : Program Generation := do
  writeHashed objectFiles (.registry registry)
  let added ← writeSegment site draw newObservations
  let generation := nextGeneration draw parent registry (previousSegments ++ added)
  writeHashed generationFiles generation
  select generation
  return generation

end OrchestratorEngine.MetricsStore
