import OrchestratorEngine.MetricsStore.Commits

set_option autoImplicit false

namespace OrchestratorEngine.MetricsStore

open Foundation

def commission (draw : Draw) (current : Generation) : Call → Option (Registry × List Observation)
  | .registerSource registration =>
      match normalizeSource draw registration with
      | .error _ => none
      | .ok source =>
          if admission source current.registry.sources = .ok none then some (current.registry.enlisted source, [])
          else none
  | .setSourceEnabled sourceRef enabled =>
      match matching current.registry sourceRef with
      | .error _ => none
      | .ok source =>
          if source.enabled = enabled then none
          else some (current.registry.replaced { source with enabled := enabled }, [])
  | .ingest values =>
      match gather 0 [] 0 values with
      | .error _ => none
      | .ok (normalized, _) =>
          match additionsOver (generationObservations current) normalized with
          | .error _ => none
          | .ok additions => if additions = [] then none else some (current.registry, additions)
  | _ => none

def Admits (site : Site) (draw : Draw) (current : Generation) : Call → Prop
  | .registerSource registration => ∃ source, normalizeSource draw registration = .ok source ∧
      ∃ admitted, admission source current.registry.sources = .ok admitted
  | .setSourceEnabled sourceRef _ => ∃ source, matching current.registry sourceRef = .ok source
  | .ingest values => ∃ normalized repeated additions, gather 0 [] 0 values = .ok (normalized, repeated) ∧
      requireSources current.registry normalized = .ok () ∧
      additionsOver (generationObservations current) normalized = .ok additions ∧ (additions ≠ [] → Fits site additions)
  | _ => True

def freshRegistry (draw : Draw) : Registry := ⟨draw.projectUuid, draw.registryAt, []⟩

def plan (draw : Draw) (root : Root) (call : Call) : Option (Registry × List Observation) :=
  match root.current, call with
  | none, .initializeStore => if root.registry = none then some (freshRegistry draw, []) else none
  | none, _ => none
  | some current, call => commission draw current call

def Performs (before : Root) (plan : Option (Registry × List Observation)) (after : Root) : Prop :=
  match plan with
  | none => before.registry ≠ none ∧ ∃ index, after = { before with index := index } ∧ Indexed index
  | some (registry, additions) => Commits before registry additions after

section Reading

variable {root : Root} {current : Generation}

theorem current_generation_whole (sound : Sound root) (verifyObjects : Bool) (selected : root.current = some current) :
    currentGeneration root verifyObjects = .ok current := by
  have whole := sound.selected current selected
  simp only [currentGeneration, selected, load_generation_whole verifyObjects whole
    (sound.generations current whole), bind_ok,
    pure_ok]

theorem sound_registered (sound : Sound root) (selected : root.current = some current) : root.registry ≠ none := by
  intro missing
  rw [sound.blank missing] at selected
  cases selected

theorem read_registry_current (sound : Sound root) (selected : root.current = some current) :
    readRegistry root = .ok current.registry := by
  obtain ⟨kept, registered⟩ := Option.ne_none_iff_exists'.mp (sound_registered sound selected)
  have known := (sound.generations current (sound.selected current selected)).registry
  simp only [readRegistry, registered, selected, current_generation_whole sound false selected, bind_ok,
    Shelf.load_whole known, pure_ok]

theorem require_initialized_current (initialized : requireInitialized root = .ok ()) :
    root.registry ≠ none ∧ ∃ current, root.current = some current := by
  rw [requireInitialized, refuse_ok_iff, not_or] at initialized
  exact ⟨initialized.1, Option.ne_none_iff_exists'.mp initialized.2⟩

end Reading

section Indexing

theorem insert_rows_append {rows result additions : List Observation} {error : Error}
    (inserted : insertRows rows error additions = .ok result) : result = rows ++ additions := by
  induction additions generalizing rows with
  | nil =>
      cases inserted
      exact (List.append_nil _).symm
  | cons item rest ih =>
      simp only [insertRows, bind_ok_iff, refuse_ok_iff] at inserted
      obtain ⟨_, _, later⟩ := inserted
      rw [ih later, List.append_assoc, List.singleton_append]

theorem declared_rows_append {root : Root} {segments : List Segment} {rows result : List Observation}
    (declared : declaredRows root rows segments = .ok result) :
    result = rows ++ segments.flatMap Segment.observations := by
  induction segments generalizing rows with
  | nil =>
      cases declared
      exact (List.append_nil _).symm
  | cons segment rest ih =>
      simp only [declaredRows, bind_ok_iff] at declared
      obtain ⟨_, _, middle, inserted, later⟩ := declared
      rw [ih later, insert_rows_append inserted, List.flatMap_cons, List.append_assoc]

variable {good : Root → Prop}

theorem ensure_index_keeps {start : Root} {generation : Generation} (indexed : Indexed start.index)
    (fine : ∀ rows, rows = generationObservations generation → good { start with index := ⟨some generation, rows⟩ }) :
    Journal.Keeps good (fun _ state => ∃ index, state = { start with index := index } ∧
      index.generation = some generation ∧ index.rows = generationObservations generation)
      (ensureIndex generation) start := by
  simp only [ensureIndex, Journal.keeps_bind, Journal.keeps_ask]
  by_cases current : start.index.generation = some generation
  · rw [if_pos current, Journal.keeps_pure]
    exact ⟨start.index, rfl, current, indexed generation current⟩
  · rw [if_neg current]
    simp only [Journal.keeps_bind, keeps_consult, setIndex, Journal.keeps_write, Journal.keeps_pure]
    intro rows declared
    have same := declared_rows_append declared
    exact ⟨fine rows same, ⟨some generation, rows⟩, rfl, rfl, same⟩

theorem advance_index_keeps {start : Root} {generation : Generation} {additions : List Observation}
    (indexed : Indexed start.index)
    (grown : ∀ parent, generation.parent? = some parent →
      generationObservations generation = generationObservations parent ++ additions)
    (fine : ∀ rows, rows = generationObservations generation → good { start with index := ⟨some generation, rows⟩ }) :
    Journal.Keeps good (fun _ state => ∃ index, state = { start with index := index } ∧
      index.generation = some generation ∧ index.rows = generationObservations generation)
      (advanceIndex generation additions) start := by
  simp only [advanceIndex, Journal.keeps_bind, Journal.keeps_ask]
  by_cases behind : start.index.generation = none ∨ start.index.generation ≠ generation.parent?
  · rw [if_pos behind]
    simp only [Journal.keeps_bind, Journal.keeps_pure]
    exact ensure_index_keeps indexed fine
  · rw [if_neg behind]
    simp only [Journal.keeps_bind, Journal.keeps_lift, setIndex, Journal.keeps_write]
    intro rows inserted
    rw [not_or, not_not] at behind
    obtain ⟨parent, known⟩ := Option.ne_none_iff_exists'.mp behind.1
    have same : rows = generationObservations generation := by
      rw [insert_rows_append inserted, indexed parent known, ← grown parent (behind.2 ▸ known)]
    exact ⟨fine rows same, ⟨some generation, rows⟩, rfl, rfl, same⟩

end Indexing

end OrchestratorEngine.MetricsStore
