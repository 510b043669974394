import OrchestratorEngine.MetricsStore.Soundness

set_option autoImplicit false

namespace OrchestratorEngine.MetricsStore

open Foundation

section Writes

variable {α : Type} [DecidableEq α] {place : Place α} {good : Root → Prop}

@[simp] theorem keeps_consult {β : Type} (query : Root → Except Error β) (post : β → Root → Prop) (start : Root) :
    Journal.Keeps good post (consult query) start ↔ ∀ value, query start = .ok value → post value start := by
  simp [consult]

theorem write_hashed_keeps (place : Place α) {value : α} {start : Root} (fine : good start)
    (claimed : good (place.put (Shelf.claim value) start))
    (filled : good (place.put (Shelf.fill value) (place.put (Shelf.claim value) start))) :
    Journal.Keeps good (fun _ state => good state ∧ value ∈ (place.shelf state).whole)
    (writeHashed place value) start := by
  rw [writeHashed, Journal.keeps_bind, Journal.keeps_ask]
  by_cases there : (place.shelf start).Holds value
  · rw [if_pos (decide_eq_true there), loadHashed, keeps_consult]
    intro _ loaded
    by_cases whole : value ∈ (place.shelf start).whole
    · exact ⟨fine, whole⟩
    · rcases there with whole | torn
      · exact ⟨fine, whole⟩
      · rw [Shelf.load, if_neg whole, if_pos torn] at loaded
        cases loaded
  · rw [if_neg (by simpa using there)]
    simp only [Journal.keeps_bind, Journal.keeps_write]
    refine ⟨claimed, filled, filled, ?_⟩
    rw [place.shelf_put]
    exact List.mem_cons_self

structure Closed (place : Place α) (good : Root → Prop) : Prop where
  claims : ∀ value state, good state → good (place.put (Shelf.claim value) state)
  fills : ∀ value state, good state → good (place.put (Shelf.fill value) state)

theorem Closed.whole (closed : Closed place good) (value : α) :
    Closed place fun state => good state ∧ value ∈ (place.shelf state).whole where
  claims other state fine := by
    refine ⟨closed.claims other state fine.1, ?_⟩
    rw [place.shelf_put]
    exact fine.2
  fills other state fine := by
    refine ⟨closed.fills other state fine.1, ?_⟩
    rw [place.shelf_put]
    exact List.mem_cons_of_mem _ fine.2

theorem write_keeps (closed : Closed place good) {value : α} {start : Root} (fine : good start) :
    Journal.Keeps good (fun _ state => good state ∧ value ∈ (place.shelf state).whole)
    (writeHashed place value) start :=
  write_hashed_keeps place fine (closed.claims _ _ fine) (closed.fills _ _ (closed.claims _ _ fine))

theorem write_each_keeps (closed : Closed place good) {values : List α} {start : Root} (fine : good start) :
    Journal.Keeps good (fun _ state => good state ∧ ∀ value ∈ values, value ∈ (place.shelf state).whole)
      (Journal.each (writeHashed place) values) start := by
  induction values generalizing good start with
  | nil => exact (Journal.keeps_pure ()).mpr ⟨fine, fun _ listed => (by cases listed)⟩
  | cons value rest ih =>
      rw [Journal.each, Journal.keeps_bind]
      refine (write_keeps closed fine).mono (fun _ kept => kept) fun _ state written => ?_
      refine (ih (closed.whole value) written).mono (fun _ kept => kept.1) fun _ later ended => ⟨ended.1.1, ?_⟩
      intro other listed
      rcases List.mem_cons.mp listed with rfl | within
      · exact ended.1.2
      · exact ended.2 other within

end Writes

structure Heir (root : Root) (parent : Option Generation) (registry : Registry) (additions : List Observation)
    (generation : Generation) : Prop where
  sound : SoundGeneration root generation
  child : generation.parent? = parent
  follows : Follows generation
  registry : generation.registry = registry
  observations : generationObservations generation = parent.elim [] generationObservations ++ additions

variable {generation : Generation}

theorem Heir.later {before after : Root} {parent : Option Generation} {registry : Registry}
    {additions : List Observation} (heir : Heir before parent registry additions generation)
    (stocked : Stocked before after) : Heir after parent registry additions generation :=
  { heir with sound := heir.sound.later stocked }

structure Commits (before : Root) (registry : Registry) (additions : List Observation) (after : Root) : Prop where
  stocked : Stocked before after
  registered : after.registry ≠ none
  kept : before.generations.whole ⊆ after.generations.whole
  fresh : ∀ generation ∈ after.generations.whole, generation ∈ before.generations.whole ∨
    Heir after before.current registry additions generation
  current : after.current = before.current ∨ ∃ generation ∈ after.generations.whole,
    after.current = some generation ∧ Heir after before.current registry additions generation
  indexed : Indexed after.index

section Commit

variable {before after : Root} {registry : Registry} {additions : List Observation}

theorem Commits.refl (registered : before.registry ≠ none) (indexed : Indexed before.index) :
    Commits before registry additions before :=
  ⟨.refl before, registered, fun _ listed => listed, fun _ listed => .inl listed, .inl rfl, indexed⟩

theorem heirs_level {generation other : Generation} (follows : Follows generation) (likewise : Follows other)
    (same : generation.parent? = other.parent?) : generation.sequence = other.sequence := by
  cases generation with
  | first createdAt kept =>
      cases other with
      | first => rfl
      | next => cases same
  | next parent createdAt sequence kept segments =>
      have level := (follows parent rfl).1
      have level' := (likewise parent same.symm).1
      rw [level, level']

theorem Commits.sound (commits : Commits before registry additions after) (sound : Sound before) : Sound after where
  blank missing := (commits.registered missing).elim
  selected generation here := by
    rcases commits.current with same | ⟨fresh, listed, now, _⟩
    · exact commits.kept (sound.selected generation (same ▸ here))
    · rw [now] at here
      cases here
      exact listed
  generations generation listed := by
    rcases commits.fresh generation listed with old | heir
    · exact (sound.generations generation old).later commits.stocked
    · exact heir.sound
  lineage generation listed := by
    rcases commits.fresh generation listed with old | heir
    · exact sound.lineage generation old
    · exact heir.follows
  frontier generation listed := by
    rcases commits.current with same | ⟨fresh, there, now, heir⟩
    · rw [same]
      rcases commits.fresh generation listed with old | young
      · exact sound.frontier generation old
      · exact .inl young.child
    · refine .inr ⟨fresh, now, ?_⟩
      have beside : generation.parent? = before.current → Follows generation → generation.sequence ≤ fresh.sequence :=
        fun child follows => Nat.le_of_eq (heirs_level follows heir.follows (child.trans heir.child.symm))
      rcases commits.fresh generation listed with old | young
      · rcases sound.frontier generation old with child | ⟨current, selected, behind⟩
        · exact beside child (sound.lineage generation old)
        · have level := (heir.follows current (heir.child.trans selected)).1
          omega
      · exact beside young.child young.follows

theorem Commits.filed {state later : Root} (commits : Commits before registry additions state)
    (more : Stocked state later) (registered : later.registry = state.registry)
    (selected : later.current = state.current)
    (manifests : later.generations.whole = state.generations.whole) (indexed : later.index = state.index) :
    Commits before registry additions later where
  stocked := commits.stocked.trans more
  registered := registered ▸ commits.registered
  kept := manifests ▸ commits.kept
  fresh generation listed :=
    (commits.fresh generation (manifests ▸ listed)).imp_right fun heir => heir.later more
  current := by
    rw [selected, manifests]
    exact commits.current.imp_right fun ⟨generation, listed, now, heir⟩ => ⟨generation, listed, now, heir.later more⟩
  indexed := indexed ▸ commits.indexed

theorem commits_objects : Closed objectFiles (Commits before registry additions) where
  claims _ _ commits := commits.filed (.of_eq rfl rfl) rfl rfl rfl rfl
  fills _ _ commits := commits.filed ⟨fun _ kept => List.mem_cons_of_mem _ kept, fun _ kept => kept⟩ rfl rfl rfl rfl

theorem commits_segments : Closed segmentFiles (Commits before registry additions) where
  claims _ _ commits := commits.filed (.of_eq rfl rfl) rfl rfl rfl rfl
  fills _ _ commits := commits.filed ⟨fun _ kept => kept, fun _ kept => List.mem_cons_of_mem _ kept⟩ rfl rfl rfl rfl

def Fits (site : Site) (additions : List Observation) : Prop :=
  site.segmentBytes (observationBatches site additions [] 96) additions ≤ maxManifestBytes

structure Added (root : Root) (additions : List Observation) (added : List Segment) : Prop where
  sound : ∀ segment ∈ added, SoundSegment root segment
  observations : added.flatMap Segment.observations = additions
  single : added.Nodup
  filled : ∀ segment ∈ added, segment.observations ≠ []

theorem write_segment_keeps (site : Site) (draw : Draw) {good : Root → Prop} (objects : Closed objectFiles good)
    (segments : Closed segmentFiles good) {start : Root} (fine : good start) :
    Journal.Keeps good
      (fun added state => good state ∧ Added state additions added ∧ (additions ≠ [] → Fits site additions))
      (writeSegment site draw additions) start := by
  by_cases nothing : additions = []
  · rw [writeSegment, if_pos nothing]
    refine (Journal.keeps_pure _).mpr ⟨fine, ?_, fun some => (some nothing).elim⟩
    exact ⟨fun _ listed => (by cases listed), nothing.symm, List.nodup_nil, fun _ listed => (by cases listed)⟩
  · simp only [writeSegment, if_neg nothing, Journal.keeps_bind, Journal.keeps_require, Journal.keeps_pure]
    refine (write_each_keeps objects fine).mono (fun _ kept => kept) fun _ state stored small => ?_
    have stays : Closed segmentFiles fun state => good state ∧ ∀ object ∈
        (observationBatches site additions [] 96).map Object.batch, object ∈ state.objects.whole :=
      ⟨fun _ _ kept => ⟨segments.claims _ _ kept.1, kept.2⟩, fun _ _ kept => ⟨segments.fills _ _ kept.1, kept.2⟩⟩
    refine (write_keeps stays stored).mono (fun _ kept => kept.1) fun _ later written => ?_
    refine ⟨written.1.1, ?_, fun _ => not_lt.mp small⟩
    constructor
    · intro segment listed
      rw [List.mem_singleton.mp listed]
      refine ⟨written.2, fun batch within => written.1.2 _ (List.mem_map_of_mem within), ?_⟩
      rw [observation_batches_flatten, List.nil_append]
    · simp
    · exact List.pairwise_singleton _ _
    · intro segment listed
      rw [List.mem_singleton.mp listed]
      exact nothing

theorem segments_single {previous added : List Segment} (early : previous.Nodup) (single : added.Nodup)
    (filled : ∀ segment ∈ added, segment.observations ≠ [])
    (distinct : (identities ((previous ++ added).flatMap Segment.observations)).Nodup) : (previous ++ added).Nodup := by
  refine List.nodup_append.mpr ⟨early, single, ?_⟩
  rintro segment before other after rfl
  rw [List.flatMap_append, identities_append] at distinct
  obtain ⟨observation, within⟩ := List.exists_mem_of_ne_nil _ (filled segment after)
  have listed : ∀ segments : List Segment, segment ∈ segments →
      observation.observationId ∈ identities (segments.flatMap Segment.observations) := fun segments there =>
    List.mem_map_of_mem (List.mem_flatMap.mpr ⟨segment, there, within⟩)
  exact (List.nodup_append.mp distinct).2.2 _ (listed previous before) _ (listed added after) rfl

theorem next_generation_heir (draw : Draw) {parent : Option Generation} {added : List Segment}
    (older : ∀ generation, parent = some generation → SoundGeneration after generation)
    (known : Object.registry registry ∈ after.objects.whole) (more : Added after additions added)
    (blank : parent = none → additions = [])
    (distinct : (identities (parent.elim [] generationObservations ++ additions)).Nodup) :
    Heir after parent registry additions
      (nextGeneration draw parent registry (parent.elim [] Generation.segments ++ added)) := by
  cases parent with
  | none =>
      refine ⟨⟨known, fun _ listed => (by cases listed), List.nodup_nil, List.nodup_nil⟩, rfl, ?_, rfl, ?_⟩
      · intro _ child
        cases child
      · rw [blank rfl]
        rfl
  | some old =>
      have all : (old.segments ++ added).flatMap Segment.observations = generationObservations old ++ additions := by
        rw [List.flatMap_append, more.observations]
        rfl
      have whole := older old rfl
      refine ⟨⟨known, ?_, ?_, ?_⟩, rfl, ?_, rfl, all⟩
      · intro segment listed
        rcases List.mem_append.mp listed with early | late
        · exact whole.segments segment early
        · exact more.sound segment late
      · exact segments_single whole.single more.single more.filled
          ((congrArg (fun listed => (identities listed).Nodup) all).mpr distinct)
      · exact (congrArg (fun listed => (identities listed).Nodup) all).mpr distinct
      · rintro _ ⟨⟩
        exact ⟨rfl, List.prefix_append _ _⟩

theorem commits_generation {state : Root} (commits : Commits before registry additions state)
    (heir : Heir state before.current registry additions generation) :
    Commits before registry additions (generationFiles.put (Shelf.fill generation) state) where
  stocked := commits.stocked.trans (.of_eq rfl rfl)
  registered := commits.registered
  kept _ listed := List.mem_cons_of_mem _ (commits.kept listed)
  fresh other listed := by
    have same : Stocked state (generationFiles.put (Shelf.fill generation) state) :=
      (.of_eq rfl rfl)
    rcases List.mem_cons.mp listed with rfl | old
    · exact .inr (heir.later same)
    · exact (commits.fresh other old).imp_right fun young => young.later same
  current := commits.current.imp_right fun ⟨other, listed, now, young⟩ =>
    ⟨other, List.mem_cons_of_mem _ listed, now, young.later (.of_eq rfl rfl)⟩
  indexed := commits.indexed

theorem commits_select {state : Root} (commits : Commits before registry additions state)
    (heir : Heir state before.current registry additions generation) (listed : generation ∈ state.generations.whole) :
    Commits before registry additions { state with current := some generation } where
  stocked := commits.stocked.trans (.of_eq rfl rfl)
  registered := commits.registered
  kept := commits.kept
  fresh other there := (commits.fresh other there).imp_right fun young => young.later (.of_eq rfl rfl)
  current := .inr ⟨generation, listed, rfl, heir.later (.of_eq rfl rfl)⟩
  indexed := commits.indexed

theorem commit_generation_keeps (site : Site) (draw : Draw) (sound : Sound before) {start : Root}
    (commits : Commits before registry additions start) (still : start.current = before.current)
    (blank : before.current = none → additions = [])
    (distinct : (identities (before.current.elim [] generationObservations ++ additions)).Nodup) :
    Journal.Keeps (Commits before registry additions)
      (fun generation state => Commits before registry additions state ∧ state.current = some generation ∧
        Heir state before.current registry additions generation ∧ (additions ≠ [] → Fits site additions))
      (commitGeneration site draw before.current registry additions (before.current.elim [] Generation.segments))
      start := by
  let good := fun state : Root => Commits before registry additions state ∧ state.current = before.current
  have objects : Closed objectFiles good :=
    ⟨fun _ _ fine => ⟨commits_objects.claims _ _ fine.1, fine.2⟩, fun _ _ fine =>
    ⟨commits_objects.fills _ _ fine.1, fine.2⟩⟩
  have segments : Closed segmentFiles good :=
    ⟨fun _ _ fine => ⟨commits_segments.claims _ _ fine.1, fine.2⟩, fun _ _ fine =>
    ⟨commits_segments.fills _ _ fine.1, fine.2⟩⟩
  have known : Closed segmentFiles fun state => good state ∧ Object.registry registry ∈ state.objects.whole :=
    ⟨fun _ _ fine => ⟨segments.claims _ _ fine.1, fine.2⟩, fun _ _ fine => ⟨segments.fills _ _ fine.1, fine.2⟩⟩
  simp only [commitGeneration, Journal.keeps_bind]
  refine (write_keeps objects ⟨commits, still⟩).mono (fun _ kept => kept.1) fun _ state stored => ?_
  refine (write_segment_keeps site draw (objects.whole _) known stored).mono (fun _ kept => kept.1.1) fun added
    later more => ?_
  obtain ⟨⟨⟨going, here⟩, kept⟩, more, fits⟩ := more
  have heir := next_generation_heir draw (fun generation selected =>
    (sound.generations generation (sound.selected generation selected)).later going.stocked) kept more blank distinct
  have claimed : Commits before registry additions (generationFiles.put (Shelf.claim
      (nextGeneration draw before.current registry (before.current.elim [] Generation.segments ++ added))) later) :=
    going.filed (.of_eq rfl rfl) rfl rfl rfl rfl
  let grown := fun state : Root => Commits before registry additions state ∧ Stocked later state
  have filled := commits_generation claimed (heir.later (.of_eq rfl rfl))
  refine (write_hashed_keeps generationFiles (show grown later from ⟨going, .refl later⟩) ⟨claimed, .of_eq rfl rfl⟩
    ⟨filled, .of_eq rfl rfl⟩).mono (fun _ kept => kept.1) fun _ last written => ?_
  have selected := commits_select written.1.1 (heir.later written.1.2) written.2
  simp only [select, Journal.keeps_write, Journal.keeps_pure]
  exact ⟨selected, selected, trivial, heir.later (written.1.2.trans (.of_eq rfl rfl)), fits⟩

end Commit

end OrchestratorEngine.MetricsStore
