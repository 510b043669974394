import OrchestratorEngine.MetricsStore.Calls

set_option autoImplicit false

namespace OrchestratorEngine.MetricsStore

open Foundation

theorem Shelf.load_whole {α : Type} [DecidableEq α] {shelf : Shelf α} {value : α} (whole : value ∈ shelf.whole) :
    shelf.load value = .ok () := if_pos whole

theorem observation_batches_flatten (site : Site) (observations current : List Observation) (currentBytes : Nat) :
    (observationBatches site observations current currentBytes).flatten = current ++ observations := by
  induction observations generalizing current currentBytes with
  | nil => cases current <;> simp [observationBatches]
  | cons observation rest ih =>
      by_cases full : current ≠ [] ∧ batchTargetBytes < currentBytes + (site.bytes observation + 1)
      · simp [observationBatches, full, ih]
      · simp only [observationBatches, if_neg full]
        rw [ih]
        simp

structure SoundSegment (root : Root) (segment : Segment) : Prop where
  whole : segment ∈ root.segments.whole
  batches : ∀ batch ∈ segment.batches, Object.batch batch ∈ root.objects.whole
  listed : segment.batches.flatten = segment.observations

structure SoundGeneration (root : Root) (generation : Generation) : Prop where
  registry : Object.registry generation.registry ∈ root.objects.whole
  segments : ∀ segment ∈ generation.segments, SoundSegment root segment
  single : generation.segments.Nodup
  distinct : (identities (generationObservations generation)).Nodup

structure Stocked (before after : Root) : Prop where
  objects : before.objects.whole ⊆ after.objects.whole
  segments : before.segments.whole ⊆ after.segments.whole

theorem Stocked.refl (root : Root) : Stocked root root := ⟨fun _ listed => listed, fun _ listed => listed⟩

theorem Stocked.of_eq {before after : Root} (objects : after.objects.whole = before.objects.whole)
    (segments : after.segments.whole = before.segments.whole) : Stocked before after :=
  ⟨fun _ listed => objects ▸ listed, fun _ listed => segments ▸ listed⟩

theorem Stocked.trans {first second third : Root} (early : Stocked first second) (late : Stocked second third) :
    Stocked first third :=
  ⟨fun _ listed => late.objects (early.objects listed), fun _ listed => late.segments (early.segments listed)⟩

theorem SoundGeneration.later {before after : Root} {generation : Generation}
    (sound : SoundGeneration before generation)
    (stocked : Stocked before after) : SoundGeneration after generation where
  registry := stocked.objects sound.registry
  segments segment listed :=
    have kept := sound.segments segment listed
    ⟨stocked.segments kept.whole, fun batch within => stocked.objects (kept.batches batch within), kept.listed⟩
  single := sound.single
  distinct := sound.distinct

section Loading

variable {root : Root}

theorem identities_append (left right : List Observation) :
    identities (left ++ right) = identities left ++ identities right := List.map_append

theorem collect_whole {earlier batch : List Observation} (actual : List Observation)
    (distinct : (identities (earlier ++ (actual ++ batch))).Nodup) :
    collect earlier actual batch = .ok (actual ++ batch) := by
  induction batch generalizing actual with
  | nil => simp [collect]
  | cons item rest ih =>
      have spread := distinct
      simp only [identities, List.map_append, List.map_cons, List.nodup_append, List.nodup_cons, List.mem_append,
        List.mem_cons] at spread
      have unlisted : item.observationId ∉ identities actual := fun listed =>
        spread.2.1.2.2 _ listed _ (.inl rfl) rfl
      have unseen : item.observationId ∉ identities earlier := fun listed =>
        spread.2.2 _ listed _ (.inr (.inl rfl)) rfl
      have later := ih (actual ++ [item]) (by simpa only [List.append_assoc, List.singleton_append] using distinct)
      simp only [collect, refuse, if_neg unlisted, if_neg unseen, bind_ok]
      simpa only [List.append_assoc, List.singleton_append] using later

theorem collect_batches_whole (earlier : List Observation) {batches : List (List Observation)}
    (actual : List Observation) (whole : ∀ batch ∈ batches, Object.batch batch ∈ root.objects.whole)
    (distinct : (identities (earlier ++ (actual ++ batches.flatten))).Nodup) :
    collectBatches root earlier actual batches = .ok (actual ++ batches.flatten) := by
  induction batches generalizing actual with
  | nil => simp [collectBatches]
  | cons batch rest ih =>
      rw [List.flatten_cons, ← List.append_assoc actual] at distinct
      have front : (identities (earlier ++ (actual ++ batch))).Nodup := by
        rw [← List.append_assoc, identities_append] at distinct
        exact (List.nodup_append.mp distinct).1
      have later := ih (actual ++ batch) (fun other listed => whole other (List.mem_cons_of_mem _ listed)) distinct
      simp only [collectBatches, Shelf.load_whole (whole batch List.mem_cons_self), collect_whole actual front, bind_ok]
      rw [later, List.flatten_cons, List.append_assoc]

theorem present_batches_whole {batches : List (List Observation)}
    (whole : ∀ batch ∈ batches, Object.batch batch ∈ root.objects.whole) : presentBatches root batches = .ok () := by
  induction batches with
  | nil => rfl
  | cons batch rest ih =>
      have here : root.objects.Holds (.batch batch) := .inl (whole batch List.mem_cons_self)
      simp only [presentBatches, refuse, not_true, if_neg, here, not_false_eq_true, bind_ok]
      exact ih fun other listed => whole other (List.mem_cons_of_mem _ listed)

theorem collect_segments_whole {segments : List Segment} (verifyObjects : Bool) (earlier : List Observation)
    (whole : ∀ segment ∈ segments, SoundSegment root segment)
    (distinct : (identities (earlier ++ segments.flatMap Segment.observations)).Nodup) :
    collectSegments root verifyObjects earlier segments =
      .ok (if verifyObjects then earlier ++ segments.flatMap Segment.observations else earlier) := by
  induction segments generalizing earlier with
  | nil => cases verifyObjects <;> simp [collectSegments]
  | cons segment rest ih =>
      have sound := whole segment List.mem_cons_self
      have others := fun other listed => whole other (List.mem_cons_of_mem segment listed)
      rw [List.flatMap_cons, ← List.append_assoc] at distinct
      have front : (identities (earlier ++ segment.observations)).Nodup := by
        rw [identities_append] at distinct
        exact (List.nodup_append.mp distinct).1
      simp only [collectSegments, Shelf.load_whole sound.whole, bind_ok]
      cases verifyObjects with
      | false =>
          have shorter : (identities (earlier ++ rest.flatMap Segment.observations)).Nodup := by
            simp only [identities_append] at distinct ⊢
            exact distinct.sublist ((List.sublist_append_left _ _).append_right _)
          simpa only [Bool.false_eq_true, if_false, present_batches_whole sound.batches, bind_ok] using ih
            earlier others shorter
      | true =>
          have read := collect_batches_whole earlier [] sound.batches
            (by simpa only [List.nil_append, sound.listed] using front)
          rw [List.nil_append, sound.listed] at read
          have later := ih (earlier ++ segment.observations) others distinct
          simp only [if_true, read, bind_ok, refuse, ne_eq, not_true, if_false, later, List.flatMap_cons,
            List.append_assoc]

theorem load_generation_whole {generation : Generation} (verifyObjects : Bool)
    (whole : generation ∈ root.generations.whole) (sound : SoundGeneration root generation) :
    loadGeneration root verifyObjects generation = .ok () := by
  have read := collect_segments_whole verifyObjects [] sound.segments sound.distinct
  simp only [loadGeneration, Shelf.load_whole whole, Shelf.load_whole sound.registry, sound.single, refuse, not_true,
    if_false, bind_ok, read, pure_ok]

end Loading

def Follows (generation : Generation) : Prop :=
  ∀ parent, generation.parent? = some parent → generation.sequence = parent.sequence + 1 ∧ parent.segments <+:
  generation.segments

structure Sound (root : Root) : Prop where
  blank : root.registry = none → root = {}
  selected : ∀ generation, root.current = some generation → generation ∈ root.generations.whole
  generations : ∀ generation ∈ root.generations.whole, SoundGeneration root generation
  lineage : ∀ generation ∈ root.generations.whole, Follows generation
  frontier : ∀ generation ∈ root.generations.whole, generation.parent? = root.current ∨
    ∃ current, root.current = some current ∧ generation.sequence ≤ current.sequence

def Indexed (index : Index) : Prop :=
  ∀ generation, index.generation = some generation → index.rows = generationObservations generation

end OrchestratorEngine.MetricsStore
