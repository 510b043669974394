import OrchestratorEngine.MetricsStore.Recovery

set_option autoImplicit false

namespace OrchestratorEngine.MetricsStore

open Foundation

structure Filed (before after : Root) : Prop where
  objects : after.objects.torn ⊆ before.objects.torn
  segments : after.segments.torn ⊆ before.segments.torn
  generations : after.generations.torn ⊆ before.generations.torn
  index : after.index = before.index

theorem Filed.refl (root : Root) : Filed root root :=
  ⟨List.Subset.refl _, List.Subset.refl _, List.Subset.refl _, rfl⟩

theorem Filed.trans {first second third : Root} (early : Filed first second) (late : Filed second third) :
    Filed first third where
  objects := List.Subset.trans late.objects early.objects
  segments := List.Subset.trans late.segments early.segments
  generations := List.Subset.trans late.generations early.generations
  index := late.index.trans early.index

abbrev Finishes {α : Type} (post : α → Root → Prop) (body : Program α) (start : Root) : Prop :=
  Journal.Leads (fun _ => True) post body start

section Files

variable {α : Type} [DecidableEq α] {place : Place α} {start : Root}

theorem Shelf.torn_filled (shelf : Shelf α) (value : α) : ((shelf.claim value).fill value).torn ⊆ shelf.torn := by
  intro other listed
  obtain ⟨there, differs⟩ := List.mem_filter.mp listed
  exact (List.mem_cons.mp there).resolve_left (of_decide_eq_true differs)

theorem consult_done {β : Type} {query : Root → Except Error β} {value : β} (answer : query start = .ok value) :
    Journal.Done (consult query) start [] value := by
  rw [consult, Journal.bind_done]
  exact ⟨[], _, [], rfl, (Journal.lift_done _).mpr ⟨answer, rfl⟩, rfl⟩

theorem consult_failed {β : Type} {query : Root → Except Error β} {error : Error}
    (failed : query start = .error error) :
    (consult query).run start = ([], .error error) := by
  rw [consult, Journal.ask_bind_run, failed]
  rfl

theorem consult_finishes {β γ : Type} {query : Root → Except Error β} {next : β → Program γ} {post : γ → Root → Prop}
    {value : β} (answer : query start = .ok value) (later : Finishes post (next value) start) :
    Finishes post (consult query >>= next) start := by
  obtain ⟨visited, result, finish, kept⟩ := later
  exact ⟨visited, result, ((consult_done answer).silent_run next).trans finish, kept⟩

theorem write_hashed_finishes (place : Place α) {value : α} (clean : value ∉ (place.shelf start).torn)
    (filed : Filed start (place.put (Shelf.fill value) (place.put (Shelf.claim value) start))) :
    Finishes (fun _ state => Filed start state) (writeHashed place value) start := by
  refine Journal.leads_ask _ ?_
  by_cases there : (place.shelf start).Holds value
  · rw [if_pos (decide_eq_true there)]
    have loaded : Journal.Done (consult fun root => (place.shelf root).load value) start [] () :=
      consult_done (Shelf.load_whole (there.resolve_right clean))
    exact ⟨[], (), loaded, fun _ listed => (by cases listed), .refl start⟩
  · rw [if_neg (by simpa using there)]
    exact Journal.leads_write_bind trivial (Journal.leads_write trivial filed)

end Files

theorem object_filed (start : Root) (object : Object) :
    Filed start (objectFiles.put (Shelf.fill object) (objectFiles.put (Shelf.claim object) start)) :=
  ⟨Shelf.torn_filled _ _, List.Subset.refl _, List.Subset.refl _, rfl⟩

theorem segment_filed (start : Root) (segment : Segment) :
    Filed start (segmentFiles.put (Shelf.fill segment) (segmentFiles.put (Shelf.claim segment) start)) :=
  ⟨List.Subset.refl _, Shelf.torn_filled _ _, List.Subset.refl _, rfl⟩

theorem generation_filed (start : Root) (generation : Generation) :
    Filed start (generationFiles.put (Shelf.fill generation) (generationFiles.put (Shelf.claim generation) start)) :=
  ⟨List.Subset.refl _, List.Subset.refl _, Shelf.torn_filled _ _, rfl⟩

theorem write_objects_finishes {objects : List Object} {start : Root}
    (clean : ∀ object ∈ objects, object ∉ start.objects.torn) :
    Finishes (fun _ state => Filed start state) (Journal.each (writeHashed objectFiles) objects) start := by
  induction objects generalizing start with
  | nil => exact Journal.leads_pure () (.refl start)
  | cons object rest ih =>
      refine (write_hashed_finishes objectFiles (clean object List.mem_cons_self) (object_filed start object)).bind ?_
      intro _ state filed
      have later := ih fun other listed torn => clean other (List.mem_cons_of_mem _ listed) (filed.objects torn)
      exact later.mono (fun _ _ => trivial) fun _ _ more => filed.trans more

def addedSegments (site : Site) (draw : Draw) (additions : List Observation) : List Segment :=
  if additions = [] then [] else [⟨draw.segmentAt, observationBatches site additions [] 96, additions⟩]

structure Clear (site : Site) (draw : Draw) (root : Root) (parent : Option Generation) (registry : Registry)
    (additions : List Observation) : Prop where
  known : Object.registry registry ∉ root.objects.torn
  batches : ∀ batch ∈ observationBatches site additions [] 96, Object.batch batch ∉ root.objects.torn
  segments : ∀ segment ∈ addedSegments site draw additions, segment ∉ root.segments.torn
  generation : nextGeneration draw parent registry (parent.elim [] Generation.segments ++ addedSegments site
    draw additions) ∉
    root.generations.torn

instance (site : Site) (draw : Draw) (root : Root) (parent : Option Generation) (registry : Registry)
    (additions : List Observation) : Decidable (Clear site draw root parent registry additions) :=
  decidable_of_iff (Object.registry registry ∉ root.objects.torn ∧
      (∀ batch ∈ observationBatches site additions [] 96, Object.batch batch ∉ root.objects.torn) ∧
      (∀ segment ∈ addedSegments site draw additions, segment ∉ root.segments.torn) ∧
      nextGeneration draw parent registry (parent.elim [] Generation.segments ++ addedSegments site draw additions) ∉
        root.generations.torn)
    ⟨fun ⟨known, batches, segments, generation⟩ => ⟨known, batches, segments, generation⟩,
      fun clear => ⟨clear.known, clear.batches, clear.segments, clear.generation⟩⟩

section Finishing

variable {site : Site} {draw : Draw} {root : Root}

theorem write_segment_finishes {additions : List Observation}
    (batches : ∀ batch ∈ observationBatches site additions [] 96, Object.batch batch ∉ root.objects.torn)
    (segments : ∀ segment ∈ addedSegments site draw additions, segment ∉ root.segments.torn)
    (fits : additions ≠ [] → Fits site additions) :
    Finishes (fun added state => added = addedSegments site draw additions ∧ Filed root state)
      (writeSegment site draw additions) root := by
  by_cases nothing : additions = []
  · rw [writeSegment, if_pos nothing]
    exact Journal.leads_pure _ ⟨(if_pos nothing).symm, .refl root⟩
  · rw [writeSegment, if_neg nothing]
    rw [addedSegments, if_neg nothing] at segments ⊢
    refine (write_objects_finishes ?_).bind ?_
    · intro object listed
      obtain ⟨batch, within, rfl⟩ := List.mem_map.mp listed
      exact batches batch within
    · intro _ state filed
      refine Journal.leads_require (not_lt.mpr (fits nothing)) ?_
      have clean := fun torn => segments _ (List.mem_singleton.mpr rfl) (filed.segments torn)
      refine (write_hashed_finishes segmentFiles clean (segment_filed state _)).bind ?_
      exact fun _ _ more => Journal.leads_pure _ ⟨rfl, filed.trans more⟩

theorem commit_finishes {parent : Option Generation} {registry : Registry} {additions : List Observation}
    (clear : Clear site draw root parent registry additions) (fits : additions ≠ [] → Fits site additions) :
    Finishes (fun generation state =>
        generation.parent? = parent ∧ generation.registry = registry ∧ state.index = root.index)
      (commitGeneration site draw parent registry additions (parent.elim [] Generation.segments)) root := by
  refine (write_hashed_finishes objectFiles clear.known (object_filed root _)).bind fun _ state known => ?_
  have batches := fun batch listed torn => clear.batches batch listed (known.objects torn)
  have segments := fun segment listed torn => clear.segments segment listed (known.segments torn)
  refine (write_segment_finishes batches segments fits).bind ?_
  rintro _ later ⟨rfl, filed⟩
  have clean := fun torn => clear.generation ((known.trans filed).generations torn)
  refine (write_hashed_finishes generationFiles clean (generation_filed later _)).bind fun _ last written => ?_
  refine Journal.leads_write_bind trivial (Journal.leads_pure _ ⟨?_, ?_, (known.trans (filed.trans written)).index⟩)
  · cases parent <;> rfl
  · cases parent <;> rfl

def Succeeds (site : Site) (draw : Draw) (root : Root) (call : Call) : Prop :=
  ∃ reply, ((call.body site draw).run root).2 = .ok reply

theorem succeeds_of_finishes {call : Call} (finishes : Finishes (fun _ _ => True) (call.body site draw) root) :
    Succeeds site draw root call := by
  obtain ⟨visited, reply, done, _⟩ := finishes
  exact ⟨reply, congrArg Prod.snd done⟩

variable {current : Generation}

theorem initialized_current (steady : Steady root) (selected : root.current = some current) :
    requireInitialized root = .ok () := by
  rw [requireInitialized, refuse_ok_iff, not_or, selected]
  exact ⟨sound_registered steady.sound selected, Option.some_ne_none current⟩

theorem commit_registry_finishes {registry : Registry} {post : Generation → Root → Prop} (steady : Steady root)
    (selected : root.current = some current) (clear : Clear site draw root (some current) registry [])
    (fine : ∀ generation state, post generation state) :
    Finishes post (commitRegistry site draw registry) root := by
  refine consult_finishes (current_generation_whole steady.sound false selected) ?_
  refine (commit_finishes clear fun absurd => (absurd rfl).elim).bind fun generation _ _ => ?_
  exact Journal.leads_write_bind trivial (Journal.leads_pure _ (fine _ _))

theorem initialize_succeeds (steady : Steady root) (usable : root.registry = none ∨ root.current ≠ none) :
    Succeeds site draw root .initializeStore := by
  by_cases missing : root.registry = none
  · obtain rfl := steady.sound.blank missing
    have clear : Clear site draw { registry := some (freshRegistry draw) } none (freshRegistry draw) [] :=
      ⟨nofun, nofun, nofun, nofun⟩
    refine succeeds_of_finishes ?_
    refine Journal.leads_ask _ (Journal.leads_write_bind trivial ?_)
    exact (commit_finishes clear fun absurd => (absurd rfl).elim).bind fun _ _ _ => Journal.leads_pure _ trivial
  · obtain ⟨current, selected⟩ := Option.ne_none_iff_exists'.mp (usable.resolve_left missing)
    refine succeeds_of_finishes ?_
    refine Journal.leads_ask _ ?_
    rw [if_pos (Option.isSome_iff_ne_none.mpr missing)]
    refine consult_finishes (current_generation_whole steady.sound false selected) ?_
    exact consult_finishes (read_registry_current steady.sound selected) (Journal.leads_pure _ trivial)

theorem register_succeeds {registration : Registration} {source : Source} {admitted : Option Source}
    (steady : Steady root)
    (selected : root.current = some current) (normalized : normalizeSource draw registration = .ok source)
    (admission : admission source current.registry.sources = .ok admitted)
    (clear : admitted = none → Clear site draw root (some current) (current.registry.enlisted source) []) :
    Succeeds site draw root (.registerSource registration) := by
  refine succeeds_of_finishes ?_
  refine consult_finishes (initialized_current steady selected) (Journal.leads_lift source normalized ?_)
  refine consult_finishes (read_registry_current steady.sound selected) (Journal.leads_lift admitted admission ?_)
  cases admitted with
  | some existing => exact Journal.leads_pure _ trivial
  | none =>
      exact (commit_registry_finishes steady selected (clear rfl) fun _ _ => trivial).bind
        fun _ _ _ => Journal.leads_pure _ trivial

theorem enable_succeeds {sourceRef : String} {enabled : Bool} {source : Source} (steady : Steady root)
    (selected : root.current = some current) (found : matching current.registry sourceRef = .ok source)
    (clear : source.enabled ≠ enabled →
      Clear site draw root (some current) (current.registry.replaced { source with enabled := enabled }) []) :
    Succeeds site draw root (.setSourceEnabled sourceRef enabled) := by
  refine succeeds_of_finishes ?_
  refine consult_finishes (initialized_current steady selected) ?_
  refine consult_finishes (read_registry_current steady.sound selected) (Journal.leads_lift source found ?_)
  by_cases same : source.enabled = enabled
  · rw [if_pos same]
    exact Journal.leads_pure _ trivial
  · rw [if_neg same]
    exact (commit_registry_finishes steady selected (clear same) fun _ _ => trivial).bind
      fun _ _ _ => Journal.leads_pure _ trivial

theorem insert_rows_whole {rows additions : List Observation} {error : Error}
    (distinct : (identities (rows ++ additions)).Nodup) : insertRows rows error additions = .ok
    (rows ++ additions) := by
  induction additions generalizing rows with
  | nil => rw [insertRows, List.append_nil]
  | cons item rest ih =>
      have unseen : item.observationId ∉ identities rows := by
        rw [identities_append] at distinct
        exact fun listed => (List.nodup_append.mp distinct).2.2 _ listed _ List.mem_cons_self rfl
      have later := ih (show (identities ((rows ++ [item]) ++ rest)).Nodup by
        simpa only [List.append_assoc, List.singleton_append] using distinct)
      rw [insertRows, refuse, if_neg unseen, bind_ok, later, List.append_assoc, List.singleton_append]

theorem declared_rows_whole {segments : List Segment} {rows : List Observation}
    (whole : ∀ segment ∈ segments, SoundSegment root segment)
    (distinct : (identities (rows ++ segments.flatMap Segment.observations)).Nodup) :
    declaredRows root rows segments = .ok (rows ++ segments.flatMap Segment.observations) := by
  induction segments generalizing rows with
  | nil => simp [declaredRows]
  | cons segment rest ih =>
      rw [List.flatMap_cons, ← List.append_assoc] at distinct ⊢
      have front : (identities (rows ++ segment.observations)).Nodup := by
        rw [identities_append] at distinct
        exact (List.nodup_append.mp distinct).1
      rw [declaredRows, Shelf.load_whole (whole segment List.mem_cons_self).whole, bind_ok,
        insert_rows_whole front, bind_ok]
      exact ih (fun other listed => whole other (List.mem_cons_of_mem _ listed)) distinct

theorem ensure_index_finishes (steady : Steady root) (selected : root.current = some current) :
    Finishes (fun _ state => ∃ index, state = { root with index := index } ∧ index.generation = some current ∧
      index.rows = generationObservations current) (ensureIndex current) root := by
  have whole := steady.sound.generations current (steady.sound.selected current selected)
  refine Journal.leads_ask _ ?_
  by_cases known : root.index.generation = some current
  · rw [if_pos known]
    exact Journal.leads_pure _ ⟨root.index, rfl, known, steady.indexed current known⟩
  · rw [if_neg known]
    refine consult_finishes (declared_rows_whole whole.segments whole.distinct) ?_
    exact Journal.leads_write_bind trivial (Journal.leads_pure _ ⟨_, rfl, rfl, List.nil_append _⟩)

theorem ingest_succeeds {values : List (Except Error Observation)} {normalized additions : List Observation}
    {repeated : Nat}
    (steady : Steady root) (selected : root.current = some current)
    (gathered : gather 0 [] 0 values = .ok (normalized, repeated))
    (sources : requireSources current.registry normalized = .ok ())
    (added : additionsOver (generationObservations current) normalized = .ok additions)
    (fits : additions ≠ [] → Fits site additions)
    (clear : additions ≠ [] → Clear site draw root (some current) current.registry additions) :
    Succeeds site draw root (.ingest values) := by
  have whole := steady.sound.generations current (steady.sound.selected current selected)
  refine succeeds_of_finishes ?_
  refine Journal.leads_lift _ gathered (consult_finishes (initialized_current steady selected) ?_)
  refine consult_finishes (read_registry_current steady.sound selected) (Journal.leads_lift _ sources ?_)
  refine consult_finishes (current_generation_whole steady.sound false selected) ?_
  refine (ensure_index_finishes steady selected).bind ?_
  rintro rebuilt _ ⟨⟨_, rows⟩, rfl, rfl, rfl⟩
  refine Journal.leads_ask _ (Journal.leads_lift additions added ?_)
  by_cases nothing : additions = []
  · rw [if_pos nothing]
    exact Journal.leads_pure _ trivial
  · rw [if_neg nothing]
    have kept := clear nothing
    have same : Clear site draw { root with index := ⟨some current, generationObservations current⟩ } (some current)
        current.registry additions := ⟨kept.known, kept.batches, kept.segments, kept.generation⟩
    refine (commit_finishes same fits).bind ?_
    rintro generation state ⟨child, _, index⟩
    have distinct := additions_distinct whole.distinct
      (gather_distinct (show (identities []).Nodup from .nil) gathered) added
    refine Journal.Leads.through (fun _ _ => True) ?_ fun _ _ _ => Journal.leads_pure _ trivial
    refine Journal.leads_ask _ ?_
    rw [if_neg (by rw [index, child]; simp)]
    refine Journal.leads_lift (generationObservations current ++ additions) ?_ (Journal.leads_write trivial trivial)
    rw [index]
    exact insert_rows_whole distinct

end Finishing

end OrchestratorEngine.MetricsStore
