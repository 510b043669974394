import OrchestratorEngine.MetricsStore.Effects

set_option autoImplicit false

namespace OrchestratorEngine.MetricsStore

open Foundation

section Batches

theorem gather_distinct {values : List (Except Error Observation)} {index repeated count : Nat}
    {normalized result : List Observation} (distinct : (identities normalized).Nodup)
    (gathered : gather index normalized repeated values = .ok (result, count)) : (identities result).Nodup := by
  induction values generalizing index normalized repeated with
  | nil =>
      cases gathered
      exact distinct
  | cons value rest ih =>
      simp only [gather, bind_ok_iff, refuse_ok_iff] at gathered
      obtain ⟨_, _, item, _, gathered⟩ := gathered
      split at gathered
      · simp only [bind_ok_iff] at gathered
        obtain ⟨_, _, later⟩ := gathered
        exact ih distinct later
      · rename_i unseen
        refine ih ?_ gathered
        rw [identities_append]
        refine List.nodup_append.mpr ⟨distinct, List.pairwise_singleton _ _, ?_⟩
        rintro identity before _ here rfl
        rw [List.mem_singleton.mp here] at before
        exact row_none _ _ _ unseen before

theorem additions_over_done {rows normalized additions : List Observation}
    (added : additionsOver rows normalized = .ok additions) :
    additions = normalized.filter (fun item => decide (item.observationId ∉ identities rows)) ∧
      ((identities rows).Nodup → ∀ item ∈ normalized, ∀ previous ∈ rows, previous.observationId = item.observationId →
        previous = item) := by
  induction normalized generalizing additions with
  | nil =>
      cases added
      exact ⟨rfl, fun _ _ listed => (by cases listed)⟩
  | cons item rest ih =>
      rw [additionsOver] at added
      split at added
      · rename_i unseen
        obtain ⟨later, more, finish⟩ := (bind_ok_iff _ _ _).mp added
        cases finish
        have apart : item.observationId ∉ identities rows := row_none _ _ _ unseen
        refine ⟨by rw [List.filter_cons, if_pos (by simpa using apart), (ih more).1], fun distinct => List.forall_mem_cons.mpr
          ⟨fun previous stored same => absurd (List.mem_map.mpr ⟨previous, stored, same⟩) apart, (ih more).2 distinct⟩⟩
      · rename_i known found
        obtain ⟨_, agrees, more⟩ := (bind_ok_iff _ _ _).mp added
        obtain ⟨listed, named⟩ := row_mem _ _ _ _ found
        have seen : item.observationId ∈ identities rows := List.mem_map.mpr ⟨known, listed, named⟩
        refine ⟨by rw [List.filter_cons, if_neg (by simpa using seen), (ih more).1], fun distinct => List.forall_mem_cons.mpr
          ⟨fun previous stored same => ?_, (ih more).2 distinct⟩⟩
        rw [row_unique _ _ distinct previous known stored listed (same.trans named.symm)]
        exact not_not.mp ((refuse_ok_iff _ _ _).mp agrees)

theorem additions_sublist {rows normalized additions : List Observation}
    (added : additionsOver rows normalized = .ok additions) : additions.Sublist normalized := by
  rw [(additions_over_done added).1]
  exact List.filter_sublist

theorem additions_unseen {rows normalized additions : List Observation}
    (added : additionsOver rows normalized = .ok additions) :
    ∀ item ∈ additions, item.observationId ∉ identities rows := by
  rw [(additions_over_done added).1]
  exact fun item listed => of_decide_eq_true (List.mem_filter.mp listed).2

theorem additions_distinct {rows normalized additions : List Observation} (distinct : (identities rows).Nodup)
    (single : (identities normalized).Nodup) (added : additionsOver rows normalized = .ok additions) :
    (identities (rows ++ additions)).Nodup := by
  rw [identities_append]
  refine List.nodup_append.mpr ⟨distinct, single.sublist ((additions_sublist added).map _), ?_⟩
  rintro identity before _ after rfl
  obtain ⟨item, listed, rfl⟩ := List.mem_map.mp after
  exact additions_unseen added item listed before

end Batches

section Calls

variable {root : Root} {current : Generation} {registry : Registry} {additions : List Observation}

theorem commits_indexed {state : Root} {index : Index} (commits : Commits root registry additions state)
    (indexed : Indexed index) : Commits root registry additions { state with index := index } where
  stocked := commits.stocked.trans (.of_eq rfl rfl)
  registered := commits.registered
  kept := commits.kept
  fresh generation listed := (commits.fresh generation listed).imp_right fun heir => heir.later (.of_eq rfl rfl)
  current := commits.current.imp_right fun ⟨generation, listed, now, heir⟩ =>
    ⟨generation, listed, now, heir.later (.of_eq rfl rfl)⟩
  indexed := indexed

theorem commits_mirror {state : Root} {kept : Registry} (commits : Commits root registry additions state) :
    Commits root registry additions { state with registry := some kept } where
  stocked := commits.stocked.trans (.of_eq rfl rfl)
  registered := nofun
  kept := commits.kept
  fresh generation listed := (commits.fresh generation listed).imp_right fun heir => heir.later (.of_eq rfl rfl)
  current := commits.current.imp_right fun ⟨generation, listed, now, heir⟩ =>
    ⟨generation, listed, now, heir.later (.of_eq rfl rfl)⟩
  indexed := commits.indexed

theorem indexed_at {generation : Generation} {rows : List Observation}
    (same : rows = generationObservations generation) :
    Indexed ⟨some generation, rows⟩ := by
  rintro _ ⟨⟩
  exact same

variable (site : Site)

variable (draw : Draw)

theorem commit_current_keeps (sound : Sound root) (selected : root.current = some current)
    {start : Root} (commits : Commits root registry additions start) (still : start.current = root.current)
    (distinct : (identities (generationObservations current ++ additions)).Nodup) :
    Journal.Keeps (Commits root registry additions)
      (fun generation state => Commits root registry additions state ∧ state.current = some generation ∧
        Heir state (some current) registry additions generation ∧ (additions ≠ [] → Fits site additions))
      (commitGeneration site draw (some current) registry additions current.segments) start := by
  have kept := commit_generation_keeps site draw sound commits still
    (fun missing => by rw [selected] at missing; cases missing)
    (by rw [selected]; exact distinct)
  rw [selected] at kept
  exact kept

theorem commit_registry_keeps (sound : Sound root) (indexed : Indexed root.index)
    (selected : root.current = some current) :
    Journal.Keeps (Commits root registry []) (fun _ _ => True) (commitRegistry site draw registry) root := by
  have whole := sound.generations current (sound.selected current selected)
  simp only [commitRegistry, Journal.keeps_bind, keeps_consult, current_generation_whole sound false selected,
    Except.ok.injEq, forall_eq']
  refine (commit_current_keeps site draw sound selected (.refl (sound_registered sound selected) indexed) rfl
    (by simpa only [List.append_nil] using whole.distinct)).mono (fun _ kept => kept) fun _ state commits => ?_
  simp only [mirror, Journal.keeps_write, Journal.keeps_pure, and_true]
  exact commits_mirror commits.1

theorem initialize_performs (sound : Sound root) :
    Journal.Keeps (Performs root (plan draw root .initializeStore)) (fun _ _ => True)
    (initializeStore site draw) root := by
  simp only [initializeStore, Journal.keeps_bind, Journal.keeps_ask]
  by_cases missing : root.registry = none
  · obtain rfl := sound.blank missing
    rw [if_neg (by simp)]
    have commits : Commits {} (freshRegistry draw) [] { registry := some (freshRegistry draw) } :=
      ⟨.of_eq rfl rfl, by rintro ⟨⟩, fun _ listed => listed, fun _ listed => .inl listed, .inl rfl, by rintro _ ⟨⟩⟩
    have kept := commit_generation_keeps site draw sound commits rfl (fun _ => rfl) List.nodup_nil
    simp only [mirror, Journal.keeps_bind, Journal.keeps_write, Journal.keeps_pure]
    exact ⟨commits, kept.mono (fun _ fine => fine) fun _ _ _ => trivial⟩
  · rw [if_pos (Option.isSome_iff_ne_none.mpr missing)]
    simp

theorem register_performs (registration : Registration) (sound : Sound root)
    (indexed : Indexed root.index) :
    Journal.Keeps (Performs root (plan draw root (.registerSource registration)))
      (fun _ _ => ∃ current, root.current = some current ∧ Admits site draw current (.registerSource registration))
      (registerSource site draw registration) root := by
  simp only [registerSource, Journal.keeps_bind, keeps_consult, Journal.keeps_lift]
  intro _ initialized source normalized registry read admitted admission
  obtain ⟨_, current, selected⟩ := require_initialized_current initialized
  rw [read_registry_current sound selected] at read
  cases read
  have admits : Admits site draw current (.registerSource registration) := ⟨source, normalized, admitted, admission⟩
  cases admitted with
  | some existing => exact (Journal.keeps_pure _).mpr ⟨current, selected, admits⟩
  | none =>
      have planned : plan draw root (.registerSource registration) = some (current.registry.enlisted source, []) := by
        simp only [plan, selected, commission, normalized, admission, if_true]
      simp only [Journal.keeps_bind, Journal.keeps_pure, planned]
      exact (commit_registry_keeps site draw sound indexed selected).mono (fun _ kept => kept)
        fun _ _ _ => ⟨current, selected, admits⟩

theorem enable_performs (sourceRef : String) (enabled : Bool) (sound : Sound root)
    (indexed : Indexed root.index) :
    Journal.Keeps (Performs root (plan draw root (.setSourceEnabled sourceRef enabled)))
      (fun _ _ => ∃ current, root.current = some current ∧ Admits site draw current
      (.setSourceEnabled sourceRef enabled))
      (setSourceEnabled site draw sourceRef enabled) root := by
  simp only [setSourceEnabled, Journal.keeps_bind, keeps_consult, Journal.keeps_lift]
  intro _ initialized registry read source found
  obtain ⟨_, current, selected⟩ := require_initialized_current initialized
  rw [read_registry_current sound selected] at read
  cases read
  by_cases same : source.enabled = enabled
  · rw [if_pos same]
    exact (Journal.keeps_pure _).mpr ⟨current, selected, source, found⟩
  · have planned : plan draw root (.setSourceEnabled sourceRef enabled) =
        some (current.registry.replaced { source with enabled := enabled }, []) := by
      simp only [plan, selected, commission, found, if_neg same]
    simp only [if_neg same, Journal.keeps_bind, Journal.keeps_pure, planned]
    exact (commit_registry_keeps site draw sound indexed selected).mono (fun _ kept => kept)
      fun _ _ _ => ⟨current, selected, source, found⟩

-- What a batch that was taken leaves: the generation with what was new in it,
-- and the index of that generation.
def Ingested (before after : Root) (additions : List Observation) : Prop :=
  ∃ current next, before.current = some current ∧ after.current = some next ∧
    generationObservations next = generationObservations current ++ additions ∧
    after.index.generation = some next ∧ after.index.rows = generationObservations next

theorem ingest_keeps (values : List (Except Error Observation)) (sound : Sound root)
    (indexed : Indexed root.index) :
    Journal.Keeps (Performs root (plan draw root (.ingest values)))
      (fun _ state => ∃ current, root.current = some current ∧ ∃ normalized repeated additions,
        gather 0 [] 0 values = .ok (normalized, repeated) ∧ requireSources current.registry normalized = .ok () ∧
        additionsOver (generationObservations current) normalized = .ok additions ∧
        (additions ≠ [] → Fits site additions) ∧
        Ingested root state additions)
      (ingest site draw values) root := by
  simp only [ingest, Journal.keeps_bind, keeps_consult, Journal.keeps_lift]
  rintro ⟨normalized, repeated⟩ gathered _ initialized registry read _ sources current here
  obtain ⟨registered, current', selected⟩ := require_initialized_current initialized
  rw [read_registry_current sound selected] at read
  rw [current_generation_whole sound false selected] at here
  cases read
  cases here
  have whole := sound.generations current (sound.selected current selected)
  have rebuilt : ∀ index, Indexed index → Performs root (plan draw root (.ingest values))
    { root with index := index } := by
    intro index reflects
    cases planned : plan draw root (.ingest values) with
    | none => exact ⟨registered, index, rfl, reflects⟩
    | some committed => exact commits_indexed (.refl registered indexed) reflects
  refine (ensure_index_keeps indexed fun rows same => rebuilt _ (indexed_at same)).mono (fun _ kept => kept) ?_
  rintro _ _ ⟨⟨_, rows⟩, rfl, rfl, rfl⟩
  simp only [Journal.keeps_ask]
  intro additions added
  by_cases nothing : additions = []
  · rw [if_pos nothing]
    refine (Journal.keeps_pure _).mpr ⟨current, selected, normalized, repeated, additions, gathered, sources, added,
      fun some => (some nothing).elim, current, current, selected, selected, by rw [nothing, List.append_nil], rfl, rfl⟩
  · have planned : plan draw root (.ingest values) = some (current.registry, additions) := by
      simp only [plan, selected, commission, gathered, added, if_neg nothing]
    have distinct := additions_distinct whole.distinct
      (gather_distinct (show (identities []).Nodup from .nil) gathered) added
    have commits : Commits root current.registry additions
        { root with index := ⟨some current, generationObservations current⟩ } :=
      commits_indexed (.refl registered indexed) (indexed_at rfl)
    simp only [if_neg nothing, Journal.keeps_bind, Journal.keeps_pure, planned]
    refine (commit_current_keeps site draw sound selected commits rfl distinct).mono (fun _ kept => kept) ?_
    rintro generation state ⟨going, now, heir, fits⟩
    refine (advance_index_keeps going.indexed ?_ fun rows same => commits_indexed going (indexed_at same)).mono
      (fun _ kept => kept) ?_
    · intro parent child
      rw [heir.child] at child
      cases child
      exact heir.observations
    · rintro _ _ ⟨index, rfl, stands, rows⟩
      exact ⟨current, selected, normalized, repeated, additions, gathered, sources, added, fits, current,
        generation, selected,
        now, heir.observations, stands, rows⟩

theorem ingest_performs (values : List (Except Error Observation)) (sound : Sound root) (indexed : Indexed root.index) :
    Journal.Keeps (Performs root (plan draw root (.ingest values)))
      (fun _ _ => ∃ current, root.current = some current ∧ Admits site draw current (.ingest values))
      (ingest site draw values) root := by
  refine (ingest_keeps site draw values sound indexed).mono (fun _ kept => kept) ?_
  rintro _ _ ⟨current, selected, normalized, repeated, additions, gathered, sources, added, fits, _⟩
  exact ⟨current, selected, normalized, repeated, additions, gathered, sources, added, fits⟩

theorem call_performs (call : Call) (sound : Sound root) (indexed : Indexed root.index)
    (ordinary : call ≠ .recover) : ∀ state ∈ ((call.body site draw).run root).1, Performs root
    (plan draw root call) state := by
  cases call with
  | initializeStore => exact (initialize_performs site draw sound).1
  | registerSource registration => exact (register_performs site draw registration sound indexed).1
  | setSourceEnabled sourceRef enabled => exact (enable_performs site draw sourceRef enabled sound indexed).1
  | ingest values => exact (ingest_performs site draw values sound indexed).1
  | recover => exact (ordinary rfl).elim

end Calls

end OrchestratorEngine.MetricsStore
