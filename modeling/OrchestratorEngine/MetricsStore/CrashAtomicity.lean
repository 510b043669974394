import OrchestratorEngine.MetricsStore.Retries

set_option autoImplicit false

namespace OrchestratorEngine.MetricsStore

open Foundation

section Admission

variable {source repeated : Source} {sources : List Source}

theorem admission_none_iff :
    admission source sources = .ok none ↔
      ∀ existing ∈ sources, existing.sourceId ≠ source.sourceId ∧ existing.name ≠ source.name := by
  induction sources with
  | nil => simp [admission]
  | cons existing rest ih =>
      by_cases known : existing.sourceId = source.sourceId
      · by_cases same : existing.comparable = source.comparable <;> simp [admission, known, same]
      · by_cases taken : existing.name = source.name
        · simp [admission, known, taken]
        · simp [admission, known, taken, ih]

theorem admission_known {existing : Source} (found : admission source sources = .ok (some existing)) :
    existing ∈ sources ∧ existing.sourceId = source.sourceId := by
  induction sources with
  | nil => cases found
  | cons head rest ih =>
      rw [admission] at found
      split at found
      · rename_i known
        split at found
        · cases found
          exact ⟨List.mem_cons_self, known⟩
        · cases found
      · split at found
        · cases found
        · exact ⟨List.mem_cons_of_mem _ (ih found).1, (ih found).2⟩

theorem admission_congr (same : repeated.comparable = source.comparable) :
    admission repeated sources = admission source sources := by
  have sameId : repeated.sourceId = source.sourceId := congrArg Prod.fst same
  have sameName : repeated.name = source.name := congrArg (fun compared => compared.2.1) same
  induction sources with
  | nil => rfl
  | cons existing rest ih => rw [admission, admission, sameId, sameName, same, ih]

theorem admission_enlisted (same : repeated.comparable = source.comparable)
    (free : admission source sources = .ok none) : admission repeated (sources ++ [source]) = .ok (some source) := by
  rw [admission_congr same]
  induction sources with
  | nil => simp [admission]
  | cons existing rest ih =>
      have apart := admission_none_iff.mp free
      have later := ih (admission_none_iff.mpr fun other listed => apart other (List.mem_cons_of_mem _ listed))
      obtain ⟨other, unlike⟩ := apart existing List.mem_cons_self
      rw [List.cons_append, admission, if_neg other, if_neg unlike, later]

end Admission

theorem normalize_source_again {registration : Registration} {draw : Draw} (again : Draw) {source : Source}
    (normalized : normalizeSource draw registration = .ok source) :
    ∃ repeated, normalizeSource again registration = .ok repeated ∧ repeated.name = source.name ∧
      repeated.sourceId = registration.given.getD again.sourceUuid ∧
      source.sourceId = registration.given.getD draw.sourceUuid ∧
      (registration.given ≠ none → repeated.comparable = source.comparable) := by
  obtain ⟨profile, known, finish⟩ := (bind_ok_iff _ _ _).mp normalized
  cases finish
  refine ⟨⟨registration.given.getD again.sourceUuid, registration.name, registration.enabled, profile, again.sourceAt⟩,
    by rw [normalizeSource, known]; rfl, rfl, rfl, rfl, fun named => ?_⟩
  obtain ⟨sourceId, given⟩ := Option.ne_none_iff_exists'.mp named
  simp only [Source.comparable, given, Option.getD_some]

theorem find_replaced {sources : List Source} {sourceRef : String} {source : Source} (enabled : Bool)
    (found : sources.find? (answers sourceRef) = some source) :
    (sources.map fun item => if item.sourceId = source.sourceId then { source with enabled := enabled } else item).find?
      (answers sourceRef) = some { source with enabled := enabled } := by
  have meets : answers sourceRef source = true := List.find?_some found
  induction sources with
  | nil => cases found
  | cons item rest ih =>
      rw [List.map_cons]
      by_cases known : item.sourceId = source.sourceId
      · rw [if_pos known,
          List.find?_cons_of_pos (show answers sourceRef { source with enabled := enabled } = true from meets)]
      · rw [if_neg known]
        by_cases hit : answers sourceRef item = true
        · rw [List.find?_cons_of_pos hit] at found
          exact (known (congrArg Source.sourceId (Option.some.inj found))).elim
        · rw [List.find?_cons_of_neg hit] at found ⊢
          exact ih found

variable {registry : Registry}

theorem matching_iff {sourceRef : String} {source : Source} :
    matching registry sourceRef = .ok source ↔ registry.sources.find? (answers sourceRef) = some source := by
  rw [matching]
  cases registry.sources.find? (answers sourceRef) with
  | none => exact ⟨nofun, nofun⟩
  | some other =>
      exact ⟨fun same => congrArg some (Except.ok.inj same), fun same => congrArg Except.ok (Option.some.inj same)⟩

theorem additions_cover {rows normalized additions : List Observation}
    (added : additionsOver rows normalized = .ok additions) : ∀ item ∈ normalized, item ∈ rows ++ additions := by
  induction normalized generalizing additions with
  | nil => exact fun _ listed => (by cases listed)
  | cons item rest ih =>
      rw [additionsOver] at added
      intro other listed
      split at added
      · obtain ⟨later, more, finish⟩ := (bind_ok_iff _ _ _).mp added
        cases finish
        rcases List.mem_cons.mp listed with rfl | within
        · exact List.mem_append_right _ List.mem_cons_self
        · exact (List.mem_append.mp (ih more other within)).elim (List.mem_append_left _)
            fun late => List.mem_append_right _ (List.mem_cons_of_mem _ late)
      · rename_i previous here
        obtain ⟨_, same, more⟩ := (bind_ok_iff _ _ _).mp added
        rcases List.mem_cons.mp listed with rfl | within
        · rw [refuse_ok_iff, not_not] at same
          exact List.mem_append_left _ (same ▸ (row_mem _ _ _ _ here).1)
        · exact ih more other within

theorem additions_nothing {rows normalized : List Observation} (distinct : (identities rows).Nodup)
    (known : ∀ item ∈ normalized, item ∈ rows) : additionsOver rows normalized = .ok [] := by
  induction normalized with
  | nil => rfl
  | cons item rest ih =>
      have here := row_of_mem Observation.observationId rows distinct item (known item List.mem_cons_self)
      rw [additionsOver, here]
      simp only [refuse, ne_eq, not_true, if_false, bind_ok]
      exact ih fun other listed => known other (List.mem_cons_of_mem _ listed)

section Repeating

variable {site : Site} {draw again : Draw} {root : Root} {current : Generation}

def Unused (draw : Draw) (current : Generation) : Prop :=
  ∀ source ∈ current.registry.sources, source.sourceId ≠ draw.sourceUuid

theorem admitted_succeeds {call : Call} (steady : Steady root) (selected : root.current = some current)
    (admits : Admits site draw current call) (ordinary : call ≠ .recover)
    (clear : ∀ registry additions, commission again current call = some (registry, additions) →
      Clear site again root (some current) registry additions)
    (unused : ∀ registration, call = .registerSource registration → registration.given = none →
      Unused draw current ∧ Unused again current) : Succeeds site again root call := by
  cases call with
  | initializeStore => exact initialize_succeeds steady (.inr (by rw [selected]; nofun))
  | recover => exact (ordinary rfl).elim
  | setSourceEnabled sourceRef enabled =>
      obtain ⟨source, found⟩ := admits
      refine enable_succeeds steady selected found fun differs => clear _ _ ?_
      simp only [commission, found, if_neg differs]
  | ingest values =>
      obtain ⟨normalized, repeated, additions, gathered, sources, added, fits⟩ := admits
      refine ingest_succeeds steady selected gathered sources added fits fun some => clear _ _ ?_
      simp only [commission, gathered, added, if_neg some]
  | registerSource registration =>
      obtain ⟨source, normalized, admitted, admission⟩ := admits
      obtain ⟨repeated, later, sameName, freshId, oldId, named⟩ := normalize_source_again again normalized
      have passes : ∃ settled, MetricsStore.admission repeated current.registry.sources = .ok settled := by
        by_cases given : registration.given = none
        · obtain ⟨early, late⟩ := unused registration rfl given
          rw [given] at freshId oldId
          have free : admitted = none := by
            cases admitted with
            | none => rfl
            | some existing =>
                obtain ⟨listed, same⟩ := admission_known admission
                exact (early existing listed (same.trans oldId)).elim
          rw [free, admission_none_iff] at admission
          refine ⟨none, admission_none_iff.mpr fun existing listed => ⟨?_, ?_⟩⟩
          · exact fun same => late existing listed (same.trans freshId)
          · exact fun same => (admission existing listed).2 (same.trans sameName)
        · exact ⟨admitted, (admission_congr (named given)).trans admission⟩
      obtain ⟨settled, passes⟩ := passes
      refine register_succeeds steady selected later passes fun free => clear _ _ ?_
      rw [free] at passes
      simp only [commission, later, passes, if_true]

theorem settled_succeeds {call : Call} {generation : Generation} {additions : List Observation}
    (steady : Steady root) (selected : root.current = some generation)
    (planned : commission draw current call = some (registry, additions)) (admits : Admits site draw current call)
    (kept : generation.registry = registry)
    (grown : generationObservations generation = generationObservations current ++ additions)
    (named : ∀ registration, call = .registerSource registration → registration.given ≠ none) :
    Succeeds site again root call := by
  cases call with
  | initializeStore => cases planned
  | recover => cases planned
  | setSourceEnabled sourceRef enabled =>
      obtain ⟨source, found⟩ := admits
      simp only [commission, found] at planned
      split at planned
      · cases planned
      · obtain ⟨rfl, rfl⟩ := Prod.mk.inj (Option.some.inj planned)
        have here : matching generation.registry sourceRef = .ok { source with enabled := enabled } := by
          have replaced := find_replaced enabled (matching_iff.mp found)
          rw [kept, matching_iff]
          exact replaced
        exact enable_succeeds steady selected here fun differs => (differs rfl).elim
  | registerSource registration =>
      obtain ⟨source, normalized, admitted, admission⟩ := admits
      simp only [commission, normalized] at planned
      split at planned
      · rename_i free
        obtain ⟨rfl, rfl⟩ := Prod.mk.inj (Option.some.inj planned)
        obtain ⟨repeated, later, _, _, _, same⟩ := normalize_source_again again normalized
        have known : MetricsStore.admission repeated generation.registry.sources = .ok (some source) := by
          rw [kept]
          exact admission_enlisted (same (named registration rfl)) free
        exact register_succeeds steady selected later known (by rintro ⟨⟩)
      · cases planned
  | ingest values =>
      obtain ⟨normalized, repeated, fresh, gathered, sources, added, _⟩ := admits
      simp only [commission, gathered, added] at planned
      split at planned
      · cases planned
      · obtain ⟨rfl, rfl⟩ := Prod.mk.inj (Option.some.inj planned)
        have whole := steady.sound.generations generation (steady.sound.selected generation selected)
        have nothing : additionsOver (generationObservations generation) normalized = .ok [] :=
          additions_nothing whole.distinct fun item listed => grown ▸ additions_cover added item listed
        exact ingest_succeeds steady selected gathered (kept ▸ sources) nothing
          (fun some => (some rfl).elim) fun some => (some rfl).elim

end Repeating

structure Retriable (site : Site) (before : Root) (event : Event) (again : Draw) : Prop where
  usable : (event.after site before).registry = none ∨ (event.after site before).current ≠ none
  clear : ∀ current registry additions, (event.after site before).current = some current →
    commission again current event.call = some (registry, additions) →
    Clear site again (event.after site before) (some current) registry additions
  unnamed : ∀ registration, event.call = .registerSource registration → registration.given = none →
    (event.after site before).current = before.current ∧
      ∀ current, before.current = some current → Unused event.draw current ∧ Unused again current

section Interruptions

variable {site : Site} {before : Root}

theorem succeeds_admits {draw : Draw} {call : Call} (steady : Steady before) (ordinary : call ≠ .recover)
    (later : call ≠ .initializeStore) (succeeds : Succeeds site draw before call) :
    ∃ current, before.current = some current ∧ Admits site draw current call := by
  obtain ⟨reply, finish⟩ := succeeds
  cases call with
  | initializeStore => exact (later rfl).elim
  | recover => exact (ordinary rfl).elim
  | registerSource registration =>
      exact (register_performs site draw registration steady.sound steady.indexed).2 reply finish
  | setSourceEnabled sourceRef enabled =>
      exact (enable_performs site draw sourceRef enabled steady.sound steady.indexed).2 reply finish
  | ingest values => exact (ingest_performs site draw values steady.sound steady.indexed).2 reply finish

theorem event_current (event : Event) (steady : Steady before) (ordinary : event.call ≠ .recover) :
    (event.after site before).current = before.current ∨ ∃ generation registry additions,
      plan event.draw before event.call = some (registry, additions) ∧
      (event.after site before).current = some generation ∧
      Heir (event.after site before) before.current registry additions generation := by
  rcases event_performs site event steady ordinary with same | performs
  · exact .inl (congrArg Root.current same)
  · cases planned : plan event.draw before event.call with
    | none =>
        rw [planned] at performs
        obtain ⟨_, index, same, _⟩ := performs
        rw [same]
        exact .inl rfl
    | some committed =>
        rw [planned] at performs
        have commits : Commits before committed.1 committed.2 (event.after site before) := performs
        exact commits.current.imp_right fun ⟨generation, _, now, heir⟩ => ⟨generation, _, _, rfl, now, heir⟩

theorem repetition_succeeds (event : Event) (steady : Steady before) (ordinary : event.call ≠ .recover)
    (succeeds : Succeeds site event.draw before event.call) {again : Draw}
    (retriable : Retriable site before event again) :
    Succeeds site again (event.after site before) event.call := by
  have after := event_steady site event steady
  by_cases starting : event.call = .initializeStore
  · rw [starting]
    exact initialize_succeeds after retriable.usable
  · obtain ⟨current, selected, admits⟩ := succeeds_admits steady ordinary starting succeeds
    rcases event_current event steady ordinary with same | ⟨generation, registry, additions, planned, now, heir⟩
    · refine admitted_succeeds after (same.trans selected) admits ordinary
        (fun registry additions => retriable.clear current registry additions (same.trans selected)) ?_
      exact fun registration call missing => (retriable.unnamed registration call missing).2 current selected
    · rw [selected] at heir
      simp only [plan, selected] at planned
      refine settled_succeeds after now planned admits heir.registry heir.observations fun registration
        call missing => ?_
      have still := (retriable.unnamed registration call missing).1
      have level := (heir.follows current heir.child).1
      rw [now, selected] at still
      cases still
      omega

end Interruptions

def held (root : Root) : List Observation := root.current.elim [] generationObservations

def batchOf : Call → List Observation
  | .ingest values =>
      match gather 0 [] 0 values with
      | .error _ => []
      | .ok (normalized, _) => normalized
  | _ => []

def committedBatches (site : Site) (root : Root) : List Event → List (List Observation)
  | [] => []
  | event :: later =>
      (if (event.after site root).current = root.current then [] else [batchOf event.call]) ++
        committedBatches site (event.after site root) later

section Batches

variable {site : Site} {root : Root}

theorem commission_batch {draw : Draw} {current : Generation} {call : Call}
    {additions : List Observation} (planned : commission draw current call = some (registry, additions))
    (observation : Observation) :
    observation ∈ generationObservations current ++ additions ↔
      observation ∈ generationObservations current ∨ observation ∈ batchOf call := by
  cases call with
  | initializeStore => cases planned
  | recover => cases planned
  | setSourceEnabled sourceRef enabled =>
      simp only [commission] at planned
      split at planned
      · cases planned
      · split at planned
        · cases planned
        · cases planned
          simp [batchOf]
  | registerSource registration =>
      simp only [commission] at planned
      split at planned
      · cases planned
      · split at planned
        · cases planned
          simp [batchOf]
        · cases planned
  | ingest values =>
      simp only [commission] at planned
      split at planned
      · cases planned
      · rename_i normalized repeated gathered
        split at planned
        · cases planned
        · rename_i fresh added
          split at planned
          · cases planned
          · cases planned
            simp only [batchOf, gathered, List.mem_append]
            constructor
            · exact fun listed => listed.imp_right fun late => (additions_sublist added).subset late
            · exact fun listed => listed.elim .inl fun late => List.mem_append.mp
                (additions_cover added observation late)

theorem event_held (site : Site) (event : Event) (steady : Steady root) (ordinary : event.call ≠ .recover)
    (observation : Observation) :
    observation ∈ held (event.after site root) ↔ observation ∈ held root ∨
      (event.after site root).current ≠ root.current ∧ observation ∈ batchOf event.call := by
  by_cases same : (event.after site root).current = root.current
  · simp [held, same]
  · obtain ⟨generation, registry, additions, planned, now, heir⟩ :=
      (event_current event steady ordinary).resolve_left same
    have grown : held (event.after site root) = held root ++ additions := by
      rw [held, now]
      exact heir.observations
    simp only [grown, ne_eq, same, not_false_eq_true, true_and]
    cases selected : root.current with
    | some current =>
        simp only [plan, selected] at planned
        simp only [held, selected]
        exact commission_batch planned observation
    | none =>
        cases call : event.call with
        | initializeStore =>
            simp only [plan, selected, call] at planned
            split at planned
            · cases planned
              simp [held, selected, batchOf]
            · cases planned
        | _ => simp [plan, selected, call] at planned

theorem history_held (history : List Event) (steady : Steady root) (ordinary : ∀ event ∈ history, event.call ≠ .recover)
    (observation : Observation) :
    observation ∈ held (history.foldl (Event.after site) root) ↔ observation ∈ held root ∨
      ∃ batch ∈ committedBatches site root history, observation ∈ batch := by
  induction history generalizing root with
  | nil => simp [committedBatches]
  | cons event later ih =>
      have rest := ih (event_steady site event steady) fun other listed =>
        ordinary other (List.mem_cons_of_mem _ listed)
      have step := event_held site event steady (ordinary event List.mem_cons_self) observation
      rw [List.foldl_cons, rest, step, committedBatches]
      by_cases same : (event.after site root).current = root.current
      · simp [same]
      · simp [same, or_assoc]

end Batches

theorem observations_held {root : Root} {current : Generation} (steady : Steady root)
    (selected : root.current = some current) :
    observations root = .ok (held root) := by
  have whole := steady.sound.generations current (steady.sound.selected current selected)
  rw [observations, current_generation_whole steady.sound true selected, bind_ok,
    collect_segments_whole true [] whole.segments whole.distinct, held, selected]
  rfl

theorem held_distinct {root : Root} (steady : Steady root) : (identities (held root)).Nodup := by
  rw [held]
  cases selected : root.current with
  | none => exact List.nodup_nil
  | some current => exact (steady.sound.generations current (steady.sound.selected current selected)).distinct

theorem initialize_usable {site : Site} {root : Root} (draw : Draw)
    (succeeds : Succeeds site draw root .initializeStore) :
    root.registry = none ∨ root.current ≠ none := by
  by_contra stuck
  rw [not_or, not_not] at stuck
  obtain ⟨reply, finish⟩ := succeeds
  have failed : currentGeneration root false = .error .fileNotFound := by rw [currentGeneration, stuck.2]
  rw [Call.body, initializeStore, Journal.ask_bind_run, if_pos (Option.isSome_iff_ne_none.mpr stuck.1),
    Journal.failed_bind_run (consult_failed failed)] at finish
  cases finish

theorem stops_recoverable (site : Site) (history : List Event) (ordinary : ∀ event ∈ history, event.call ≠ .recover) :
    ((∀ draw, Succeeds site draw (replay site history) .initializeStore) ↔
      (replay site history).registry = none ∨ (replay site history).current ≠ none) ∧
    (∀ past event, history = past ++ [event] → Succeeds site event.draw (replay site past) event.call →
      ∀ again, Retriable site (replay site past) event again → Succeeds site again (replay site history) event.call) ∧
    (∀ current, (replay site history).current = some current →
      observations (replay site history) = .ok (held (replay site history))) ∧
    (identities (held (replay site history))).Nodup ∧
    ∀ observation, observation ∈ held (replay site history) ↔
      ∃ batch ∈ committedBatches site {} history, observation ∈ batch := by
  have steady := replay_steady site history
  refine ⟨⟨fun always => ?_, fun usable draw => initialize_succeeds steady usable⟩, ?_,
    fun current selected => observations_held steady selected, held_distinct steady, fun observation => ?_⟩
  · exact initialize_usable ⟨"", "", 0, 0, 0, 0⟩ (always _)
  · rintro past event rfl succeeds again retriable
    rw [replay, List.foldl_append]
    exact repetition_succeeds event (replay_steady site past) (ordinary event (by simp)) succeeds retriable
  · have whole : observation ∈ held (replay site history) ↔ observation ∈ held {} ∨ _ :=
      history_held history blank_steady ordinary observation
    simpa [held] using whole

-- An ingest that stops while its manifest is claimed but not filled.
def halfIngested : Event := ⟨.ingest [.ok ⟨"lost", "collector", "stopped"⟩], drawAt 10, 6⟩

theorem half_ingested_retriable :
    Retriable plainSite (replay plainSite (steppedBack.take 2)) halfIngested (drawAt 11) where
  usable := .inr (by decide +kernel)
  clear := by
    intro current registry additions selected added
    have checked : ((halfIngested.after plainSite (replay plainSite (steppedBack.take 2))).current.all fun current =>
        (commission (drawAt 11) current halfIngested.call).all fun given => decide (Clear plainSite (drawAt 11)
          (halfIngested.after plainSite (replay plainSite (steppedBack.take 2))) (some current) given.1 given.2))
          = true := by
      decide +kernel
    rw [selected, Option.all_some, added, Option.all_some] at checked
    exact of_decide_eq_true checked
  unnamed := nofun

theorem stops_recoverable_interrupted :
    (replay plainSite (steppedBack.take 2 ++ [halfIngested])).generations.torn ≠ [] ∧
      Succeeds plainSite (drawAt 11) (replay plainSite (steppedBack.take 2 ++ [halfIngested])) halfIngested.call ∧
      (∃ batch ∈ committedBatches plainSite {} steppedBack, ⟨"kept", "collector", "completed"⟩ ∈ batch) := by
  have every : ∀ event ∈ steppedBack, event.call ≠ .recover := by
    intro event listed
    simp only [steppedBack, List.mem_cons, List.not_mem_nil, or_false] at listed
    rcases listed with rfl | rfl | rfl | rfl <;> nofun
  have ordinary : ∀ event ∈ steppedBack.take 2 ++ [halfIngested], event.call ≠ .recover := by
    intro event listed
    rcases List.mem_append.mp listed with early | last
    · exact every event (List.mem_of_mem_take early)
    · rw [List.mem_singleton.mp last]
      nofun
  obtain ⟨reply, done, _⟩ := ok_of_check ((halfIngested.call.body plainSite halfIngested.draw).run
    (replay plainSite (steppedBack.take 2))).2 (fun _ => true) (by decide +kernel)
  obtain ⟨_, _, _, _, same⟩ := stops_recoverable plainSite steppedBack every
  obtain ⟨_, repeats, _⟩ := stops_recoverable plainSite (steppedBack.take 2 ++ [halfIngested]) ordinary
  exact ⟨by decide +kernel, repeats _ halfIngested rfl ⟨reply, done⟩ (drawAt 11) half_ingested_retriable,
    (same _).mp (by decide +kernel)⟩

theorem first_stop_is_final :
    ¬ Succeeds plainSite (drawAt 1) (replay plainSite [⟨.initializeStore, drawAt 0, 1⟩]) .initializeStore ∧
      ¬ Succeeds plainSite (drawAt 1) (replay plainSite [⟨.initializeStore, drawAt 0, 1⟩]) .recover := by
  constructor
  · rintro ⟨reply, finish⟩
    have failed : (((Call.initializeStore.body plainSite (drawAt 1)).run
        (replay plainSite [⟨.initializeStore, drawAt 0, 1⟩])).2).isOk = false := by decide +kernel
    rw [finish] at failed
    cases failed
  · rintro ⟨reply, finish⟩
    have failed : (((Call.recover.body plainSite (drawAt 1)).run
        (replay plainSite [⟨.initializeStore, drawAt 0, 1⟩])).2).isOk = false := by decide +kernel
    rw [finish] at failed
    cases failed

end OrchestratorEngine.MetricsStore
