import OrchestratorEngine.MetricsStore.Performed

set_option autoImplicit false

namespace OrchestratorEngine.MetricsStore

open Foundation

section Choice

variable {site : Site} {root : Root}

theorem mem_candidates (sound : Sound root) (generation : Generation) :
    generation ∈ candidates site root ↔ generation ∈ root.generations.whole := by
  simp only [candidates, List.mem_filter, List.mem_mergeSort, List.mem_append, decide_eq_true_eq]
  constructor
  · rintro ⟨there, loaded⟩
    by_cases whole : generation ∈ root.generations.whole
    · exact whole
    · have torn := there.resolve_left whole
      rw [loadGeneration, Shelf.load, if_neg whole, if_pos torn] at loaded
      cases loaded
  · exact fun whole => ⟨.inl whole, load_generation_whole true whole (sound.generations generation whole)⟩

def Trails (site : Site) (root : Root) (generation other : Generation) : Prop :=
  age generation < age other ∨
    age generation = age other ∧ (candidates site root).idxOf other < (candidates site root).idxOf generation

theorem Trails.asymm {generation other : Generation} (trails : Trails site root generation other) :
    ¬ Trails site root other generation := by
  rintro (later | ⟨same, before⟩)
  · rcases trails with earlier | ⟨same, _⟩
    · exact lt_asymm earlier later
    · exact absurd later (same ▸ lt_irrefl _)
  · rcases trails with earlier | ⟨_, after⟩
    · exact absurd earlier (same ▸ lt_irrefl _)
    · omega

structure Preferred (site : Site) (root : Root) (chosen : Generation) : Prop where
  whole : chosen ∈ root.generations.whole
  others : ∀ other ∈ root.generations.whole, other = chosen ∨ Trails site root other chosen

theorem newest_preferred {chosen : Generation} (sound : Sound root)
    (found : newest (candidates site root) = some chosen) :
    Preferred site root chosen := by
  obtain ⟨listed, largest, first⟩ := List.argmax_eq_some_iff.mp found
  refine ⟨(mem_candidates sound chosen).mp listed, fun other whole => ?_⟩
  have there : other ∈ candidates site root := (mem_candidates sound other).mpr whole
  rcases (largest other there).lt_or_eq with older | level
  · exact .inr (.inl older)
  · have position := first other there level.ge
    rcases Nat.lt_or_eq_of_le position with before | same
    · exact .inr (.inr ⟨level, before⟩)
    · exact .inl ((List.idxOf_inj there).mp same.symm)

theorem preferred_exists (site : Site) {current : Generation} (sound : Sound root)
    (selected : root.current = some current) :
    ∃ chosen, newest (candidates site root) = some chosen := by
  refine Option.ne_none_iff_exists'.mp fun nothing => ?_
  have there : current ∈ candidates site root :=
    (mem_candidates sound current).mpr (sound.selected current selected)
  rw [newest, List.argmax_eq_none] at nothing
  rw [nothing] at there
  cases there

theorem sequence_le_of_trails {generation other : Generation} (trails : Trails site root generation other) :
    generation.sequence ≤ other.sequence := by
  rcases trails with older | ⟨level, _⟩
  · rcases Prod.Lex.toLex_lt_toLex.mp older with less | ⟨same, _⟩
    · exact less.le
    · exact same.le
  · have same : (generation.sequence, generation.createdAt) = (other.sequence, other.createdAt) := toLex.injective level
    exact (Prod.mk.inj same).1.le

end Choice

def Root.recovered (root : Root) (chosen : Generation) : Root :=
  { root with current := some chosen, registry := some chosen.registry }

section Recover

variable {site : Site} {root : Root}

theorem select_sound {chosen : Generation} (sound : Sound root) (registered : root.registry ≠ none)
    (preferred : Preferred site root chosen) : Sound { root with current := some chosen } where
  blank missing := (registered missing).elim
  selected generation here := by
    cases here
    exact preferred.whole
  generations generation whole := (sound.generations generation whole).later (.of_eq rfl rfl)
  lineage := sound.lineage
  frontier generation whole := by
    refine .inr ⟨chosen, rfl, ?_⟩
    rcases preferred.others generation whole with rfl | trails
    · exact le_rfl
    · exact sequence_le_of_trails trails

theorem mirror_sound {kept : Registry} (sound : Sound root) : Sound { root with registry := some kept } where
  blank := nofun
  selected := sound.selected
  generations generation whole := (sound.generations generation whole).later (.of_eq rfl rfl)
  lineage := sound.lineage
  frontier := sound.frontier

theorem recover_run {chosen : Generation} (sound : Sound root) (registered : root.registry ≠ none)
    (found : newest (candidates site root) = some chosen) :
    (recover site).run root = ([{ root with current := some chosen }, root.recovered chosen],
    .ok (.recovered chosen)) := by
  have whole := (sound.generations chosen (newest_preferred sound found).whole).registry
  have kept : ¬ root.registry.isNone = true := by simpa using registered
  have loaded : Journal.Done (consult fun state => state.objects.load (.registry chosen.registry))
      { root with current := some chosen } [] () := by
    rw [consult, Journal.bind_done]
    exact ⟨[], _, [], rfl, (Journal.lift_done _).mpr ⟨Shelf.load_whole whole, rfl⟩, rfl⟩
  rw [recover, Journal.ask_bind_run, Journal.require_bind_run kept, Journal.ask_bind_run, found]
  have chose : Journal.Done (select chosen) root [{ root with current := some chosen }] () :=
    (Journal.write_done _ _).mpr rfl
  rw [chose.bind_run, List.getLastD_cons, List.getLastD_nil, loaded.silent_run]
  rfl

theorem recover_visited (site : Site) (sound : Sound root) :
    ((recover site).run root).1 = [] ∨ root.registry ≠ none ∧ ∃ chosen, Preferred site root chosen ∧
      ((recover site).run root).1 = [{ root with current := some chosen }, root.recovered chosen] := by
  by_cases missing : root.registry = none
  · left
    rw [recover, Journal.ask_bind_run, Journal.refused_bind_run (by simpa using missing)]
  · cases found : newest (candidates site root) with
    | none =>
        left
        rw [recover, Journal.ask_bind_run, Journal.require_bind_run (by simpa using missing),
          Journal.ask_bind_run, found]
        rfl
    | some chosen =>
        right
        exact ⟨missing, chosen, newest_preferred sound found, by rw [recover_run sound missing found]⟩

end Recover

structure Steady (root : Root) : Prop where
  sound : Sound root
  indexed : Indexed root.index

section Histories

variable {site : Site} {root after : Root}

theorem Performs.steady {plan : Option (Registry × List Observation)} (performs : Performs root plan after)
    (steady : Steady root) : Steady after := by
  cases plan with
  | none =>
      obtain ⟨registered, index, rfl, reflects⟩ := performs
      refine ⟨⟨fun missing => (registered missing).elim, steady.sound.selected, ?_, steady.sound.lineage, ?_⟩, reflects⟩
      · exact fun generation whole => (steady.sound.generations generation whole).later (.of_eq rfl rfl)
      · exact steady.sound.frontier
  | some committed =>
      have commits : Commits root committed.1 committed.2 after := performs
      exact ⟨commits.sound steady.sound, commits.indexed⟩

theorem after_visited (site : Site) (event : Event) (root : Root) :
    event.after site root = root ∨ event.after site root ∈ event.visited site root := by
  rw [Event.after, List.getLastD_eq_getLast?]
  cases last : ((event.visited site root).take event.stop).getLast? with
  | none => exact .inl rfl
  | some state => exact .inr (List.mem_of_mem_take (List.mem_of_getLast? last))

theorem event_performs (site : Site) (event : Event) (steady : Steady root) (ordinary : event.call ≠ .recover) :
    event.after site root = root ∨ Performs root (plan event.draw root event.call) (event.after site root) :=
  (after_visited site event root).imp_right (call_performs site event.draw event.call steady.sound
    steady.indexed ordinary _)

theorem event_steady (site : Site) (event : Event) (steady : Steady root) : Steady (event.after site root) := by
  by_cases ordinary : event.call = .recover
  · rcases after_visited site event root with same | within
    · rw [same]
      exact steady
    · have visited : event.visited site root = ((recover site).run root).1 := by rw [Event.visited, ordinary, Call.body]
      rw [visited] at within
      rcases recover_visited site steady.sound with nothing | ⟨registered, chosen, preferred, both⟩
      · rw [nothing] at within
        cases within
      · have selected := select_sound steady.sound registered preferred
        rw [both, List.mem_pair] at within
        rcases within with same | same
        · rw [same]
          exact ⟨selected, steady.indexed⟩
        · rw [same]
          exact ⟨mirror_sound selected, steady.indexed⟩
  · rcases event_performs site event steady ordinary with same | performs
    · rw [same]
      exact steady
    · exact performs.steady steady

theorem history_steady (history : List Event) (steady : Steady root) :
    Steady (history.foldl (Event.after site) root) := by
  induction history generalizing root with
  | nil => exact steady
  | cons event later ih => exact ih (event_steady site event steady)

theorem blank_steady : Steady {} :=
  ⟨⟨fun _ => rfl, nofun, fun _ listed => (by cases listed), fun _ listed => (by cases listed),
    fun _ listed => (by cases listed)⟩, nofun⟩

theorem replay_steady (site : Site) (history : List Event) : Steady (replay site history) :=
  history_steady history blank_steady

theorem performs_segments {plan : Option (Registry × List Observation)} {current : Generation}
    (performs : Performs root plan after) (selected : root.current = some current) :
    ∃ later, after.current = some later ∧ current.segments ⊆ later.segments := by
  cases plan with
  | none =>
      obtain ⟨_, index, rfl, _⟩ := performs
      exact ⟨current, selected, List.Subset.refl _⟩
  | some committed =>
      have commits : Commits root committed.1 committed.2 after := performs
      rcases commits.current with same | ⟨generation, _, now, heir⟩
      · exact ⟨current, same.trans selected, List.Subset.refl _⟩
      · exact ⟨generation, now, (heir.follows current (heir.child.trans selected)).2.subset⟩

theorem ingests_segments (site : Site) {current : Generation} (further : List Event) (steady : Steady root)
    (ingests : ∀ event ∈ further, ∃ values, event.call = .ingest values) (selected : root.current = some current) :
    ∃ last, (further.foldl (Event.after site) root).current = some last ∧ current.segments ⊆ last.segments := by
  induction further generalizing root current with
  | nil => exact ⟨current, selected, List.Subset.refl _⟩
  | cons event rest ih =>
      obtain ⟨values, call⟩ := ingests event List.mem_cons_self
      have kept : ∃ later, (event.after site root).current = some later ∧ current.segments ⊆ later.segments := by
        rcases event_performs site event steady (by rw [call]; nofun) with same | performs
        · exact ⟨current, by rw [same]; exact selected, List.Subset.refl _⟩
        · exact performs_segments performs selected
      obtain ⟨later, now, within⟩ := kept
      obtain ⟨last, ended, all⟩ :=
        ih (event_steady site event steady) (fun other listed => ingests other (List.mem_cons_of_mem _ listed)) now
      exact ⟨last, ended, List.Subset.trans within all⟩

end Histories

-- What recover is for: the last selected generation loses no segment, then or
-- by what is ingested later.
def Recovers (site : Site) (root : Root) : Prop :=
  ∀ current, root.current = some current → ∃ chosen, ((recover site).run root).2 = .ok (.recovered chosen) ∧
    current.segments ⊆ chosen.segments ∧
    ∀ further : List Event, (∀ event ∈ further, ∃ values, event.call = .ingest values) →
      ∃ last, (further.foldl (Event.after site) ((recover site).final root)).current = some last ∧
        current.segments ⊆ last.segments

-- No manifest that a stop left behind beside the selected one, without all its
-- segments, comes before every other readable one.
def Unrivalled (site : Site) (root : Root) : Prop :=
  ∀ current, root.current = some current → ∀ sibling ∈ root.generations.whole, sibling.sequence = current.sequence →
    ¬ current.segments ⊆ sibling.segments → ∃ other ∈ root.generations.whole, Trails site root sibling other

section Rivals

variable {site : Site} {root : Root}

theorem recovers_chosen (site : Site) {current : Generation} (steady : Steady root)
    (selected : root.current = some current) :
    ∃ chosen, Preferred site root chosen ∧ ((recover site).run root).2 = .ok (.recovered chosen) ∧
      (recover site).final root = root.recovered chosen := by
  obtain ⟨chosen, found⟩ := preferred_exists site steady.sound selected
  have ran := recover_run steady.sound (sound_registered steady.sound selected) found
  refine ⟨chosen, newest_preferred steady.sound found, by rw [ran], ?_⟩
  rw [Journal.final, ran]
  rfl

theorem recovered_steady {chosen : Generation} (steady : Steady root) (registered : root.registry ≠ none)
    (preferred : Preferred site root chosen) : Steady (root.recovered chosen) :=
  ⟨mirror_sound (select_sound steady.sound registered preferred), steady.indexed⟩

theorem preferred_keeps {current chosen : Generation} (steady : Steady root) (selected : root.current = some current)
    (preferred : Preferred site root chosen) (unrivalled : Unrivalled site root) :
    current.segments ⊆ chosen.segments := by
  by_contra lacks
  rcases steady.sound.frontier chosen preferred.whole with child | ⟨other, here, behind⟩
  · exact lacks (steady.sound.lineage chosen preferred.whole current (child.trans selected)).2.subset
  · rw [selected] at here
    cases here
    rcases preferred.others current (steady.sound.selected current selected) with rfl | trails
    · exact lacks (List.Subset.refl _)
    · have level := le_antisymm behind (sequence_le_of_trails trails)
      obtain ⟨better, listed, ahead⟩ := unrivalled current selected chosen preferred.whole level lacks
      rcases preferred.others better listed with rfl | after
      · exact ahead.asymm ahead
      · exact ahead.asymm after

end Rivals

theorem recovery_keeps_committed (site : Site) (history : List Event) :
    Recovers site (replay site history) ↔ Unrivalled site (replay site history) := by
  have steady := replay_steady site history
  constructor
  · intro recovers current selected sibling listed _ lacks
    obtain ⟨chosen, preferred, answer, _⟩ := recovers_chosen site steady selected
    obtain ⟨_, same, kept, _⟩ := recovers current selected
    rw [answer] at same
    cases same
    rcases preferred.others sibling listed with rfl | trails
    · exact (lacks kept).elim
    · exact ⟨chosen, preferred.whole, trails⟩
  · intro unrivalled current selected
    obtain ⟨chosen, preferred, answer, ended⟩ := recovers_chosen site steady selected
    have kept := preferred_keeps steady selected preferred unrivalled
    refine ⟨chosen, answer, kept, fun further ingests => ?_⟩
    have start := recovered_steady steady (sound_registered steady.sound selected) preferred
    obtain ⟨last, now, within⟩ := ingests_segments site further start ingests rfl
    exact ⟨last, ended ▸ now, List.Subset.trans kept within⟩

section Example

def plainSite : Site := ⟨fun _ => 0, fun _ _ => 0, fun _ => 0⟩

def drawAt (time : Int) : Draw := ⟨"project", "collector", time, time, time, time⟩

-- One ingest stops before the selector write; the clock is stepped back, and
-- another one is completed.
def steppedBack : List Event :=
  [⟨.initializeStore, drawAt 0, 6⟩,
    ⟨.registerSource ⟨some "collector", "collector", true, .ok "imports"⟩, drawAt 1, 6⟩,
    ⟨.ingest [.ok ⟨"lost", "collector", "stopped"⟩], drawAt 10, 7⟩,
    ⟨.ingest [.ok ⟨"kept", "collector", "completed"⟩], drawAt 5, 9⟩]

theorem stepped_back_drops : ¬ Recovers plainSite (replay plainSite steppedBack) := by
  have found : ((replay plainSite steppedBack).current.any fun current =>
      (replay plainSite steppedBack).generations.whole.any fun stray => decide (age current < age stray) &&
        (replay plainSite steppedBack).generations.whole.all fun generation =>
          decide (current.segments ⊆ generation.segments → generation = current)) = true := by decide +kernel
  intro recovers
  obtain ⟨current, selected, found⟩ := (Option.any_eq_true _ _).mp found
  obtain ⟨stray, listed, found⟩ := List.any_eq_true.mp found
  rw [Bool.and_eq_true, decide_eq_true_eq, List.all_eq_true] at found
  obtain ⟨chosen, preferred, answer, _⟩ := recovers_chosen plainSite (replay_steady _ _) selected
  obtain ⟨_, same, kept, _⟩ := recovers current selected
  rw [answer] at same
  cases same
  obtain rfl : chosen = current := (of_decide_eq_true (found.2 chosen preferred.whole)) kept
  rcases preferred.others stray listed with rfl | older | ⟨level, _⟩
  · exact lt_irrefl _ found.1
  · exact lt_asymm older found.1
  · exact absurd found.1 (level ▸ lt_irrefl _)

theorem ingest_exact (site : Site) (history : List Event) (draw : Draw) (values : List (Except Error Observation))
    (current : Generation) (selected : (replay site history).current = some current) :
    Indexed (replay site history).index ∧
    (∀ reply, ((ingest site draw values).run (replay site history)).2 = .ok reply →
      ∃ normalized repeated, gather 0 [] 0 values = .ok (normalized, repeated) ∧
        Ingested (replay site history) ((ingest site draw values).final (replay site history))
          (normalized.filter fun item => decide (item.observationId ∉ identities (generationObservations current)))) ∧
    ∀ normalized repeated, gather 0 [] 0 values = .ok (normalized, repeated) →
      ∀ item ∈ normalized, ∀ previous ∈ generationObservations current, previous.observationId = item.observationId →
        previous ≠ item → (∀ reply, ((ingest site draw values).run (replay site history)).2 ≠ .ok reply) ∧
          ∀ state ∈ ((ingest site draw values).run (replay site history)).1, state.current = some current ∧
            state.generations = (replay site history).generations := by
  obtain ⟨sound, indexed⟩ := replay_steady site history
  generalize replay site history = root at *
  have keeps := ingest_keeps site draw values sound indexed
  have distinct := (sound.generations current (sound.selected current selected)).distinct
  refine ⟨indexed, fun reply finish => ?_, fun normalized repeated gathered item listed previous stored
    same differs => ?_⟩
  · obtain ⟨here, now, normalized, repeated, additions, gathered, _, added, _, ingested⟩ := keeps.2 reply finish
    cases selected.symm.trans now
    exact ⟨normalized, repeated, gathered, (additions_over_done added).1 ▸ ingested⟩
  · have refused : ∀ additions, additionsOver (generationObservations current) normalized ≠ .ok additions :=
      fun additions added => differs ((additions_over_done added).2 distinct item listed previous stored same)
    refine ⟨fun reply finish => ?_, fun state visited => ?_⟩
    · obtain ⟨here, now, other, again, additions, also, _, added, _⟩ := keeps.2 reply finish
      cases selected.symm.trans now
      cases gathered.symm.trans also
      exact refused additions added
    · have performs := keeps.1 state visited
      have unplanned : plan draw root (.ingest values) = none := by
        simp only [plan, selected, commission, gathered]
        cases added : additionsOver (generationObservations current) normalized with
        | error _ => rfl
        | ok additions => exact absurd added (refused additions)
      rw [unplanned] at performs
      obtain ⟨_, index, rfl, _⟩ := performs
      exact ⟨selected, rfl⟩

theorem ingest_exact_contradicted :
    ∃ current, (replay plainSite steppedBack).current = some current ∧
      ∀ state ∈ ((ingest plainSite (drawAt 11) [.ok ⟨"kept", "collector", "other"⟩]).run
      (replay plainSite steppedBack)).1,
        state.current = some current := by
  have found : ((replay plainSite steppedBack).current.any fun current =>
      decide (⟨"kept", "collector", "completed"⟩ ∈ generationObservations current)) = true := by decide +kernel
  obtain ⟨current, selected, stored⟩ := (Option.any_eq_true _ _).mp found
  have taken := ingest_exact plainSite steppedBack (drawAt 11) [.ok ⟨"kept", "collector", "other"⟩] current selected
  exact ⟨current, selected, fun state visited =>
    ((taken.2.2 [⟨"kept", "collector", "other"⟩] 0 rfl _ List.mem_cons_self _
    (of_decide_eq_true stored) rfl (by decide)).2 state visited).1⟩

end Example

end OrchestratorEngine.MetricsStore
