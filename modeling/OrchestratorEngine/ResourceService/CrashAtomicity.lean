import OrchestratorEngine.ResourceService.Updates

set_option autoImplicit false

namespace OrchestratorEngine.ResourceService

open Foundation ResourceQueue

-- However an update ends, the next reconciliation succeeds and leaves the old
-- pair or the new pair, without a staged file.
def CrashAtomic (site : Site) (faults : Faults) (config : Configuration) (expected : Int)
    (directory : Directory) : Prop :=
  ∃ settled verdict,
    (reconcileConfiguration site .none).run ((updateConfiguration site faults config expected).run directory).1 =
      (settled, .returned verdict) ∧
    settled.staged = none ∧
    (settled.config = directory.config ∧ settled.ledger = directory.ledger ∨
      ∃ updated registry, prepareUpdate site config expected directory = .ok (updated, registry) ∧
        updated.revision = some (directory.config.revision.getD 1 + 1) ∧ settled.config = updated ∧
        settled.ledger = { directory.ledger with registry := canonical registry })

def isNewPair (site : Site) (config : Configuration) (expected : Int) (directory settled : Directory) : Bool :=
  match prepareUpdate site config expected directory with
  | .ok (updated, registry) => decide (updated.revision = some (directory.config.revision.getD 1 + 1) ∧
      settled.config = updated ∧ settled.ledger = { directory.ledger with registry := canonical registry })
  | .error _ => false

def crashAtomic (site : Site) (faults : Faults) (config : Configuration) (expected : Int)
    (directory : Directory) : Bool :=
  match (reconcileConfiguration site .none).run ((updateConfiguration site faults config expected).run directory).1 with
  | (settled, .returned _) => decide (settled.staged = none ∧
      (settled.config = directory.config ∧ settled.ledger = directory.ledger ∨
        isNewPair site config expected directory settled = true))
  | _ => false

theorem crash_atomic_iff (site : Site) (faults : Faults) (config : Configuration) (expected : Int)
    (directory : Directory) :
    crashAtomic site faults config expected directory = true ↔ CrashAtomic site faults config expected directory := by
  have pairs : ∀ settled, isNewPair site config expected directory settled = true ↔
      ∃ updated registry, prepareUpdate site config expected directory = .ok (updated, registry) ∧
        updated.revision = some (directory.config.revision.getD 1 + 1) ∧ settled.config = updated ∧
        settled.ledger = { directory.ledger with registry := canonical registry } := by
    intro settled
    rcases prepared : prepareUpdate site config expected directory with error | ⟨updated, registry⟩
    · simp [isNewPair, prepared]
    · simp only [isNewPair, prepared, decide_eq_true_eq, Except.ok.injEq, Prod.mk.injEq]
      exact ⟨fun pair => ⟨updated, registry, ⟨rfl, rfl⟩, pair⟩, by rintro ⟨_, _, ⟨rfl, rfl⟩, pair⟩; exact pair⟩
  rw [crashAtomic, CrashAtomic]
  rcases (reconcileConfiguration site .none).run ((updateConfiguration site faults config expected).run
    directory).1 with
    ⟨settled, verdict | error | _⟩
  · simp only [decide_eq_true_eq, pairs]
    exact ⟨fun kept => ⟨settled, verdict, rfl, kept⟩, fun ⟨_, _, same, kept⟩ => (Prod.mk.inj same).1 ▸ kept⟩
  · exact iff_of_false (by simp) fun ⟨_, _, same, _⟩ => by cases same
  · exact iff_of_false (by simp) fun ⟨_, _, same, _⟩ => by cases same

instance (site : Site) (faults : Faults) (config : Configuration) (expected : Int) (directory : Directory) :
    Decidable (CrashAtomic site faults config expected directory) :=
  decidable_of_iff _ (crash_atomic_iff site faults config expected directory)

def Reaches (site : Site) (config : Configuration) (expected : Int) (directory : Directory)
    (registry : Registry) : Prop :=
  validateConfig site config = .ok () ∧ ¬ expected < 1 ∧
    ∃ updated, prepareUpdate site config expected directory = .ok (updated, registry)

def Survivable (faults : Faults) (directory : Directory) : Prop :=
  ¬ faults.Lost ∧ ¬ faults.Overturned ∧ (directory.config.resourceDigest = none → ¬ faults.Stranded)

theorem update_refused (site : Site) (faults : Faults) (config : Configuration) (expected : Int) (directory : Directory)
    (quiet : directory.staged = none) (refused : ¬ ∃ registry, Reaches site config expected directory registry) :
    ((updateConfiguration site faults config expected).run directory).1 = directory := by
  have settled : (reconcileConfiguration site faults.settle).run directory = (directory, .returned .unchanged) := by
    rw [reconcileConfiguration, Durable.bind_returned _ _ _ directory directory rfl, quiet]
    rfl
  rw [updateConfiguration]
  cases valid : validateConfig site config with
  | error error => rfl
  | ok done =>
      rw [Durable.lift_ok, Durable.bind_returned _ _ _ directory () rfl, refuse]
      by_cases low : expected < 1
      · rw [if_pos low]
        rfl
      · rw [if_neg low, Durable.lift_ok, Durable.bind_returned _ _ _ directory () rfl,
          Durable.bind_returned _ _ _ directory _ settled]
        cases prepared : prepareUpdate site config expected directory with
        | ok next => exact absurd ⟨next.2, valid, low, next.1, prepared⟩ refused
        | error error =>
            rw [Durable.bind_raised _ _ _ directory error (by rw [Durable.look_run, prepared]; rfl)]

section Reached

variable (directory : Directory) (updated : Configuration) (registry : Registry)

def finished (faults : Faults) : Directory where
  config := if faults.replaces then updated else directory.config
  staged := if faults.write.takes && !faults.replaces && !faults.cleans (changes directory registry) then some updated
    else none
  authority := directory.authority
  ledger := if faults.configures && !faults.rollsBack (changes directory registry) then
    { directory.ledger with registry := canonical registry } else directory.ledger

theorem attempted_fields (faults : Faults) : attempted directory updated registry faults =
    { finished directory updated registry faults with
      staged := if faults.replaces then none else some updated } := by
  rw [attempted, finished]
  cases faults.replaces <;> cases faults.configures && !faults.rollsBack (changes directory registry) <;> rfl

theorem update_finished (matching : Matches directory) (site : Site) (faults : Faults) (config : Configuration)
    (expected : Int) (valid : validateConfig site config = .ok ()) (positive : ¬ expected < 1)
    (prepared : prepareUpdate site config expected directory = .ok (updated, registry)) :
    ((updateConfiguration site faults config expected).run directory).1 =
      finished directory updated registry faults := by
  rw [update_state directory matching updated registry site faults config expected valid positive prepared,
    attempted_fields]
  cases written : faults.write.takes with
  | false =>
      have configured : faults.configures = false :=
        Bool.eq_false_iff.mpr fun configured => by simp [configures_writes faults configured] at written
      have replaced : faults.replaces = false :=
        Bool.eq_false_iff.mpr fun replaced => by simp [replaces_configures faults replaced] at configured
      simp [finished, written, replaced, configured, ← matching.quiet]
  | true =>
      simp only [finished, written, if_true, Bool.true_and]
      cases faults.replaces <;> cases faults.cleans (changes directory registry) <;> rfl

theorem reconcile_finished (matching : Matches directory) (site : Site) (faults : Faults) (config : Configuration)
    (valid : validateConfig site config = .ok ()) (prepared : Prepared site config directory updated registry) :
    (reconcileConfiguration site .none).run (finished directory updated registry faults) =
      if (finished directory updated registry faults).staged = none then
        (finished directory updated registry faults, .returned .unchanged)
      else if canonical registry = (finished directory updated registry faults).ledger.registry then
        (promoted updated (finished directory updated registry faults), .returned .committed)
      else if directory.config.resourceDigest ≠ none then
        ({ finished directory updated registry faults with staged := none }, .returned .rolledBack)
      else (finished directory updated registry faults,
        .raised (.resource "staged configuration and resource ledger have unrelated revisions")) := by
  by_cases quiet : (finished directory updated registry faults).staged = none
  · rw [if_pos quiet, reconcile_quiet site _ quiet]
  · rw [if_neg quiet]
    obtain ⟨candidate, kept⟩ := Option.ne_none_iff_exists'.mp quiet
    have same : candidate = updated ∧ faults.replaces = false := by
      rw [finished] at kept
      dsimp only at kept
      split at kept
      case isTrue state =>
        simp only [Bool.and_eq_true, Bool.not_eq_true'] at state
        exact ⟨(Option.some.inj kept).symm, state.1.2⟩
      case isFalse => cases kept
    obtain ⟨rfl, replaced⟩ := same
    have config' : (finished directory candidate registry faults).config = directory.config := by
      rw [finished, replaced]
      rfl
    have stored : canonical (finished directory candidate registry faults).ledger.registry =
        (finished directory candidate registry faults).ledger.registry := by
      rw [finished]
      dsimp only
      split
      · exact canonical_again registry
      · exact matches_stored directory matching
    rw [reconcile_staged site _ candidate kept (prepared.valid valid) (by rw [config']; exact prepared.authority)
      (by rw [config']; exact prepared.revision), prepared.digest, config', registryDigest, registryDigest, stored]
    by_cases newer : canonical registry = (finished directory candidate registry faults).ledger.registry
    · rw [if_pos (congrArg some newer), if_pos newer]
    · rw [if_neg (mt Option.some.inj newer), if_neg newer]
      have older : directory.ledger.registry = (finished directory candidate registry faults).ledger.registry := by
        rw [finished] at newer ⊢
        dsimp only at newer ⊢
        split at newer
        · exact absurd rfl newer
        · rw [if_neg ‹_›]
      cases recorded : directory.config.resourceDigest with
      | none => rw [if_neg (by simp), if_neg (by simp)]
      | some digest =>
          have named : digest = (finished directory candidate registry faults).ledger.registry := by
            rw [matching.recorded digest recorded, registryDigest, matches_stored directory matching, older]
          rw [if_pos (by rw [named]), if_pos (by simp)]
          simp only [config']

def Kept (after : Directory) : Prop :=
  after.staged = none ∧
    (after.config = directory.config ∧ after.ledger = directory.ledger ∨
      after.config = updated ∧ after.ledger = { directory.ledger with registry := canonical registry })

theorem finished_kept (matching : Matches directory) (site : Site) (faults : Faults) (config : Configuration)
    (valid : validateConfig site config = .ok ()) (prepared : Prepared site config directory updated registry) :
    (∃ settled verdict, (reconcileConfiguration site .none).run (finished directory updated registry faults) =
        (settled, .returned verdict) ∧ Kept directory updated registry settled) ↔
      (changes directory registry = true → Survivable faults directory) := by
  rw [reconcile_finished directory updated registry matching site faults config valid prepared]
  have distinct : updated ≠ directory.config := fun same => by
    have revision := prepared.revision
    rw [same] at revision
    cases recorded : directory.config.revision <;> rw [recorded] at revision <;> simp at revision
  have unchanged : changes directory registry = false → canonical registry = directory.ledger.registry := by
    intro same
    have agree : Dict.Same registry directory.ledger.registry := by simpa [changes] using same
    rw [← matches_stored directory matching]
    exact Dict.sorted_eq_of_same _ _ agree
  have changed : changes directory registry = true → canonical registry ≠ directory.ledger.registry := by
    intro differ same
    have agree : Dict.Same registry directory.ledger.registry := fun name => by
      rw [← same, canonical_get]
    simp [changes, agree] at differ
  have settles : ∀ settled kind, (∃ after verdict, (settled, (Ending.returned kind : Ending Error Verdict)) =
      (after, .returned verdict) ∧ Kept directory updated registry after) ↔ Kept directory updated
      registry settled := by
    intro settled kind
    constructor
    · rintro ⟨_, _, ⟨⟩, kept⟩
      exact kept
    · exact fun kept => ⟨settled, kind, rfl, kept⟩
  have mixed : ∀ config' ledger', (config' = updated ∧ ledger' = directory.ledger ∨ config' = directory.config ∧
      ledger' = { directory.ledger with registry := canonical registry }) → changes directory registry = true →
      ¬ (config' = directory.config ∧ ledger' = directory.ledger ∨
        config' = updated ∧ ledger' = { directory.ledger with registry := canonical registry }) := by
    rintro config' ledger' kind differs pair
    have apart : ({ directory.ledger with registry := canonical registry } : Ledger) ≠ directory.ledger :=
      fun same => changed differs (congrArg Ledger.registry same)
    rcases kind with ⟨rfl, rfl⟩ | ⟨rfl, rfl⟩ <;> rcases pair with ⟨config', ledger'⟩ | ⟨config', ledger'⟩
    · exact distinct config'
    · exact apart ledger'.symm
    · exact apart ledger'
    · exact distinct config'.symm
  cases differs : changes directory registry with
  | false =>
      have same := unchanged differs
      have ledger' : (finished directory updated registry faults).ledger = directory.ledger := by
        rw [finished]
        dsimp only
        rw [same, ite_self]
      refine iff_of_true ?_ fun wrong => absurd wrong Bool.false_ne_true
      by_cases quiet : (finished directory updated registry faults).staged = none
      · rw [if_pos quiet, settles]
        refine ⟨quiet, ?_⟩
        rw [ledger', same]
        cases replaced : faults.replaces with
        | false => exact .inl ⟨by rw [finished, replaced]; rfl, rfl⟩
        | true => exact .inr ⟨by rw [finished, replaced]; rfl, rfl⟩
      · rw [if_neg quiet, if_pos (by rw [ledger', same]), settles]
        exact ⟨rfl, .inr ⟨rfl, by rw [promoted, ledger', same]⟩⟩
  | true =>
      have different := changed differs
      cases replaced : faults.replaces with
      | true =>
          have configured := replaces_configures faults replaced
          have quiet : (finished directory updated registry faults).staged = none := by
            rw [finished, replaced]
            simp
          rw [if_pos quiet, settles]
          cases rolled : faults.rollsBack true with
          | true =>
              refine iff_of_false (fun kept => mixed _ _ (.inl ⟨?_, ?_⟩) differs kept.2) fun survives =>
                (survives rfl).2.1 ⟨replaced, rolled⟩
              · rw [finished, replaced]
                rfl
              · rw [finished, differs, configured, rolled]
                rfl
          | false =>
              refine iff_of_true ⟨quiet, .inr ⟨?_, ?_⟩⟩ fun _ => ⟨?_, ?_, ?_⟩
              · rw [finished, replaced]
                rfl
              · rw [finished, differs, configured, rolled]
                rfl
              · exact fun lost => by simp [lost.2.1] at replaced
              · exact fun turned => by simp [turned.2] at rolled
              · exact fun _ stranded => by simp [stranded.2.1] at replaced
      | false =>
          have config' : (finished directory updated registry faults).config = directory.config := by
            rw [finished, replaced]
            rfl
          have unturned : ¬ faults.Overturned := fun turned => by simp [turned.1] at replaced
          cases newer : faults.configures && !faults.rollsBack true with
          | true =>
              have ledger' : (finished directory updated registry faults).ledger =
                  { directory.ledger with registry := canonical registry } := by
                rw [finished, differs, newer]
                rfl
              obtain ⟨configured, rolled⟩ := Bool.and_eq_true_iff.mp newer
              have rolled : faults.rollsBack true = false := by simpa using rolled
              cases cleaned : faults.cleans true with
              | true =>
                  have quiet : (finished directory updated registry faults).staged = none := by
                    rw [finished, differs, cleaned]
                    simp
                  rw [if_pos quiet, settles]
                  exact iff_of_false (fun kept => mixed _ _ (.inr ⟨config', ledger'⟩) differs kept.2)
                    fun survives => (survives rfl).1 ⟨configured, replaced, rolled, cleaned⟩
              | false =>
                  have waiting : (finished directory updated registry faults).staged = some updated := by
                    rw [finished, differs, cleaned, replaced, configures_writes faults configured]
                    rfl
                  rw [if_neg (by simp [waiting]), if_pos (by rw [ledger']), settles]
                  refine iff_of_true ⟨rfl, .inr ⟨rfl, ledger'⟩⟩ fun _ => ⟨?_, unturned, ?_⟩
                  · exact fun lost => by simp [lost.2.2.2] at cleaned
                  · exact fun _ stranded => by simp [stranded.2.2.2 configured] at rolled
          | false =>
              have ledger' : (finished directory updated registry faults).ledger = directory.ledger := by
                rw [finished, differs, newer]
                rfl
              have undone : faults.configures = true → faults.rollsBack true = true := by
                intro configured
                simpa [configured] using newer
              have found : ¬ faults.Lost := fun lost =>
                absurd (undone lost.1) (Bool.eq_false_iff.mp lost.2.2.1)
              cases waits : faults.write.takes && !faults.cleans true with
              | false =>
                  have quiet : (finished directory updated registry faults).staged = none := by
                    rw [finished, differs, replaced]
                    dsimp only
                    rw [Bool.not_false, Bool.and_true, waits]
                    rfl
                  rw [if_pos quiet, settles]
                  refine iff_of_true ⟨quiet, .inl ⟨config', ledger'⟩⟩ fun _ => ⟨found, unturned, fun _ stranded => ?_⟩
                  simp [stranded.1, stranded.2.2.1] at waits
              | true =>
                  obtain ⟨written, cleaned⟩ := Bool.and_eq_true_iff.mp waits
                  have waiting : (finished directory updated registry faults).staged = some updated := by
                    rw [finished, differs, replaced]
                    dsimp only
                    rw [Bool.not_false, Bool.and_true, waits]
                    rfl
                  rw [if_neg (by simp [waiting]), if_neg (by rw [ledger']; exact different)]
                  by_cases legacy : directory.config.resourceDigest = none
                  · rw [if_neg (not_not.mpr legacy)]
                    refine iff_of_false (by rintro ⟨_, _, ⟨⟩, _⟩) fun survives => ?_
                    exact (survives rfl).2.2 legacy ⟨written, replaced, by simpa using cleaned, undone⟩
                  · rw [if_pos legacy, settles]
                    exact iff_of_true ⟨rfl, .inl ⟨config', ledger'⟩⟩
                      fun _ => ⟨found, unturned, fun none => absurd none legacy⟩

end Reached

theorem update_crash_atomic (site : Site) (faults : Faults) (config : Configuration) (expected : Int)
    (directory : Directory) (matching : Matches directory) :
    CrashAtomic site faults config expected directory ↔
      ∀ registry, Reaches site config expected directory registry → changes directory registry = true →
        Survivable faults directory := by
  by_cases reached : ∃ registry, Reaches site config expected directory registry
  · obtain ⟨registry, valid, positive, updated, prepared⟩ := reached
    have facts := prepare_update_ok site config expected directory updated registry prepared
    have result := update_finished directory updated registry matching site faults config expected valid
      positive prepared
    have kept := finished_kept directory updated registry matching site faults config valid facts
    constructor
    · rintro ⟨settled, verdict, done, quiet, pair⟩ other ⟨_, _, next, again⟩ differs
      have same : (next, other) = (updated, registry) := Except.ok.inj (again.symm.trans prepared)
      cases same
      rw [result] at done
      refine kept.mp ⟨settled, verdict, done, quiet, pair.imp_right ?_⟩ differs
      rintro ⟨next, other, again, _, config', ledger'⟩
      have same : (next, other) = (updated, registry) := Except.ok.inj (again.symm.trans prepared)
      cases same
      exact ⟨config', ledger'⟩
    · intro survives
      obtain ⟨settled, verdict, done, quiet, pair⟩ := kept.mpr (survives registry ⟨valid, positive, updated, prepared⟩)
      refine ⟨settled, verdict, by rw [result]; exact done, quiet, pair.imp_right ?_⟩
      exact fun ⟨config', ledger'⟩ => ⟨updated, registry, prepared, facts.revision, config', ledger'⟩
  · refine iff_of_true ?_ fun registry one => absurd ⟨registry, one⟩ reached
    refine ⟨directory, .unchanged, ?_, matching.quiet, .inl ⟨rfl, rfl⟩⟩
    rw [update_refused site faults config expected directory matching.quiet reached]
    exact reconcile_quiet site directory matching.quiet

def plainSite : Site where
  resolve path := path
  isDirectory _ := true
  resolved _ := rfl
  token name := name
  releaseUpgrade _ := .ok []
  commandContract _ := .ok ()
  probeContract _ := .ok ()

def leafRegistry (names : List Name) : Registry :=
  names.foldl (fun registry name => registry.set name {
    kind := some .resource, physicalId := some name, capacity := some (.integer 1), incarnation := some "1"
    release := some .process }) Dict.empty

def configuredWith (names : List Name) (digest : Option Registry) : Configuration where
  projects := Dict.single "lab" { root := "/lab", recipes := Dict.empty, token := some "secret" }
  resources := leafRegistry names
  authority := some "authority"
  resourceDigest := digest

def legacyDirectory : Directory where
  config := configuredWith ["gpu"] none
  staged := none
  authority := "authority"
  ledger := { Ledger.create with registry := leafRegistry ["gpu"] }

def currentDirectory : Directory :=
  { legacyDirectory with config := configuredWith ["gpu"] (some (leafRegistry ["gpu"])) }

theorem legacy_matches : Matches legacyDirectory where
  quiet := rfl
  authority := rfl
  registry := ⟨leafRegistry ["gpu"], by decide +kernel, by decide +kernel⟩
  recorded _ wrong := by cases wrong

theorem current_matches : Matches currentDirectory where
  quiet := rfl
  authority := rfl
  registry := ⟨leafRegistry ["gpu"], by decide +kernel, by decide +kernel⟩
  recorded digest same := by
    cases same
    decide +kernel

theorem legacy_update_completes :
    CrashAtomic plainSite {} (configuredWith ["gpu", "npu"] none) 1 legacyDirectory := by
  refine (update_crash_atomic plainSite {} (configuredWith ["gpu", "npu"] none) 1 legacyDirectory legacy_matches).mpr ?_
  exact fun _ _ _ => ⟨by unfold Faults.Lost; decide, by unfold Faults.Overturned; decide,
    fun _ => by unfold Faults.Stranded; decide⟩

theorem interrupted_updates_diverge :
    Matches legacyDirectory ∧ Matches currentDirectory ∧
      ¬ CrashAtomic plainSite { write := .stopsAfter } (configuredWith ["gpu", "npu"] none) 1 legacyDirectory ∧
      ¬ CrashAtomic plainSite { replace := .raisesBefore .os, rollback := .raisesBefore .os }
        (configuredWith ["gpu", "npu"] none) 1 currentDirectory ∧
      ¬ CrashAtomic plainSite { replace := .raisesAfter .interrupted } (configuredWith ["gpu", "npu"] none) 1
        currentDirectory :=
  ⟨legacy_matches, current_matches, by decide +kernel, by decide +kernel, by decide +kernel⟩

end OrchestratorEngine.ResourceService
