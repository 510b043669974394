import OrchestratorEngine.ResourceService.Configuration

set_option autoImplicit false

namespace OrchestratorEngine.ResourceService

open Foundation ResourceQueue

-- A directory at rest: the ledger has the registry of the configuration, and the
-- configuration names its digest unless it is a legacy one.
structure Matches (directory : Directory) : Prop where
  quiet : directory.staged = none
  authority : directory.config.authority = some directory.authority
  registry : ∃ registry, normalizeRegistry directory.config.resources = .ok registry ∧
    directory.ledger.registry = canonical registry
  recorded : ∀ digest, directory.config.resourceDigest = some digest →
    digest = registryDigest directory.ledger.registry

theorem canonical_get (registry : Registry) : Dict.Same (canonical registry) registry :=
  fun name => Dict.get_sorted registry name

theorem canonical_again (registry : Registry) : canonical (canonical registry) = canonical registry :=
  Dict.sorted_eq_of_same _ _ (canonical_get registry)

theorem matches_stored (directory : Directory) (matching : Matches directory) :
    canonical directory.ledger.registry = directory.ledger.registry := by
  obtain ⟨registry, _, stored⟩ := matching.registry
  rw [stored, canonical_again]

theorem matches_again (directory : Directory) (matching : Matches directory) :
    normalizeRegistry directory.ledger.registry = .ok directory.ledger.registry := by
  obtain ⟨registry, normalized, stored⟩ := matching.registry
  exact normalize_registry_again _ registry _ normalized (by rw [stored]; exact canonical_get registry)

def reconfigured (registry : Registry) (directory : Directory) : Directory :=
  { directory with ledger := { directory.ledger with registry := canonical registry } }

theorem configure_done (raw registry : Registry) (directory : Directory)
    (normalized : normalizeRegistry raw = .ok registry)
    (idle : directory.ledger.activeStages = []) :
    configure raw directory = .ok (reconfigured registry directory) := by
  simp [configure, Ledger.configure, normalized, idle, reconfigured]

section Validation

variable (site : Site)

def Accepted (projects : Dict Name Project) : Prop :=
  projects.items ≠ [] ∧ ∀ name project, projects.get? name = some project → validateProject site
  (name, project) = .ok ()

theorem items_accepted (projects : Dict Name Project) (accepted : Accepted site projects) :
    ∃ done, projects.items.mapM (validateProject site) = .ok done := by
  refine ⟨_, mapM_pure _ (fun _ => ()) _ ?_⟩
  rintro ⟨name, project⟩ listed
  exact accepted.2 name project ((Dict.mem_items _ _ _).mp listed)

theorem validate_config_iff (config : Configuration) : validateConfig site config = .ok () ↔
    Accepted site config.projects ∧
      ∀ name resource, config.resources.get? name = some resource → validateResource site resource = .ok () := by
  simp only [validateConfig, bind_ok_iff, refuse_ok_iff, exists_const, pure_ok, and_true]
  constructor
  · rintro ⟨present, _, projects, _, resources⟩
    refine ⟨⟨present, fun name project known => ?_⟩, fun name resource known => ?_⟩
    · obtain ⟨_, _, done⟩ := forall₂_mem_left _ _ _ (mapM_ok_inv _ _ _ projects) (name, project)
        ((Dict.mem_items _ _ _).mpr known)
      exact done
    · obtain ⟨_, _, done⟩ := forall₂_mem_left _ _ _ (mapM_ok_inv _ _ _ resources) (name, resource)
        ((Dict.mem_items _ _ _).mpr known)
      exact done
  · rintro ⟨accepted, resources⟩
    obtain ⟨done, checked⟩ := items_accepted site config.projects accepted
    refine ⟨accepted.1, done, checked, _, mapM_pure _ (fun _ => ()) _ ?_⟩
    rintro ⟨name, resource⟩ listed
    exact resources name resource ((Dict.mem_items _ _ _).mp listed)

theorem validate_project_iff (name : Name) (project : Project) : validateProject site (name, project) = .ok () ↔
    (∃ done, identifier name = .ok done) ∧ site.isDirectory (site.resolve project.root) = true ∧
      ∃ done, project.recipes.items.mapM (fun item => validateRecipe site item.2) = .ok done := by
  simp [validateProject, bind_ok_iff]

theorem retain_accepted (before after : Dict Name Project) (item : Name × Project) (accepted : Accepted site before)
    (done : retainProject site before item = .ok after) : Accepted site after := by
  obtain ⟨name, registered⟩ := item
  simp only [retainProject] at done
  cases known : before.get? name with
  | none => simp [known] at done
  | some replacement =>
      cases owned : registered.token with
      | none => simp [known, owned, bind_ok_iff] at done
      | some token =>
          simp only [known, owned, bind_ok_iff, refuse_ok_iff, exists_const, pure_ok, Except.ok.injEq] at done
          obtain ⟨_, rfl⟩ := done
          refine ⟨fun nothing => ?_, fun other project found => ?_⟩
          · have absent := (Dict.items_nil_iff _).mp nothing name
            simp at absent
          · rw [Dict.get_set] at found
            by_cases same : other = name
            · rw [if_pos same, Option.some.injEq] at found
              subst same found
              exact (validate_project_iff site other _).mpr
                ((validate_project_iff site other replacement).mp (accepted.2 other replacement known))
            · rw [if_neg same] at found
              exact accepted.2 other project found

theorem settle_accepted (current before : Dict Name Project) (accepted : Accepted site before) :
    Accepted site (before.mapValues (settleProject site current)) := by
  refine ⟨fun nothing => accepted.1 (List.map_eq_nil_iff.mp nothing), fun name project known => ?_⟩
  obtain ⟨⟨other, old⟩, listed, same⟩ := List.mem_map.mp ((Dict.mem_items _ name project).mpr known)
  cases same
  have found := (validate_project_iff site other old).mp (accepted.2 other old ((Dict.mem_items _ _ _).mp listed))
  refine (validate_project_iff site other _).mpr ⟨found.1, ?_, found.2.2⟩
  simpa only [settleProject, site.resolved] using found.2.1

end Validation

structure Prepared (site : Site) (config : Configuration) (directory : Directory) (updated : Configuration)
    (registry : Registry) : Prop where
  authority : updated.authority = directory.config.authority
  revision : updated.revision = some (directory.config.revision.getD 1 + 1)
  digest : updated.resourceDigest = some (registryDigest registry)
  accepted : normalizeRegistry updated.resources = .ok registry
  idle : directory.ledger.activeStages = []
  valid : validateConfig site config = .ok () → validateConfig site updated = .ok ()

theorem prepare_update_ok (site : Site) (config : Configuration) (expected : Int) (directory : Directory)
    (updated : Configuration) (registry : Registry)
    (done : prepareUpdate site config expected directory = .ok (updated, registry)) :
    Prepared site config directory updated registry := by
  simp only [prepareUpdate, bind_ok_iff, refuse_ok_iff, exists_const, pure_ok, Except.ok.injEq, Prod.mk.injEq,
    not_not] at done
  obtain ⟨_, _, _, idle, projects, retained, checked, normalized, rfl, rfl⟩ := done
  refine ⟨rfl, rfl, rfl, normalized, idle, fun valid => ?_⟩
  obtain ⟨accepted, resources⟩ := (validate_config_iff site config).mp valid
  refine (validate_config_iff site _).mpr ⟨settle_accepted site _ _ ?_, fun name resource known => ?_⟩
  · refine foldlM_ok_inv (retainProject site) (Accepted site) _ _ projects ?_ ?_ retained
    · refine ⟨fun nothing => accepted.1 ?_, fun name project known => accepted.2 name project ?_⟩
      · exact (Dict.items_nil_iff _).mpr fun name => by
          have absent := (Dict.items_nil_iff _).mp nothing name
          rwa [Dict.get_sorted] at absent
      · rwa [Dict.get_sorted] at known
    · exact fun before item _ after kept step => retain_accepted site before after item kept step
  · exact resources name resource (by rwa [canonical_get] at known)

namespace Faults

-- What one update does under its faults. The rollback is tried only when the
-- handler can see a registry that the update has changed.
def configures (faults : Faults) : Bool := faults.write.passes && faults.configure.takes

def replaces (faults : Faults) : Bool := faults.write.passes && faults.configure.passes && faults.replace.takes

def raises (faults : Faults) : Bool :=
  faults.write.passes && (faults.configure.raises || faults.configure.passes && faults.replace.raises)

def handles (faults : Faults) (changed : Bool) : Bool :=
  faults.raises && faults.inspect.passes && faults.configures && changed

def rollsBack (faults : Faults) (changed : Bool) : Bool := faults.handles changed && faults.rollback.takes

def stops (faults : Faults) (changed : Bool) : Bool :=
  faults.configure.stops || faults.configure.passes && faults.replace.stops ||
    faults.raises && faults.inspect.stops || faults.handles changed && faults.rollback.stops

def cleans (faults : Faults) (changed : Bool) : Bool :=
  faults.write.passes && !faults.stops changed && faults.unlink.takes

def Lost (faults : Faults) : Prop :=
  faults.configures = true ∧ faults.replaces = false ∧ faults.rollsBack true = false ∧ faults.cleans true = true

def Overturned (faults : Faults) : Prop := faults.replaces = true ∧ faults.rollsBack true = true

def Stranded (faults : Faults) : Prop :=
  faults.write.takes = true ∧ faults.replaces = false ∧ faults.cleans true = false ∧
    (faults.configures = true → faults.rollsBack true = true)

end Faults

def staged (updated : Configuration) (directory : Directory) : Directory := { directory with staged := some updated }

def promoted (updated : Configuration) (directory : Directory) : Directory :=
  { directory with config := updated, staged := none }

variable (faults : Faults)

theorem cleanup_state (directory : Directory) :
    ((cleanup faults).run directory).1 =
      if faults.unlink.takes then { directory with staged := none } else directory := by
  rw [cleanup, Durable.suppress_state]
  obtain ⟨config, _ | candidate, authority, ledger⟩ := directory
  · rw [Durable.step_refused faults.unlink discard _ .os rfl]
    split <;> rfl
  · rw [Durable.step_done faults.unlink discard _ ⟨config, none, authority, ledger⟩ rfl]

theorem restore_unchanged (registry : Registry) (error : Error) (directory : Directory)
    (same : Dict.Same directory.ledger.registry registry) :
    ∃ ending, (restore faults registry error).run directory = (directory, ending) ∧
      (ending = .stopped ↔ faults.inspect.stops = true) := by
  have inspected := Durable.step_done faults.inspect Except.ok directory directory rfl
  rw [ite_self] at inspected
  rw [restore]
  cases fault : faults.inspect with
  | none =>
      rw [fault] at inspected
      rw [Durable.bind_returned _ _ _ _ _ inspected, Durable.bind_returned _ _ _ directory directory rfl,
        if_neg (not_not.mpr same)]
      exact ⟨.raised error, rfl, by simp [Fault.stops]⟩
  | raisesBefore interruption | raisesAfter interruption =>
      rw [fault] at inspected
      exact ⟨_, Durable.bind_raised _ _ _ _ _ inspected, by simp [Fault.stops]⟩
  | stopsBefore | stopsAfter =>
      rw [fault] at inspected
      exact ⟨_, Durable.bind_stopped _ _ _ _ inspected, by simp [Fault.stops]⟩

theorem restore_changed (registry : Registry) (error : Error) (directory back : Directory)
    (changed : ¬ Dict.Same directory.ledger.registry registry) (undone : configure registry directory = .ok back) :
    ∃ ending, (restore faults registry error).run directory =
        (if faults.inspect.passes && faults.rollback.takes then back else directory, ending) ∧
      (ending = .stopped ↔ (faults.inspect.stops || faults.inspect.passes && faults.rollback.stops) = true) := by
  have inspected := Durable.step_done faults.inspect Except.ok directory directory rfl
  have rolled := Durable.step_done faults.rollback (configure registry) directory back undone
  rw [ite_self] at inspected
  rw [restore]
  cases fault : faults.inspect with
  | none =>
      rw [fault] at inspected
      rw [Durable.bind_returned _ _ _ _ _ inspected, Durable.bind_returned _ _ _ directory
        directory rfl, if_pos changed]
      cases rolling : faults.rollback with
      | none =>
          rw [rolling] at rolled
          exact ⟨_, Durable.bind_returned _ _ _ _ _ rolled, by simp [Fault.stops, Fault.passes]⟩
      | raisesBefore interruption | raisesAfter interruption =>
          rw [rolling] at rolled
          exact ⟨_, Durable.bind_raised _ _ _ _ _ rolled, by simp [Fault.stops, Fault.passes]⟩
      | stopsBefore | stopsAfter =>
          rw [rolling] at rolled
          exact ⟨_, Durable.bind_stopped _ _ _ _ rolled, by simp [Fault.stops, Fault.passes]⟩
  | raisesBefore interruption | raisesAfter interruption =>
      rw [fault] at inspected
      exact ⟨_, Durable.bind_raised _ _ _ _ _ inspected, by simp [Fault.stops, Fault.passes]⟩
  | stopsBefore | stopsAfter =>
      rw [fault] at inspected
      exact ⟨_, Durable.bind_stopped _ _ _ _ inspected, by simp [Fault.stops, Fault.passes]⟩

section Update

variable (directory : Directory) (matching : Matches directory) (updated : Configuration) (registry : Registry)

def changes : Bool := decide (¬ Dict.Same registry directory.ledger.registry)

include matching in
theorem reconfigured_back (other : Directory) (owned : other.ledger = directory.ledger)
    (idle : directory.ledger.activeStages = []) :
    configure directory.ledger.registry (reconfigured registry other) = .ok other := by
  have stored := matches_stored directory matching
  rw [configure_done _ _ (reconfigured registry other) (matches_again directory matching)
    (by simp only [reconfigured, owned]; exact idle)]
  obtain ⟨config, staged, authority, ledger⟩ := other
  cases owned
  simp only [reconfigured, stored]

include matching in
theorem restore_reconfigured (faults : Faults) (error : Error) (other : Directory)
    (owned : other.ledger = directory.ledger)
    (idle : directory.ledger.activeStages = []) :
    ∃ ending, (restore faults directory.ledger.registry error).run (reconfigured registry other) =
        (if faults.inspect.passes && changes directory registry && faults.rollback.takes then other
          else reconfigured registry other, ending) ∧
      (ending = .stopped ↔
        (faults.inspect.stops || faults.inspect.passes && changes directory registry &&
        faults.rollback.stops) = true) := by
  have unmoved : Dict.Same (reconfigured registry other).ledger.registry directory.ledger.registry ↔
      Dict.Same registry directory.ledger.registry :=
    forall_congr' fun name => by rw [reconfigured, canonical_get registry name]
  by_cases same : Dict.Same registry directory.ledger.registry
  · have kept : changes directory registry = false := decide_eq_false (not_not.mpr same)
    simpa [kept] using restore_unchanged faults _ error (reconfigured registry other) (unmoved.mpr same)
  · have moved : changes directory registry = true := decide_eq_true same
    simpa [moved] using restore_changed faults _ error (reconfigured registry other) other (mt unmoved.mp same)
      (reconfigured_back directory matching registry other owned idle)

def attempted (faults : Faults) : Directory :=
  let base := if faults.replaces then promoted updated directory else staged updated directory
  if faults.configures && !faults.rollsBack (changes directory registry) then reconfigured registry base else base

theorem install_run (faults : Faults) (idle : directory.ledger.activeStages = [])
    (accepted : normalizeRegistry updated.resources = .ok registry) :
    (install faults updated).run (staged updated directory) =
      (if faults.configure.takes then
        reconfigured registry (if faults.configure.passes && faults.replace.takes then promoted updated directory
          else staged updated directory)
        else staged updated directory,
        if faults.configure.passes then faults.replace.ending else faults.configure.ending) := by
  have configured := Durable.step_done faults.configure (configure updated.resources) (staged updated directory)
    (reconfigured registry (staged updated directory)) (configure_done _ _ (staged updated directory) accepted idle)
  have replaced := Durable.step_done faults.replace promote (reconfigured registry (staged updated directory))
    (reconfigured registry (promoted updated directory)) rfl
  rw [install]
  cases faults.configure.goes with
  | on ending takes passes =>
      rw [ending, takes, if_pos rfl] at configured
      rw [Durable.bind_returned _ _ _ _ _ configured, replaced, takes, passes, Bool.true_and]
      cases faults.replace.takes <;> rfl
  | up error ending passes =>
      rw [ending] at configured
      rw [Durable.bind_raised _ _ _ _ _ configured, passes, ending]
      rfl
  | out ending passes =>
      rw [ending] at configured
      rw [Durable.bind_stopped _ _ _ _ configured, passes, ending]
      rfl

theorem unstarted (faults : Faults) (passes : faults.write.passes = false) :
    attempted directory updated registry faults = staged updated directory := by
  simp [attempted, Faults.replaces, Faults.configures, passes]

include matching in
theorem attempt_state (faults : Faults) (written : faults.write.passes = true)
    (idle : directory.ledger.activeStages = []) (accepted : normalizeRegistry updated.resources = .ok registry) :
    ∃ ending, (Durable.rescue (install faults updated) (restore faults directory.ledger.registry)).run
        (staged updated directory) = (attempted directory updated registry faults, ending) ∧
      (ending = .stopped ↔ faults.stops (changes directory registry) = true) := by
  have installs := install_run directory updated registry faults idle accepted
  -- after an exception the handler works on what the new registry was put over
  have handled : ∀ error base, base.ledger = directory.ledger → faults.raises = true → faults.configures = true →
      (install faults updated).run (staged updated directory) = (reconfigured registry base, .raised error) →
      ∃ ending, (Durable.rescue (install faults updated) (restore faults directory.ledger.registry)).run
          (staged updated directory) =
          (if faults.rollsBack (changes directory registry) then base else reconfigured registry base, ending) ∧
        (ending = .stopped ↔ (faults.inspect.stops ||
          faults.handles (changes directory registry) && faults.rollback.stops) = true) := by
    intro error base owned raised configured done
    obtain ⟨ending, restored, stopped⟩ := restore_reconfigured directory matching registry faults error base owned idle
    refine ⟨ending, (Durable.rescue_raised _ _ _ _ error done).trans ?_, ?_⟩
    · simpa only [Faults.rollsBack, Faults.handles, raised, configured, Bool.true_and, Bool.and_true] using restored
    · simpa only [Faults.handles, raised, configured, Bool.true_and, Bool.and_true] using stopped
  cases faults.configure.goes with
  | on ending takes passes raises stops =>
      have configured : faults.configures = true := by rw [Faults.configures, written, takes, Bool.and_self]
      have replaced : faults.replaces = faults.replace.takes := by rw [Faults.replaces, written, passes]; rfl
      have raised : faults.raises = faults.replace.raises := by
        rw [Faults.raises, written, raises, passes, Bool.true_and, Bool.false_or, Bool.true_and]
      have stopping : faults.stops (changes directory registry) = (faults.replace.stops ||
          faults.raises && faults.inspect.stops || faults.handles (changes directory registry) &&
          faults.rollback.stops) := by
        rw [Faults.stops, stops, passes, Bool.false_or, Bool.true_and]
      have result : attempted directory updated registry faults =
          if faults.rollsBack (changes directory registry) then
            (if faults.replace.takes then promoted updated directory else staged updated directory)
          else reconfigured registry
            (if faults.replace.takes then promoted updated directory else staged updated directory) := by
        rw [attempted, replaced, configured, Bool.true_and]
        cases faults.rollsBack (changes directory registry) <;> rfl
      rw [takes, passes, if_pos rfl, if_pos rfl, Bool.true_and] at installs
      rw [result, stopping]
      cases faults.replace.goes with
      | on ending _ _ raises stops =>
          rw [ending] at installs
          have calm : faults.rollsBack (changes directory registry) = false := by
            simp [Faults.rollsBack, Faults.handles, raised, raises]
          refine ⟨_, (Durable.rescue_returned _ _ _ _ () installs).trans (by rw [calm]; rfl), ?_⟩
          simp [stops, Faults.handles, raised, raises]
      | up error ending _ raises stops =>
          rw [ending] at installs
          have owned : (if faults.replace.takes then promoted updated directory else staged updated directory).ledger =
              directory.ledger := by split <;> rfl
          rw [stops, raised, raises, Bool.false_or, Bool.true_and]
          exact handled error _ owned (raised.trans raises) configured installs
      | out ending _ raises stops =>
          rw [ending] at installs
          have calm : faults.rollsBack (changes directory registry) = false := by
            simp [Faults.rollsBack, Faults.handles, raised, raises]
          exact ⟨_, (Durable.rescue_stopped _ _ _ _ installs).trans (by rw [calm]; rfl), by simp [stops]⟩
  | up error ending passes raises stops =>
      have replaced : faults.replaces = false := by simp [Faults.replaces, passes]
      have raised : faults.raises = true := by simp [Faults.raises, written, raises]
      have stopping : faults.stops (changes directory registry) =
          (faults.inspect.stops || faults.handles (changes directory registry) && faults.rollback.stops) := by
        rw [Faults.stops, stops, passes, raised]
        rfl
      rw [passes, ending, Bool.false_and, if_neg Bool.false_ne_true, if_neg Bool.false_ne_true] at installs
      rw [attempted, replaced, stopping]
      cases takes : faults.configure.takes with
      | true =>
          have configured : faults.configures = true := by rw [Faults.configures, written, takes, Bool.and_self]
          rw [takes, if_pos rfl] at installs
          obtain ⟨ending, done, stopped⟩ := handled error (staged updated directory) rfl raised configured installs
          refine ⟨ending, done.trans ?_, stopped⟩
          rw [configured]
          cases faults.rollsBack (changes directory registry) <;> rfl
      | false =>
          have configured : faults.configures = false := by rw [Faults.configures, takes, Bool.and_false]
          rw [takes, if_neg Bool.false_ne_true] at installs
          obtain ⟨ending, restored, stopped⟩ := restore_unchanged faults directory.ledger.registry error
            (staged updated directory) (Dict.Same.refl _)
          refine ⟨ending, (Durable.rescue_raised _ _ _ _ error installs).trans (restored.trans ?_), ?_⟩
          · rw [configured]
            rfl
          · simpa [Faults.handles, configured] using stopped
  | out ending passes raises stops =>
      have replaced : faults.replaces = false := by simp [Faults.replaces, passes]
      have calm : faults.rollsBack (changes directory registry) = false := by
        simp [Faults.rollsBack, Faults.handles, Faults.raises, raises, passes]
      rw [passes, ending, Bool.false_and, if_neg Bool.false_ne_true, if_neg Bool.false_ne_true] at installs
      refine ⟨_, (Durable.rescue_stopped _ _ _ (attempted directory updated registry faults) (installs.trans ?_)), ?_⟩
      · rw [attempted, replaced, calm, Faults.configures, written]
        cases faults.configure.takes <;> rfl
      · simp [Faults.stops, stops]

include matching in
theorem update_state (site : Site) (faults : Faults) (config : Configuration) (expected : Int)
    (valid : validateConfig site config = .ok ()) (positive : ¬ expected < 1)
    (prepared : prepareUpdate site config expected directory = .ok (updated, registry)) :
    ((updateConfiguration site faults config expected).run directory).1 =
      if faults.write.takes then
        if faults.cleans (changes directory registry) then
          { attempted directory updated registry faults with staged := none }
        else attempted directory updated registry faults
      else directory := by
  have facts := prepare_update_ok site config expected directory updated registry prepared
  have written := Durable.step_done faults.write (stage updated) directory (staged updated directory) rfl
  have settled : (reconcileConfiguration site faults.settle).run directory = (directory, .returned .unchanged) := by
    rw [reconcileConfiguration, Durable.bind_returned _ _ _ directory directory rfl, matching.quiet]
    rfl
  rw [updateConfiguration, valid, Durable.lift_ok, Durable.bind_returned _ _ _ directory () rfl,
    refuse, if_neg positive,
    Durable.lift_ok, Durable.bind_returned _ _ _ directory () rfl, Durable.bind_returned _ _ _ directory _ settled,
    Durable.bind_returned _ _ _ directory (updated, registry) (by rw [Durable.look_run, prepared]; rfl)]
  dsimp only
  rw [Durable.bind_returned _ _ _ directory directory.ledger.registry rfl]
  cases faults.write.goes with
  | on ending takes passes =>
      rw [ending, takes, if_pos rfl] at written
      rw [Durable.bind_returned _ _ _ _ _ written, takes, if_pos rfl,
        Durable.bind_state _ _ _ fun _ _ => rfl]
      obtain ⟨ending, attempt, stopped⟩ :=
        attempt_state directory matching updated registry faults passes facts.idle facts.accepted
      cases stops : faults.stops (changes directory registry) with
      | true =>
          rw [stopped.mpr stops] at attempt
          rw [Durable.ensure_stopped _ _ _ _ attempt, Faults.cleans, stops]
          simp
      | false =>
          have goes : ending ≠ .stopped := fun same => by
            rw [stopped.mp same] at stops
            cases stops
          rw [Durable.ensure_state _ _ _ _ _ attempt goes, cleanup_state, Faults.cleans, passes, stops]
          rfl
  | up error ending passes =>
      rw [ending] at written
      rw [Durable.bind_raised _ _ _ _ _ written, Faults.cleans, passes]
      rw [unstarted _ _ _ faults passes]
      cases faults.write.takes <;> rfl
  | out ending passes =>
      rw [ending] at written
      rw [Durable.bind_stopped _ _ _ _ written, Faults.cleans, passes]
      rw [unstarted _ _ _ faults passes]
      cases faults.write.takes <;> rfl

theorem replaces_configures (replaced : faults.replaces = true) : faults.configures = true := by
  rw [Faults.replaces, Bool.and_eq_true, Bool.and_eq_true] at replaced
  rw [Faults.configures, replaced.1.1, Fault.passes_takes _ replaced.1.2, Bool.and_self]

theorem configures_writes (configured : faults.configures = true) : faults.write.takes = true := by
  rw [Faults.configures, Bool.and_eq_true] at configured
  exact Fault.passes_takes _ configured.1

end Update

theorem reconcile_quiet (site : Site) (directory : Directory) (quiet : directory.staged = none) :
    (reconcileConfiguration site .none).run directory = (directory, .returned .unchanged) := by
  rw [reconcileConfiguration, Durable.bind_returned _ _ _ directory directory rfl, quiet]
  rfl

theorem reconcile_staged (site : Site) (directory : Directory) (candidate : Configuration)
    (kept : directory.staged = some candidate) (valid : validateConfig site candidate = .ok ())
    (authority : candidate.authority = directory.config.authority)
    (revision : candidate.revision = some (directory.config.revision.getD 1 + 1)) :
    (reconcileConfiguration site .none).run directory =
      if candidate.resourceDigest = some (registryDigest directory.ledger.registry) then
        (promoted candidate directory, .returned .committed)
      else if directory.config.resourceDigest = some (registryDigest directory.ledger.registry) then
        ({ directory with staged := none }, .returned .rolledBack)
      else (directory, .raised (.resource "staged configuration and resource ledger have unrelated revisions")) := by
  have promoting : promote directory = .ok (promoted candidate directory) := by simp [promote, kept, promoted]
  have discarding : discard directory = .ok { directory with staged := none } := by simp [discard, kept]
  rw [reconcileConfiguration, Durable.bind_returned _ _ _ directory directory rfl, kept]
  dsimp only
  rw [valid, Durable.lift_ok, Durable.bind_returned _ _ _ directory () rfl, refuse,
    if_neg (not_or.mpr ⟨not_not.mpr authority, not_not.mpr revision⟩), Durable.lift_ok,
    Durable.bind_returned _ _ _ directory () rfl]
  by_cases newer : candidate.resourceDigest = some (registryDigest directory.ledger.registry)
  · rw [if_pos newer, if_pos newer, Durable.bind_returned _ _ _ _ ()
      (Durable.step_done .none promote directory _ promoting)]
    rfl
  · rw [if_neg newer, if_neg newer]
    by_cases older : directory.config.resourceDigest = some (registryDigest directory.ledger.registry)
    · rw [if_pos older, if_pos older,
        Durable.bind_returned _ _ _ _ () (Durable.step_done .none discard directory _ discarding)]
      rfl
    · rw [if_neg older, if_neg older]
      rfl

end OrchestratorEngine.ResourceService
