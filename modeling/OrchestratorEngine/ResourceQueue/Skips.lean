import Mathlib.Data.List.Induction
import OrchestratorEngine.ResourceQueue.Blockers

set_option autoImplicit false

namespace OrchestratorEngine.ResourceQueue

open Foundation WorkerLease

def Justified (ledger : Ledger) : Prop :=
  ∀ stage ∈ ledger.stages, stage.state = .skipped → Doomed ledger stage

instance (ledger : Ledger) (stage : Stage) : Decidable (Doomed ledger stage) :=
  inferInstanceAs (Decidable (∃ other ∈ predecessors ledger stage, failedPredecessor other = true))

instance (ledger : Ledger) : Decidable (Justified ledger) :=
  inferInstanceAs (Decidable (∀ stage ∈ ledger.stages, stage.state = .skipped → Doomed ledger stage))

def Followed (ledger : Ledger) : Prop :=
  ∀ stage ∈ ledger.stages, stage.owning = true → ∀ other ∈ predecessors ledger stage, other.state = .passed

-- A completion that reports success spares the stages skipped on its account
-- when each has another failed predecessor; no stage may complete as skipped.
structure Lawful (ledger : Ledger) (call : Call) : Prop where
  spared : ∀ stage ∈ ledger.stages, stage.owning = true → ∀ released, Completes stage call .passed released →
    ∀ dependent ∈ ledger.stages, dependent.state = .skipped → stage ∈ predecessors ledger dependent →
      ∃ other ∈ predecessors ledger dependent, other.id ≠ stage.id ∧ failedPredecessor other = true
  kept : ∀ stage ∈ ledger.stages, stage.owning = true → ∀ released, Completes stage call .skipped released →
    (stage.allocation.without released).items ≠ []

theorem completes_call (first second : Stage) (call : Call) (outcome other : State) (released leaves : List Name)
    (completes : Completes first call outcome released) (again : Completes second call other leaves) :
    first.id = second.id := by
  cases completes with
  | finish _ _ _ _ =>
      generalize same : Call.finish first.id first.epoch outcome released _ = call at again
      cases again with
      | finish => exact (Call.finish.inj same).1
      | recover => cases same
      | abort => cases same
  | recover _ _ _ _ _ _ =>
      generalize same : Call.recover first.id first.epoch released _ = call at again
      cases again with
      | finish => cases same
      | recover => exact (Call.recover.inj same).1
      | abort => cases same
  | abort _ _ _ _ _ =>
      generalize same : Call.abortUnadmitted first.id first.epoch _ _ = call at again
      cases again with
      | finish => cases same
      | recover => cases same
      | abort => exact (Call.abortUnadmitted.inj same).1

theorem completes_move (stage other row : Stage) (call : Call) (outcome : State) (released : List Name)
    (completes : Completes stage call outcome released) (different : other.id ≠ stage.id)
    (moves : Moves call other row) :
    row.core = other.core := by
  obtain ⟨_, move⟩ := moves
  generalize row.core = core at move
  cases move with
  | stay => rfl
  | wait => cases completes
  | skip => cases completes
  | grant => cases completes
  | launch => cases completes
  | admitStage => cases completes
  | withdraw => cases completes
  | revoke => cases completes
  | complete _ _ _ _ again => exact absurd (completes_call other stage call _ _ _ _ again completes) different

variable (old new : Stage)

variable (call : Call)

theorem move_terminal (moves : Moves call old new) (final : old.state ∈ terminalStates) :
    new.core = old.core := by
  obtain ⟨_, move⟩ := moves
  generalize new.core = core at move ⊢
  have notOwning : old.owning = false := by
    revert final
    unfold Stage.owning
    cases old.state <;> decide
  cases move with
  | stay => rfl
  | wait _ _ _ waiting => rw [waiting] at final; exact absurd final (by decide)
  | skip _ waiting => rw [waiting] at final; exact absurd final (by decide)
  | grant _ _ _ _ waiting => rw [waiting] at final; exact absurd final (by decide)
  | launch _ granted => rw [granted] at final; exact absurd final (by decide)
  | admitStage _ launching => rw [launching] at final; exact absurd final (by decide)
  | withdraw waiting => rw [waiting] at final; exact absurd final (by decide)
  | revoke owner => rw [notOwning] at owner; cases owner
  | complete _ _ _ owner _ => rw [notOwning] at owner; cases owner

theorem failed_state (stage : Stage) : failedPredecessor stage = true ↔
    stage.state ∈ terminalStates ∧ stage.state ≠ .passed ∨ stage.state = .recoveryRequired ∧
    stage.outcome ≠ some .passed := by
  simp only [failedPredecessor, Bool.or_eq_true, Bool.and_eq_true, decide_eq_true_eq, List.mem_filter]

theorem move_failed (moves : Moves call old new) (failed : failedPredecessor old = true) :
    failedPredecessor new = true ∨ old.owning = true ∧ ∃ released, Completes old call .passed released := by
  rcases (failed_state old).mp failed with ⟨final, notPassed⟩ | ⟨recovering, provisional⟩
  · have state := core_state _ _ (move_terminal old new call moves final)
    exact .inl ((failed_state new).mpr (.inl ⟨state ▸ final, state ▸ notPassed⟩))
  · obtain ⟨_, move⟩ := moves
    generalize same : new.core = core at move
    have state : new.state = core.state := congrArg Core.state same
    have outcome : new.outcome = core.outcome := congrArg Core.outcome same
    cases move with
    | stay => exact .inl ((failed_state new).mpr (.inr ⟨state.trans recovering, outcome ▸ provisional⟩))
    | wait _ _ _ waiting => cases recovering.symm.trans waiting
    | skip _ waiting => cases recovering.symm.trans waiting
    | grant _ _ _ _ waiting => cases recovering.symm.trans waiting
    | launch _ granted => cases recovering.symm.trans granted
    | admitStage _ launching => cases recovering.symm.trans launching
    | withdraw waiting => cases recovering.symm.trans waiting
    | revoke => exact .inl ((failed_state new).mpr (.inr ⟨state.trans recovering, outcome ▸ provisional⟩))
    | complete _ reported released owner completes =>
        by_cases passed : reported = .passed
        · subst passed
          exact .inr ⟨owner, released, completes⟩
        · refine .inl ((failed_state new).mpr ?_)
          have reportedOutcome : new.outcome = some reported := outcome
          simp only [Core.complete] at state
          by_cases free : (old.core.allocation.without released).items = []
          · rw [if_pos free] at state
            exact .inl ⟨state ▸ completes_final old call reported released completes, state ▸ passed⟩
          · rw [if_neg free] at state
            exact .inr ⟨state, by simpa [reportedOutcome] using passed⟩

theorem move_skipped (moves : Moves call old new) (skipped : new.state = .skipped)
    (other : ∀ unavailable, call ≠ .schedule unavailable) :
    old.state = .skipped ∨ old.owning = true ∧ ∃ released, Completes old call .skipped released ∧
      (old.allocation.without released).items = [] := by
  obtain ⟨_, move⟩ := moves
  generalize same : new.core = core at move
  have state : core.state = .skipped := (congrArg Core.state same).symm.trans skipped
  cases move with
  | stay => exact .inl state
  | wait unavailable => exact absurd rfl (other unavailable)
  | skip unavailable => exact absurd rfl (other unavailable)
  | grant => cases state
  | launch => cases state
  | admitStage => cases state
  | withdraw => cases state
  | revoke => exact .inl state
  | complete _ outcome released owner completes =>
      simp only [Core.complete] at state
      by_cases free : (old.core.allocation.without released).items = []
      · rw [if_pos free] at state
        subst state
        exact .inr ⟨owner, released, completes, free⟩
      · rw [if_neg free] at state
        cases state

theorem move_owning (moves : Moves call old new) (owner : new.owning = true)
    (other : ∀ unavailable, call ≠ .schedule unavailable) : old.owning = true := by
  obtain ⟨_, move⟩ := moves
  generalize same : new.core = core at move
  have state : new.state = core.state := congrArg Core.state same
  rw [Stage.owning, state, decide_eq_true_eq] at owner
  cases move with
  | stay => exact decide_eq_true owner
  | wait unavailable => exact absurd rfl (other unavailable)
  | skip unavailable => exact absurd rfl (other unavailable)
  | grant unavailable => exact absurd rfl (other unavailable)
  | launch _ granted => simp [Stage.owning, granted, owningStates]
  | admitStage _ launching => simp [Stage.owning, launching, owningStates]
  | withdraw => simp [owningStates] at owner
  | revoke owned => exact owned
  | complete _ _ _ owned _ => exact owned

variable (host : Host)

variable (before after : Ledger)

theorem performed_moves (call : Call) (answer : Answer)
    (consistent : Consistent host before) (performed : Performed host before call after answer) (old : Stage)
    (stored : old ∈ before.stages) : ∃ new ∈ after.stages, Moves call old new := by
  cases performed with
  | configured raw registry _ _ configures =>
      rw [configures.result]
      exact ⟨old, stored, Moves.refl _ old⟩
  | submitted _ _ _ _ _ _ submits =>
      cases submits with
      | replayed => exact ⟨old, stored, Moves.refl _ old⟩
      | inserted _ _ rows _ _ _ _ inserted =>
          exact ⟨old, inserted.stages ▸ List.mem_append_left rows stored, Moves.refl _ old⟩
  | scheduled unavailable _ _ _ _ scheduled =>
      exact forall₂_mem_left _ _ _ (scheduled_moves consistent.ids scheduled) old stored
  | subscribed _ _ _ _ _ resubscribes => exact ⟨old, resubscribes.stages ▸ stored, Moves.refl _ old⟩
  | moved _ _ _ _ _ moves => exact forall₂_mem_left _ _ _ moves old stored

theorem performed_predecessor (call : Call) (answer : Answer)
    (consistent : Consistent host before) (performed : Performed host before call after answer) (old row other : Stage)
    (same : row.fixed = old.fixed) (listed : other ∈ predecessors before old) :
    ∃ later ∈ predecessors after row, Moves call other later := by
  obtain ⟨member, request, name⟩ := (mem_predecessors before old other).mp listed
  obtain ⟨later, present, moves⟩ := performed_moves host before after call answer consistent performed other member
  have request' : row.request = old.request := congrArg Fixed.request same
  have follows : row.after = old.after := congrArg Fixed.after same
  have laterRequest : later.request = other.request := congrArg Fixed.request moves.1
  have laterName : later.name = other.name := congrArg Fixed.name moves.1
  refine ⟨later, (mem_predecessors after row later).mpr ⟨present, ?_, ?_⟩, moves⟩
  · rw [laterRequest, request', request]
  · rw [laterName, follows]
    exact name

theorem performed_predecessor_back (call : Call) (answer : Answer)
    (consistent : Consistent host before) (performed : Performed host before call after answer) (old row later : Stage)
    (stored : old ∈ before.stages) (same : row.fixed = old.fixed) (listed : later ∈ predecessors after row) :
    ∃ other ∈ predecessors before old, Moves call other later := by
  obtain ⟨present, request, name⟩ := (mem_predecessors after row later).mp listed
  have request' : row.request = old.request := congrArg Fixed.request same
  have follows : row.after = old.after := congrArg Fixed.after same
  rcases performed_origin host before after call answer consistent performed later present with ⟨other, member,
    moves⟩ | ⟨fresh, _⟩
  · have laterRequest : later.request = other.request := congrArg Fixed.request moves.1
    have laterName : later.name = other.name := congrArg Fixed.name moves.1
    refine ⟨other, (mem_predecessors before old other).mpr ⟨member, ?_, ?_⟩, moves⟩
    · rw [← laterRequest, request, request']
    · rw [← laterName, ← follows]
      exact name
  · rw [request, request'] at fresh
    exact absurd (consistent.requested old stored) fresh

theorem completed_row (call : Call) (answer : Answer) (stage : Stage)
    (outcome : State) (released : List Name) (unique : (stageIds before).Nodup) (stored : stage ∈ before.stages)
    (completes : Completes stage call outcome released) (kind : outcome = .passed ∨ outcome = .skipped)
    (done : perform host before call = .ok (after, answer)) :
    ∃ row ∈ after.stages, row.fixed = stage.fixed ∧ row.core = stage.core.complete outcome released := by
  have found : before.stage stage.id = .ok stage := by
    rw [Ledger.stage, row_of_mem Stage.id before.stages unique stage stored]
    rfl
  cases completes with
  | finish _ _ evidence final =>
      obtain ⟨next, finished, rest⟩ := (bind_ok_iff _ _ _).mp done
      cases rest
      simp only [Ledger.finish, bind_ok_iff, refuse_ok_iff, exists_const, not_not] at finished
      exact (complete_moves host (.finish stage.id stage.epoch outcome released evidence) stage.id stage.epoch outcome
        released evidence before after stage unique found (fun _ _ => .finish outcome released evidence final)
        finished.2).2.2
  | recover _ _ evidence final recovering recorded =>
      obtain ⟨next, recovered, rest⟩ := (bind_ok_iff _ _ _).mp done
      cases rest
      simp only [Ledger.recover, Ledger.finish, found, bind_ok, bind_ok_iff, refuse_ok_iff, exists_const, not_not,
        ← recorded] at recovered
      exact (complete_moves host (.recover stage.id stage.epoch released evidence) stage.id stage.epoch outcome
        released evidence before after stage unique found
        (fun _ _ => .recover outcome released evidence final recovering recorded) recovered.2.2).2.2
  | abort _ _ _ _ outcomes => rcases kind with rfl | rfl <;> rcases outcomes with wrong | wrong <;> cases wrong

theorem performed_followed (call : Call) (answer : Answer)
    (consistent : Consistent host before) (followed : Followed before)
    (performed : Performed host before call after answer) : Followed after := by
  intro row present owner later listed
  have settled : ∀ old ∈ before.stages, row.fixed = old.fixed → (∀ other ∈ predecessors before old,
    other.state = .passed) →
      later.state = .passed := by
    intro old stored same passed
    obtain ⟨other, member, moves⟩ :=
      performed_predecessor_back host before after call answer consistent performed old row later stored same listed
    have was := passed other member
    rw [core_state _ _ (move_terminal other later call moves (by simp [was, terminalStates])), was]
  rcases performed_origin host before after call answer consistent performed row present with
    ⟨old, stored, moves⟩ | ⟨_, waiting, _⟩
  · by_cases other : ∀ unavailable, call ≠ .schedule unavailable
    · exact settled old stored moves.1 (followed old stored (move_owning old row call moves owner other))
    · cases performed with
      | scheduled unavailable opened placements _ granted scheduled =>
          obtain ⟨old, stored, fixed, landed⟩ := forall₂_mem_right _ _ _
            (scheduled_rows consistent.ids scheduled) row present
          cases landed with
          | idle _ core => exact settled old stored fixed (followed old stored (core_owning _ _ core ▸ owner))
          | skipped _ _ core =>
              have state : row.state = .skipped := congrArg Core.state core
              simp [Stage.owning, state, owningStates] at owner
          | closed waiting _ core =>
              have state : row.state = old.state := congrArg Core.state core
              simp [Stage.owning, state, waiting, owningStates] at owner
          | placed _ gate _ _ _ _ _ _ _ _ =>
              exact gate.passed later (predecessors_fixed after old row fixed ▸ listed)
      | moved _ _ _ other' _ _ => exact absurd other' other
      | configured => exact absurd (by simp) other
      | submitted => exact absurd (by simp) other
      | subscribed => exact absurd (by simp) other
  · rw [waiting_not_owning row waiting] at owner
    cases owner

theorem run_followed (calls : List Call) : Followed (run host calls) :=
  (runs_keep host Followed
    (fun before call after answer consistent followed _ _ performed =>
      performed_followed host before after call answer consistent followed performed)
    calls Ledger.create (create_consistent host) (fun stage listed => by cases listed)).2

theorem performed_doomed (call : Call) (answer : Answer)
    (consistent : Consistent host before) (lawful : Lawful before call)
    (performed : Performed host before call after answer) (old row : Stage) (stored : old ∈ before.stages)
    (skipped : old.state = .skipped) (same : row.fixed = old.fixed) (doomed : Doomed before old) :
    Doomed after row := by
  obtain ⟨other, listed, failed⟩ := doomed
  obtain ⟨later, present, moves⟩ :=
    performed_predecessor host before after call answer consistent performed old row other same listed
  rcases move_failed other later call moves failed with still | ⟨owner, released, completes⟩
  · exact ⟨later, present, still⟩
  · obtain ⟨second, listed', different, failed'⟩ := lawful.spared other
      ((mem_predecessors _ _ _).mp listed).1 owner released
      completes old stored skipped listed
    obtain ⟨later', present', moves'⟩ :=
      performed_predecessor host before after call answer consistent performed old row second same listed'
    rcases move_failed second later' call moves' failed' with still | ⟨_, leaves, again⟩
    · exact ⟨later', present', still⟩
    · exact absurd (completes_call second other call _ _ leaves released again completes) different

theorem lawful_justified (call : Call) (answer : Answer)
    (consistent : Consistent host before) (justified : Justified before) (lawful : Lawful before call)
    (performed : Performed host before call after answer) : Justified after := by
  intro row present skipped
  rcases performed_origin host before after call answer consistent performed row present with
    ⟨old, stored, moves⟩ | ⟨_, waiting, _⟩
  · by_cases other : ∀ unavailable, call ≠ .schedule unavailable
    · rcases move_skipped old row call moves skipped other with was | ⟨owner, released, completes, free⟩
      · exact performed_doomed host before after call answer consistent lawful performed old row stored was moves.1
          (justified old stored was)
      · exact absurd free (lawful.kept old stored owner released completes)
    · cases performed with
      | scheduled unavailable opened placements _ granted scheduled =>
          obtain ⟨old, stored, fixed, landed⟩ := forall₂_mem_right _ _ _
            (scheduled_rows consistent.ids scheduled) row present
          have moved : Doomed after old → Doomed after row := fun doomed => by
            obtain ⟨other, listed, failed⟩ := doomed
            exact ⟨other, (predecessors_fixed after old row fixed).symm ▸ listed, failed⟩
          cases landed with
          | idle _ core =>
              exact moved (advances_doomed scheduled.advances old
                (justified old stored ((core_state _ _ core).symm.trans skipped)))
          | skipped _ doomed _ => exact moved doomed
          | closed waiting _ core =>
              have state : row.state = old.state := congrArg Core.state core
              cases (state.trans waiting).symm.trans skipped
          | placed waiting _ stage verdict _ _ _ _ opened core =>
              have state : stage.state = .waiting := (congrArg Core.state opened).trans waiting
              cases verdict with
              | granted _ _ => cases skipped.symm.trans (congrArg Core.state core)
              | held _ => cases skipped.symm.trans ((congrArg Core.state core).trans state)
      | moved _ _ _ other' _ _ => exact absurd other' other
      | configured => exact absurd (by simp) other
      | submitted => exact absurd (by simp) other
      | subscribed => exact absurd (by simp) other
  · cases waiting.symm.trans skipped

theorem justified_lawful (call : Call) (answer : Answer)
    (consistent : Consistent host before) (followed : Followed before) (justified : Justified after)
    (done : perform host before call = .ok (after, answer)) : Lawful before call := by
  have performed := perform_performed host before after call answer consistent done
  refine ⟨fun stage stored owner released completes dependent listed skipped precedes => ?_,
    fun stage stored owner released completes free => ?_⟩
  · obtain ⟨row, present, fixed, core⟩ := completed_row host before after call answer stage .passed
      released consistent.ids
      stored completes (.inl rfl) done
    obtain ⟨new, kept, moves⟩ := performed_moves host before after call answer consistent performed dependent listed
    have state := core_state _ _ (move_terminal dependent new call moves (by simp [skipped, terminalStates]))
    obtain ⟨later, after_, failed⟩ := justified new kept (state.trans skipped)
    obtain ⟨other, member, moved⟩ :=
      performed_predecessor_back host before after call answer consistent performed dependent new later
      listed moves.1 after_
    have different : other.id ≠ stage.id := by
      intro same
      have here : later = row := row_unique Stage.id after.stages (performed_consistent host before after call
        answer consistent
        performed).ids later row ((mem_predecessors _ _ _).mp after_).1 present
          ((fixed_id _ _ moved.1).trans (same.trans (fixed_id _ _ fixed).symm))
      have outcome : row.outcome = some .passed := congrArg Core.outcome core
      rw [here] at failed
      rcases (failed_state row).mp failed with ⟨final, notPassed⟩ | ⟨_, provisional⟩
      · have state : row.state = (stage.core.complete .passed released).state := congrArg Core.state core
        simp only [Core.complete] at state
        split at state
        · exact notPassed state
        · rw [state] at final
          exact absurd final (by decide)
      · exact provisional outcome
    have same := completes_move stage other later call .passed released completes different moved
    have outcome : later.outcome = other.outcome := congrArg Core.outcome same
    refine ⟨other, member, different, ?_⟩
    rw [failed_state] at failed ⊢
    rwa [core_state _ _ same, outcome] at failed
  · obtain ⟨row, present, fixed, core⟩ := completed_row host before after call answer stage .skipped
      released consistent.ids
      stored completes (.inr rfl) done
    have state : row.state = .skipped := by
      have whole : row.state = (stage.core.complete .skipped released).state := congrArg Core.state core
      rw [whole]
      exact if_pos free
    obtain ⟨later, after_, failed⟩ := justified row present state
    obtain ⟨other, member, moved⟩ :=
      performed_predecessor_back host before after call answer consistent performed stage row later stored fixed after_
    have passed := followed stage stored owner other member
    have still := core_state _ _ (move_terminal other later call moved (by simp [passed, terminalStates]))
    exact failed_not_passed later failed (still.trans passed)

theorem run_justified (host : Host) (calls : List Call) :
    (∀ early, early <+: calls → Justified (run host early)) ↔
      ∀ early call late, calls = early ++ call :: late → ∀ after answer,
        perform host (run host early) call = .ok (after, answer) → Lawful (run host early) call := by
  constructor
  · rintro justified early call late rfl after answer done
    have next : run host (early ++ [call]) = after := by
      rw [run_append]
      exact commit_ok host _ after call answer done
    have reached := justified (early ++ [call]) ⟨late, by simp⟩
    rw [next] at reached
    exact justified_lawful host _ after call answer (run_consistent host early) (run_followed host early) reached done
  · intro lawful early before
    induction early using List.reverseRecOn with
    | nil => exact fun stage listed => by cases listed
    | append_singleton early call ih =>
        obtain ⟨late, rfl⟩ := before
        have justified := ih ⟨call :: late, by simp⟩
        rw [run_append]
        change Justified (commit host (run host early) call)
        rcases commit_cases host (run host early) call (run_consistent host early) with same | ⟨answer, done, performed⟩
        · rw [same]
          exact justified
        · exact lawful_justified host _ _ call answer (run_consistent host early) justified
            (lawful early call late (by simp) _ answer done) performed

def lateSuccess : List Call :=
  let plan : Plan := { stages := [
    { id := "build", needs := some [{ resource := some "gpu" }] },
    { id := "test", needs := some [{ resource := some "gpu" }], after := some ["build"] }] }
  [.configure (Dict.single "gpu" { release := some .process }), .submit "lab" "first" plan none, .schedule [],
    .attach "ii" 1 none, .admitStage "ii" "ttttttttt",
    .finish "ii" 1 .failed [] { detail := "supervisor_uncertain" }, .schedule [],
    .finish "ii" 1 .passed ["gpu"] { quiescent := some true }]

theorem late_success_unjustified :
    (run countingHost lateSuccess).stages.map (fun stage => (stage.name, stage.state)) =
        [("build", .passed), ("test", .skipped)] ∧
      ¬ Justified (run countingHost lateSuccess) := by decide +kernel

end OrchestratorEngine.ResourceQueue
