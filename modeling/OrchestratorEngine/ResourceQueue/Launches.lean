import OrchestratorEngine.ResourceQueue.Runs

set_option autoImplicit false

namespace OrchestratorEngine.ResourceQueue

open Foundation WorkerLease

-- How far a stage has come. Work that was admitted runs, cleans up or is
-- quarantined, and no operation leads back.
def State.rank : State → Nat
  | .waiting => 0
  | .granted => 1
  | .launching => 2
  | .running => 3
  | .cleanup => 3
  | .recoveryRequired => 3
  | .passed => 4
  | .failed => 4
  | .cancelled => 4
  | .invalidated => 4
  | .skipped => 4

structure Ages (old new : Stage) : Prop where
  fixed : new.fixed = old.fixed
  rank : old.state.rank ≤ new.state.rank
  epoch : old.epoch ≤ new.epoch
  cancelRequested : old.cancelRequested = true → new.cancelRequested = true

theorem Ages.refl (stage : Stage) : Ages stage stage := ⟨rfl, Nat.le_refl _, Nat.le_refl _, id⟩

theorem Ages.trans {first second third : Stage} (lower : Ages first second) (upper : Ages second third) :
    Ages first third :=
  ⟨upper.fixed.trans lower.fixed, Nat.le_trans lower.rank upper.rank, Nat.le_trans lower.epoch upper.epoch,
    fun requested => upper.cancelRequested (lower.cancelRequested requested)⟩

theorem terminal_rank (state : State) (final : state ∈ terminalStates) : state.rank = 4 := by
  revert final
  cases state <;> decide

theorem owning_rank (state : State) (owner : state ∈ owningStates) : state.rank ≤ 3 := by
  revert owner
  cases state <;> decide

theorem completes_final (stage : Stage) (call : Call) (outcome : State) (released : List Name)
    (completes : Completes stage call outcome released) : outcome ∈ terminalStates := by
  cases completes with
  | finish _ _ _ final => exact final
  | recover _ _ _ final => exact final
  | abort _ _ _ _ outcomes => rcases outcomes with rfl | rfl <;> decide

theorem completed_rank (core : Core) (outcome : State) (released : List Name) (final : outcome ∈ terminalStates) :
    3 ≤ (core.complete outcome released).state.rank := by
  simp only [Core.complete]
  split
  · rw [terminal_rank outcome final]
    decide
  · exact Nat.le_refl 3

theorem move_ages (old new : Stage) (call : Call) (moves : Moves call old new) : Ages old new := by
  obtain ⟨fixed, move⟩ := moves
  generalize same : new.core = core at move
  have state : new.state = core.state := congrArg Core.state same
  have epoch : new.epoch = core.epoch := congrArg Core.epoch same
  have requested : new.cancelRequested = core.cancelRequested := congrArg Core.cancelRequested same
  refine ⟨fixed, ?_, ?_, ?_⟩
  · rw [state]
    cases move with
    | stay => exact Nat.le_refl _
    | wait => exact Nat.le_refl _
    | skip _ waiting => rw [waiting]; exact Nat.zero_le _
    | grant _ _ _ _ waiting => rw [waiting]; exact Nat.zero_le _
    | launch _ granted => rw [granted]; exact Nat.le_succ 1
    | admitStage _ launching => rw [launching]; exact Nat.le_succ 2
    | withdraw waiting => rw [waiting]; exact Nat.zero_le _
    | revoke => exact Nat.le_refl _
    | complete _ outcome released owner completes =>
        exact Nat.le_trans (owning_rank old.state (of_decide_eq_true owner))
          (completed_rank old.core outcome released (completes_final old call outcome released completes))
  · rw [epoch]
    cases move with
    | grant => exact Nat.le_succ _
    | _ => exact Nat.le_refl _
  · rw [requested]
    cases move with
    | revoke => exact fun _ => rfl
    | _ => exact id

structure Lasting (relation : Stage → Stage → Prop) : Prop where
  refl : ∀ stage, relation stage stage
  trans : ∀ first second third, relation first second → relation second third → relation first third
  moved : ∀ call old new, Moves call old new → relation old new

def Rows (relation : Stage → Stage → Prop) (before after : Ledger) : Prop :=
  ∀ old ∈ before.stages, ∃ new ∈ after.stages, relation old new

variable {relation : Stage → Stage → Prop}

theorem Lasting.kept (lasting : Lasting relation) {before after : Ledger} (wider : before.stages ⊆ after.stages) :
    Rows relation before after := fun old stored => ⟨old, wider stored, lasting.refl old⟩

theorem Lasting.moves (lasting : Lasting relation) {before after : Ledger} (call : Call)
    (moves : List.Forall₂ (Moves call) before.stages after.stages) : Rows relation before after := by
  intro old stored
  obtain ⟨new, present, move⟩ := forall₂_mem_left _ _ _ moves old stored
  exact ⟨new, present, lasting.moved call old new move⟩

variable (host : Host)

variable (before after : Ledger)

theorem performed_rows (lasting : Lasting relation) (call : Call) (answer : Answer)
    (consistent : Consistent host before) (performed : Performed host before call after answer) :
    Rows relation before after := by
  cases performed with
  | configured _ _ _ _ configures => exact lasting.kept (by rw [configures.result]; exact List.Subset.refl _)
  | submitted _ _ _ _ _ _ submits =>
      cases submits with
      | replayed => exact lasting.kept (List.Subset.refl _)
      | inserted _ _ rows _ _ _ _ inserted =>
          exact lasting.kept fun _ stored => inserted.stages ▸ List.mem_append_left rows stored
  | scheduled unavailable _ _ _ _ scheduled => exact lasting.moves _ (scheduled_moves consistent.ids scheduled)
  | subscribed _ _ _ _ _ resubscribes => exact lasting.kept fun _ stored => resubscribes.stages ▸ stored
  | moved _ _ _ _ _ moves => exact lasting.moves call moves

variable (early late : List Call)

theorem run_rows (lasting : Lasting relation) : Rows relation (run host early) (run host (early ++ late)) := by
  rw [run_append]
  refine (runs_keep host (Rows relation (run host early)) (fun before call after answer consistent rows _
    _ performed => ?_)
    late (run host early) (run_consistent host early) (lasting.kept (List.Subset.refl _))).2
  intro old stored
  obtain ⟨middle, kept, lower⟩ := rows old stored
  obtain ⟨new, present, upper⟩ := performed_rows host before after lasting call answer consistent performed middle kept
  exact ⟨new, present, lasting.trans _ _ _ lower upper⟩

theorem ages_last : Lasting Ages :=
  ⟨Ages.refl, fun _ _ _ => Ages.trans, fun call old new => move_ages old new call⟩

theorem performed_ages (call : Call) (answer : Answer) (consistent : Consistent host before)
    (performed : Performed host before call after answer) : Rows Ages before after :=
  performed_rows host before after ages_last call answer consistent performed

theorem run_aged (old new : Stage) (stored : old ∈ (run host early).stages)
    (present : new ∈ (run host (early ++ late)).stages) (same : new.id = old.id) : Ages old new := by
  obtain ⟨row, kept, ages⟩ := run_rows host early late ages_last old stored
  have here : row = new := row_unique Stage.id _ (run_consistent host (early ++ late)).ids row new kept present
    ((fixed_id _ _ ages.fixed).trans same.symm)
  exact here ▸ ages

theorem admit_starts (id : Id) (token : Token) (admitted : Stage)
    (consistent : Consistent host before)
    (done : perform host before (.admitStage id token) = .ok (after, .admitted admitted)) :
    ∃ stage ∈ before.stages, stage.id = id ∧ stage.state = .launching ∧ stage.cancelRequested = false ∧
      admitted ∈ after.stages ∧ admitted.fixed = stage.fixed ∧ admitted.core =
      { stage.core with state := .running } := by
  obtain ⟨⟨next, row⟩, done, rest⟩ := (bind_ok_iff _ _ _).mp done
  cases rest
  exact (admit_moves host id token before after admitted consistent.ids done).2.2

theorem abort_starts (id : Id) (epoch : Nat) (token : Option Token)
    (identity : Option Identity) (consistent : Consistent host before)
    (done : perform host before (.abortUnadmitted id epoch token identity) = .ok (after, .aborted true)) :
    ∃ stage ∈ before.stages, stage.id = id ∧ stage.epoch = epoch ∧ stage.state = .launching ∧
      ∃ row ∈ after.stages, row.id = id ∧ 3 ≤ row.state.rank := by
  obtain ⟨⟨next, released⟩, aborted, rest⟩ := (bind_ok_iff _ _ _).mp done
  cases rest
  rcases abort_unadmitted_moves host id epoch token identity before after true consistent.ids aborted with
    ⟨wrong, _⟩ | ⟨_, _, _, stage, listed, rfl, rfl, launching, row, written, fixed, outcome, final, core⟩
  · cases wrong
  · have state : row.state = (stage.core.complete outcome stage.allocation.keys).state := congrArg Core.state core
    exact ⟨stage, listed, rfl, rfl, launching, row, written, fixed_id _ _ fixed, state ▸ completed_rank _ _ _ final⟩

def Admits (host : Host) (ledger : Ledger) (id : Id) (token : Token) : Prop :=
  ∃ after admitted, perform host ledger (.admitStage id token) = .ok (after, .admitted admitted)

def Aborts (host : Host) (ledger : Ledger) (id : Id) (epoch : Nat) (token : Option Token)
    (identity : Option Identity) : Prop :=
  ∃ after, perform host ledger (.abortUnadmitted id epoch token identity) = .ok (after, .aborted true)

theorem commit_ok (call : Call) (answer : Answer)
    (done : perform host before call = .ok (after, answer)) : commit host before call = after := by
  rw [commit, done]

theorem launch_spent (call : Call) (id : Id) (row old : Stage)
    (written : row ∈ (commit host (run host early) call).stages) (same : row.id = id) (spent : 3 ≤ row.state.rank)
    (present : old ∈ (run host (early ++ call :: late)).stages) (again : old.id = id) : old.state ≠ .launching := by
  intro launching
  have step : commit host (run host early) call = run host (early ++ [call]) := by
    rw [run_append]
    rfl
  rw [step] at written
  have split : early ++ call :: late = (early ++ [call]) ++ late := by simp
  rw [split] at present
  have ages := run_aged host (early ++ [call]) late row old written present (again.trans same.symm)
  have rank := ages.rank
  rw [launching] at rank
  exact absurd (Nat.le_trans spent rank) (by decide)

theorem admitted_row (early : List Call) (id : Id) (token : Token)
    (admits : Admits host (run host early) id token) :
    ∃ row ∈ (commit host (run host early) (.admitStage id token)).stages, row.id = id ∧ 3 ≤ row.state.rank := by
  obtain ⟨after, admitted, done⟩ := admits
  obtain ⟨stage, _, rfl, _, _, written, fixed, core⟩ :=
    admit_starts host _ after id token admitted (run_consistent host early) done
  have state : admitted.state = .running := congrArg Core.state core
  rw [commit_ok host _ after _ _ done]
  exact ⟨admitted, written, fixed_id _ _ fixed, by rw [state]; exact Nat.le_refl 3⟩

theorem aborted_row (early : List Call) (id : Id) (epoch : Nat) (token : Option Token)
    (identity : Option Identity) (aborts : Aborts host (run host early) id epoch token identity) :
    ∃ row ∈ (commit host (run host early) (.abortUnadmitted id epoch token identity)).stages,
      row.id = id ∧ 3 ≤ row.state.rank := by
  obtain ⟨after, done⟩ := aborts
  obtain ⟨_, _, _, _, _, found⟩ := abort_starts host _ after id epoch token identity (run_consistent host early) done
  rw [commit_ok host _ after _ _ done]
  exact found

theorem admits_launching (calls : List Call) (id : Id) (token : Token)
    (admits : Admits host (run host calls) id token) :
    ∃ stage ∈ (run host calls).stages, stage.id = id ∧ stage.state = .launching ∧ stage.cancelRequested = false := by
  obtain ⟨after, admitted, done⟩ := admits
  obtain ⟨stage, listed, same, launching, allowed, _⟩ :=
    admit_starts host _ after id token admitted (run_consistent host calls) done
  exact ⟨stage, listed, same, launching, allowed⟩

theorem aborts_launching (calls : List Call) (id : Id) (epoch : Nat) (token : Option Token)
    (identity : Option Identity) (aborts : Aborts host (run host calls) id epoch token identity) :
    ∃ stage ∈ (run host calls).stages, stage.id = id ∧ stage.state = .launching := by
  obtain ⟨after, done⟩ := aborts
  obtain ⟨stage, listed, same, _, launching, _⟩ :=
    abort_starts host _ after id epoch token identity (run_consistent host calls) done
  exact ⟨stage, listed, same, launching⟩

-- After a cancellation every stage of the request has ended or carries the
-- request to stop, and the request gains no further stage.
def Revoked (request : Id) (ledger : Ledger) : Prop :=
  request ∈ ledger.requests.map Request.id ∧
    ∀ stage ∈ ledger.stages, stage.request = request → stage.cancelRequested = true ∨ stage.state ∈ terminalStates

theorem ages_revoked (old new : Stage) (ages : Ages old new)
    (revoked : old.cancelRequested = true ∨ old.state ∈ terminalStates) :
    new.cancelRequested = true ∨ new.state ∈ terminalStates := by
  rcases revoked with requested | final
  · exact .inl (ages.cancelRequested requested)
  · have rank := ages.rank
    rw [terminal_rank old.state final] at rank
    refine .inr ?_
    revert rank
    cases new.state <;> decide

theorem performed_requests (call : Call) (answer : Answer)
    (performed : Performed host before call after answer) :
    ∀ id ∈ before.requests.map Request.id, id ∈ after.requests.map Request.id := by
  intro id listed
  cases performed with
  | configured raw registry _ _ configures =>
      rw [configures.result]
      exact listed
  | submitted _ _ _ _ _ _ submits =>
      cases submits with
      | replayed => exact listed
      | inserted _ _ _ _ _ _ _ inserted =>
          obtain ⟨moment, requests⟩ := inserted.requests
          rw [requests, List.map_append]
          exact List.mem_append_left _ listed
  | scheduled _ _ _ _ _ scheduled => rwa [scheduled.requests]
  | subscribed _ _ _ _ _ resubscribes =>
      rwa [forall₂_keys Request.id _ _ _ (fun _ _ ⟨_, same⟩ => same ▸ rfl) resubscribes.requests]
  | moved _ _ _ _ keeps _ => rwa [keeps.requests]

theorem performed_origin (call : Call) (answer : Answer)
    (consistent : Consistent host before) (performed : Performed host before call after answer) (row : Stage)
    (present : row ∈ after.stages) :
    (∃ old ∈ before.stages, Moves call old row) ∨
      row.request ∉ before.requests.map Request.id ∧ row.state = .waiting ∧ row.epoch = 0 ∧
        row.cancelRequested = false := by
  cases performed with
  | configured raw registry _ _ configures =>
      rw [configures.result] at present
      exact .inl ⟨row, present, Moves.refl _ row⟩
  | submitted _ _ plan _ _ id submits =>
      cases submits with
      | replayed => exact .inl ⟨row, present, Moves.refl _ row⟩
      | inserted _ _ rows _ _ _ _ inserted =>
          rw [inserted.stages] at present
          rcases List.mem_append.mp present with old | new
          · exact .inl ⟨row, old, Moves.refl _ row⟩
          · obtain ⟨definition, _, fresh⟩ := forall₂_mem_right _ _ _ inserted.rows row new
            refine .inr ⟨fun listed => ?_, congrArg Core.state fresh.core, congrArg Core.epoch fresh.core,
              congrArg Core.cancelRequested fresh.core⟩
            obtain ⟨request, member, same⟩ := List.mem_map.mp listed
            obtain ⟨draw, early, drawn⟩ := consistent.requestDrawn request member
            have clash := host.distinct (drawn.symm.trans (same.trans (fresh.request.trans inserted.drawn)))
            omega
  | scheduled unavailable _ _ _ _ scheduled =>
      exact .inl (forall₂_mem_right _ _ _ (scheduled_moves consistent.ids scheduled) row present)
  | subscribed _ _ _ _ _ resubscribes =>
      rw [resubscribes.stages] at present
      exact .inl ⟨row, present, Moves.refl _ row⟩
  | moved _ _ _ _ _ moves => exact .inl (forall₂_mem_right _ _ _ moves row present)

theorem performed_revoked (request : Id) (before after : Ledger) (call : Call) (answer : Answer)
    (consistent : Consistent host before) (revoked : Revoked request before)
    (performed : Performed host before call after answer) : Revoked request after := by
  refine ⟨performed_requests host before after call answer performed request revoked.1, fun row present same => ?_⟩
  rcases performed_origin host before after call answer consistent performed row present with
    ⟨old, stored, moves⟩ | ⟨fresh, _⟩
  · have ages := move_ages old row call moves
    have request' : old.request = request := (congrArg Fixed.request ages.fixed).symm.trans same
    exact ages_revoked old row ages (revoked.2 old stored request')
  · exact absurd revoked.1 (same ▸ fresh)

theorem cancel_revokes (request : Id) (answer : Answer)
    (consistent : Consistent host before) (done : perform host before (.cancel request) = .ok (after, answer)) :
    Revoked request after := by
  obtain ⟨next, cancelled, rest⟩ := (bind_ok_iff _ _ _).mp done
  cases rest
  obtain ⟨keeps, rows⟩ := cancel_rows host request before after consistent.ids cancelled
  obtain ⟨found, listed, _⟩ := (bind_ok_iff _ _ _).mp cancelled
  obtain ⟨member, same⟩ := request_ok before request found listed
  refine ⟨keeps.requests ▸ List.mem_map.mpr ⟨found, member, same⟩, fun row present here => ?_⟩
  obtain ⟨old, _, fixed, core⟩ := forall₂_mem_right _ _ _ rows row present
  have request' : old.request = request := (congrArg Fixed.request fixed).symm.trans here
  rw [if_pos request', Stage.cancelCore] at core
  by_cases waiting : old.state = .waiting
  · rw [if_pos waiting] at core
    have state : row.state = .cancelled := congrArg Core.state core
    exact .inr (state ▸ by decide)
  · rw [if_neg waiting] at core
    by_cases owner : old.owning = true
    · rw [if_pos owner] at core
      exact .inl (congrArg Core.cancelRequested core)
    · rw [if_neg owner] at core
      have state : row.state = old.state := congrArg Core.state core
      refine .inr ?_
      rw [state]
      revert waiting owner
      unfold Stage.owning
      cases old.state <;> decide

theorem admitted_release (old : Stage) (call : Call) (core : Core) (move : Move old call core)
    (admitted : 3 ≤ old.state.rank) (owner : old.state ∈ owningStates) (released : core.state ∉ owningStates) :
    (∃ outcome leaves evidence, call = .finish old.id old.epoch outcome leaves evidence) ∨
      ∃ leaves evidence, call = .recover old.id old.epoch leaves evidence := by
  cases move with
  | stay => exact absurd owner released
  | wait _ _ _ waiting => rw [waiting] at owner; exact absurd owner (by decide)
  | skip _ waiting => rw [waiting] at owner; exact absurd owner (by decide)
  | grant _ _ _ _ waiting => rw [waiting] at owner; exact absurd owner (by decide)
  | launch => exact absurd (by simp [owningStates]) released
  | admitStage => exact absurd (by simp [owningStates]) released
  | withdraw waiting => rw [waiting] at owner; exact absurd owner (by decide)
  | revoke => exact absurd owner released
  | complete _ outcome leaves _ completes =>
      cases completes with
      | finish _ _ evidence _ => exact .inl ⟨outcome, leaves, evidence, rfl⟩
      | recover _ _ evidence _ _ _ => exact .inr ⟨leaves, evidence, rfl⟩
      | abort _ _ _ intent _ => rw [intent] at admitted; exact absurd admitted (by decide)

theorem launch_single_use (host : Host) :
    (∀ early late id token again, Admits host (run host early) id token →
      ¬ Admits host (run host (early ++ .admitStage id token :: late)) id again) ∧
    (∀ early late id token epoch secret identity, Admits host (run host early) id token →
      ¬ Aborts host (run host (early ++ .admitStage id token :: late)) id epoch secret identity) ∧
    (∀ early late id token epoch secret identity, Aborts host (run host early) id epoch secret identity →
      ¬ Admits host (run host (early ++ .abortUnadmitted id epoch secret identity :: late)) id token) ∧
    (∀ early late request after answer, perform host (run host early) (.cancel request) = .ok (after, answer) →
      ∀ stage ∈ (run host (early ++ .cancel request :: late)).stages, stage.request = request →
        ∀ token, ¬ Admits host (run host (early ++ .cancel request :: late)) stage.id token) ∧
    (∀ early late id token call, Admits host (run host early) id token →
      ∀ old ∈ (run host (early ++ .admitStage id token :: late)).stages, old.id = id → old.state ∈ owningStates →
        ∀ new ∈ (run host (early ++ .admitStage id token :: (late ++ [call]))).stages, new.id = id →
          new.state ∉ owningStates →
          (∃ outcome leaves evidence, call = .finish id old.epoch outcome leaves evidence) ∨
            ∃ leaves evidence, call = .recover id old.epoch leaves evidence) ∧
    (∀ early late, ∀ old ∈ (run host early).stages, ∀ new ∈ (run host (early ++ late)).stages, new.id = old.id →
      (new.state = .waiting → old.state = .waiting) ∧ old.epoch ≤ new.epoch) := by
  refine ⟨?_, ?_, ?_, ?_, ?_, ?_⟩
  · intro early late id token again first second
    obtain ⟨row, written, same, spent⟩ := admitted_row host early id token first
    obtain ⟨stage, present, again, launching, _⟩ := admits_launching host _ id _ second
    exact launch_spent host early late _ id row stage written same spent present again launching
  · intro early late id token epoch secret identity first second
    obtain ⟨row, written, same, spent⟩ := admitted_row host early id token first
    obtain ⟨stage, present, again, launching⟩ := aborts_launching host _ id epoch secret identity second
    exact launch_spent host early late _ id row stage written same spent present again launching
  · intro early late id token epoch secret identity first second
    obtain ⟨row, written, same, spent⟩ := aborted_row host early id epoch secret identity first
    obtain ⟨stage, present, again, launching, _⟩ := admits_launching host _ id _ second
    exact launch_spent host early late _ id row stage written same spent present again launching
  · intro early late request after answer done stage present same token admits
    have consistent := run_consistent host early
    have revoked := cancel_revokes host _ after request answer consistent done
    have middle : run host (early ++ [.cancel request]) = after := by
      rw [run_append]
      exact commit_ok host _ after _ answer done
    have split : early ++ .cancel request :: late = (early ++ [.cancel request]) ++ late := by simp
    rw [split, run_append, middle] at present admits
    have final := (runs_keep host (Revoked request)
      (fun before call next answer consistent revoked _ _ performed =>
        performed_revoked host request before next call answer consistent revoked performed)
      late after (middle ▸ run_consistent host _) revoked).2
    have unique : (stageIds (late.foldl (commit host) after)).Nodup := by
      rw [← middle, ← run_append]
      exact (run_consistent host _).ids
    rw [← middle, ← run_append] at admits
    obtain ⟨found, listed, again, launching, allowed⟩ := admits_launching host _ stage.id token admits
    rw [run_append, middle] at listed
    have here : found = stage := row_unique Stage.id _ unique found stage listed present again
    subst here
    rcases final.2 found listed same with requested | ended
    · exact Bool.false_ne_true (allowed.symm.trans requested)
    · rw [launching] at ended
      exact absurd ended (by decide)
  · intro early late id token call admits old stored same owner new present again released
    obtain ⟨row, written, key, spent⟩ := admitted_row host early id token admits
    have step : commit host (run host early) (.admitStage id token) = run host (early ++ [.admitStage id token]) := by
      rw [run_append]
      rfl
    rw [step] at written
    have split : early ++ .admitStage id token :: late = (early ++ [.admitStage id token]) ++ late := by simp
    have admitted : 3 ≤ old.state.rank := by
      rw [split] at stored
      exact Nat.le_trans spent (run_aged host _ late row old written stored (same.trans key.symm)).rank
    have last : early ++ .admitStage id token :: (late ++ [call]) = (early ++ .admitStage id token :: late) ++
      [call] := by simp
    rw [last, run_append] at present
    have consistent := run_consistent host (early ++ .admitStage id token :: late)
    generalize run host (early ++ .admitStage id token :: late) = before at stored present consistent
    subst same
    rcases commit_cases host before call consistent with unchanged | ⟨answer, _, performed⟩
    · rw [List.foldl_cons, List.foldl_nil, unchanged] at present
      have here := row_unique Stage.id _ consistent.ids new old present stored again
      exact absurd (here ▸ owner) released
    · rcases performed_origin host before _ call answer consistent performed new present with
        ⟨source, origin, fixed, move⟩ | ⟨fresh, waiting, _⟩
      · have here : source = old := row_unique Stage.id _ consistent.ids source old origin stored
          ((fixed_id _ _ fixed).symm.trans again)
        subst here
        exact admitted_release source call new.core move admitted owner released
      · have ages := performed_ages host before _ call answer consistent performed
        obtain ⟨aged, kept, older⟩ := ages old stored
        have next := performed_consistent host before _ call answer consistent performed
        have here : aged = new := row_unique Stage.id _ next.ids aged new kept present
          ((fixed_id _ _ older.fixed).trans again.symm)
        have rank := older.rank
        rw [here, waiting] at rank
        exact absurd (Nat.le_trans admitted rank) (by decide)
  · intro early late old stored new present same
    have ages := run_aged host early late old new stored present same
    refine ⟨fun waiting => ?_, ages.epoch⟩
    have rank := ages.rank
    rw [waiting] at rank
    revert rank
    cases old.state <;> decide

-- What becomes of a stage: it is granted once, leaves only go out of what it was
-- granted, and once it is terminal nothing changes.
structure Custody (old new : Stage) : Prop where
  id : new.id = old.id
  granted : new.epoch ≤ old.epoch + 1
  waited : new.state = .waiting → old.state = .waiting ∧ new.epoch = old.epoch
  held : old.state ≠ .waiting → new.epoch = old.epoch ∧ new.allocation.items ⊆ old.allocation.items
  terminal : old.state ∈ terminalStates → new.core = old.core

theorem Custody.refl (stage : Stage) : Custody stage stage :=
  ⟨rfl, Nat.le_succ _, fun waiting => ⟨waiting, rfl⟩, fun _ => ⟨rfl, List.Subset.refl _⟩, fun _ => rfl⟩

theorem Custody.trans {first second third : Stage} (lower : Custody first second) (upper : Custody second third) :
    Custody first third := by
  refine ⟨upper.id.trans lower.id, ?_, fun waiting => ?_, fun gone => ?_, fun final => ?_⟩
  · by_cases between : second.state = .waiting
    · rw [← (lower.waited between).2]
      exact upper.granted
    · rw [(upper.held between).1]
      exact lower.granted
  · obtain ⟨between, late⟩ := upper.waited waiting
    obtain ⟨before, early⟩ := lower.waited between
    exact ⟨before, late.trans early⟩
  · have early := lower.held gone
    have late := upper.held fun between => gone (lower.waited between).1
    exact ⟨late.1.trans early.1, fun _ listed => early.2 (late.2 listed)⟩
  · have kept := lower.terminal final
    exact (upper.terminal (core_state _ _ kept ▸ final)).trans kept

theorem move_custody {old new : Stage} (call : Call) (moves : Moves call old new) : Custody old new := by
  obtain ⟨fixed, move⟩ := moves
  have id := fixed_id _ _ fixed
  generalize same : new.core = core at move
  have state : new.state = core.state := congrArg Core.state same
  have epoch : new.epoch = core.epoch := congrArg Core.epoch same
  have allocation : new.allocation = core.allocation := congrArg Core.allocation same
  have ungranted (waiting : old.state = .waiting) (kept : core.epoch = old.epoch) : Custody old new :=
    ⟨id, by omega, fun _ => ⟨waiting, epoch.trans kept⟩, fun gone => absurd waiting gone,
      fun final => absurd (waiting ▸ final) (by decide)⟩
  have owning (owner : old.state ∈ owningStates) (onward : core.state ≠ .waiting) (kept : core.epoch = old.epoch)
      (fewer : core.allocation.items ⊆ old.allocation.items) : Custody old new := by
    refine ⟨id, by
      omega, fun waiting => absurd (state.symm.trans waiting) onward, fun _ => ⟨epoch.trans kept, allocation ▸ fewer⟩,
      fun final => ?_⟩
    have low := owning_rank old.state owner
    have high := terminal_rank old.state final
    omega
  have all := List.Subset.refl old.allocation.items
  cases move with
  | stay =>
      exact ⟨id, epoch ▸ Nat.le_succ _, fun waiting => ⟨state.symm.trans waiting, epoch⟩,
        fun _ => ⟨epoch, allocation ▸ all⟩, fun _ => same⟩
  | wait _ _ _ waiting => exact ungranted waiting rfl
  | skip _ waiting => exact ungranted waiting rfl
  | withdraw waiting => exact ungranted waiting rfl
  | grant _ _ _ _ waiting =>
      refine ⟨id, epoch.le, fun still => ?_, fun gone => absurd waiting gone, fun final =>
        absurd (waiting ▸ final) (by decide)⟩
      cases state.symm.trans still
  | launch _ granted => exact owning (granted ▸ by decide) (by rintro ⟨⟩) rfl all
  | admitStage _ launching => exact owning (launching ▸ by decide) (by rintro ⟨⟩) rfl all
  | revoke owner =>
      have owner : old.state ∈ owningStates := of_decide_eq_true owner
      exact owning owner (fun waiting => absurd ((show old.state = State.waiting from waiting) ▸ owner)
        (by decide)) rfl all
  | complete _ outcome released owner completes =>
      refine owning (of_decide_eq_true owner) (fun waiting => ?_) rfl List.filter_sublist.subset
      have late := completed_rank old.core outcome released (completes_final old call outcome released completes)
      rw [waiting] at late
      exact absurd late (by decide)

theorem custody_lasts : Lasting Custody := ⟨Custody.refl, fun _ _ _ => Custody.trans, fun call _ _ => move_custody call⟩

theorem stage_custody (host : Host) (early late : List Call) :
    ∀ old ∈ (run host early).stages, ∃ new ∈ (run host (early ++ late)).stages, Ages old new ∧ Custody old new ∧
      ∀ other ∈ (run host (early ++ late)).stages, other.id = old.id → other = new := by
  intro old stored
  obtain ⟨new, present, ages⟩ := run_rows host early late ages_last old stored
  obtain ⟨row, kept, custody⟩ := run_rows host early late custody_lasts old stored
  have unique := row_unique Stage.id _ (run_consistent host (early ++ late)).ids
  have here : row = new := unique row new kept present (custody.id.trans (fixed_id _ _ ages.fixed).symm)
  exact ⟨new, present, ages, here ▸ custody, fun other listed same =>
    unique other new listed present (same.trans (fixed_id _ _ ages.fixed).symm)⟩

def lone : List Call :=
  [.configure (Dict.single "gpu" { release := some .process }),
    .submit "lab" "first" { stages := [{ id := "train", needs := some [{ resource := some "gpu" }] }] } none]

theorem stage_custody_lone :
    ∃ old ∈ (run countingHost lone).stages, ∃ new ∈ (run countingHost (lone ++ [.schedule []])).stages,
      Ages old new ∧ Custody old new ∧
        ∀ other ∈ (run countingHost (lone ++ [.schedule []])).stages, other.id = old.id → other = new := by
  have queued : 0 < (run countingHost lone).stages.length := by decide +kernel
  obtain ⟨old, stored⟩ := List.exists_mem_of_length_pos queued
  exact ⟨old, stored, stage_custody countingHost lone [.schedule []] old stored⟩

end OrchestratorEngine.ResourceQueue
