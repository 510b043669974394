import OrchestratorEngine.ResourceQueue.Passes

set_option autoImplicit false

namespace OrchestratorEngine.ResourceQueue

open Foundation WorkerLease

def Core.complete (core : Core) (outcome : State) (released : List Name) : Core :=
  { core with
    state := if (core.allocation.without released).items = [] then outcome else .recoveryRequired
    outcome := some outcome
    allocation := core.allocation.without released
    launchToken := none }

inductive Completes (stage : Stage) : Call → State → List Name → Prop where
  | finish (outcome : State) (released : List Name) (evidence : Evidence) (final : outcome ∈ terminalStates) :
      Completes stage (.finish stage.id stage.epoch outcome released evidence) outcome released
  | recover (outcome : State) (released : List Name) (evidence : Evidence) (final : outcome ∈ terminalStates)
      (owner : stage.state = .recoveryRequired) (recorded : outcome = stage.outcome.getD .failed) :
      Completes stage (.recover stage.id stage.epoch released evidence) outcome released
  | abort (outcome : State) (token : Option Token) (identity : Option Identity)
      (intent : stage.state = .launching) (outcomes : outcome = .cancelled ∨ outcome = .failed) :
      Completes stage (.abortUnadmitted stage.id stage.epoch token identity) outcome stage.allocation.keys

inductive Move (stage : Stage) : Call → Core → Prop where
  | stay (call : Call) : Move stage call stage.core
  | wait (unavailable : List Name) (number : Option Nat) (protection : Option Allocation)
      (state : stage.state = .waiting) :
      Move stage (.schedule unavailable) { stage.core with readySeq := number, protection := protection }
  | skip (unavailable : List Name) (state : stage.state = .waiting) :
      Move stage (.schedule unavailable) { stage.core with state := .skipped, readySeq := none, protection := none }
  | grant (unavailable : List Name) (number : Option Nat) (allocation : Allocation) (token : Token)
      (state : stage.state = .waiting) :
      Move stage (.schedule unavailable) { stage.core with
        state := .granted
        epoch := stage.epoch + 1
        allocation := allocation
        readySeq := number
        protection := none
        launchToken := some token }
  | launch (identity : Option Identity) (state : stage.state = .granted) :
      Move stage (.attach stage.id stage.epoch identity) { stage.core with state := .launching }
  | admitStage (token : Token) (state : stage.state = .launching) (allowed : stage.cancelRequested = false) :
      Move stage (.admitStage stage.id token) { stage.core with state := .running }
  | withdraw (state : stage.state = .waiting) :
      Move stage (.cancel stage.request) { stage.core with state := .cancelled, protection := none }
  | revoke (owner : stage.owning = true) :
      Move stage (.cancel stage.request) { stage.core with cancelRequested := true }
  | complete (call : Call) (outcome : State) (released : List Name) (owner : stage.owning = true)
      (completes : Completes stage call outcome released) : Move stage call (stage.core.complete outcome released)

def Moves (call : Call) (before after : Stage) : Prop := after.fixed = before.fixed ∧ Move before call after.core

theorem Moves.refl (call : Call) (stage : Stage) : Moves call stage stage := ⟨rfl, .stay call⟩

theorem stage_ok (ledger : Ledger) (id : Id) (stage : Stage) (found : ledger.stage id = .ok stage) :
    stage ∈ ledger.stages ∧ stage.id = id := by
  unfold Ledger.stage at found
  cases row : row? Stage.id id ledger.stages with
  | none => simp [row] at found
  | some other =>
      rw [row] at found
      cases found
      exact row_mem Stage.id id ledger.stages _ row

theorem request_ok (ledger : Ledger) (id : Id) (request : Request) (found : ledger.request id = .ok request) :
    request ∈ ledger.requests ∧ request.id = id := by
  unfold Ledger.request at found
  cases row : row? Request.id id ledger.requests with
  | none => simp [row] at found
  | some other =>
      rw [row] at found
      cases found
      exact row_mem Request.id id ledger.requests _ row

variable {before after : Ledger}

theorem saves_moves {changed row : Stage} (call : Call) (stage : Stage)
    (saves : Saves before changed after row) (unique : (stageIds before).Nodup) (listed : stage ∈ before.stages)
    (fixed : changed.fixed = stage.fixed) (move : Move stage call changed.core) :
    List.Forall₂ (Moves call) before.stages after.stages :=
  saves.forall₂ unique (Moves call) (Moves.refl call) stage listed (fixed_id _ _ fixed).symm
    ⟨saves.alike.1.trans fixed, saves.alike.2 ▸ move⟩

structure Keeps (before after : Ledger) : Prop where
  registry : after.registry = before.registry
  requests : after.requests = before.requests
  draws : before.draws ≤ after.draws
  sequence : before.sequence ≤ after.sequence

theorem Saves.keeps {stage row : Stage} (saves : Saves before stage after row) :
    Keeps before after :=
  ⟨saves.frame.registry, saves.frame.requests, saves.frame.draws, saves.frame.sequence⟩

theorem Stands.keeps (stands : Stands before after) : Keeps before after :=
  ⟨stands.registry, stands.requests, by rw [stands.draws], by rw [stands.sequence]⟩

theorem Keeps.trans {first second third : Ledger} (lower : Keeps first second) (upper : Keeps second third) :
    Keeps first third :=
  ⟨upper.registry.trans lower.registry, upper.requests.trans lower.requests, Nat.le_trans lower.draws upper.draws,
    Nat.le_trans lower.sequence upper.sequence⟩

variable (host : Host)

variable (id : Id)

theorem attach_moves (epoch : Nat) (identity : Option Identity) (before after : Ledger)
    (unique : (stageIds before).Nodup) (done : before.attach host id epoch identity = .ok after) :
    Keeps before after ∧ List.Forall₂ (Moves (.attach id epoch identity)) before.stages after.stages := by
  simp only [Ledger.attach, bind_ok_iff, refuse_ok_iff, exists_const, pure_ok, Except.ok.injEq] at done
  obtain ⟨stage, found, guard, rfl⟩ := done
  obtain ⟨listed, rfl⟩ := stage_ok before id stage found
  simp only [ne_eq, not_or, not_not] at guard
  obtain ⟨granted, rfl⟩ := guard
  have saves := save_saves host before { stage with state := .launching, supervisorIdentity := identity }
  exact ⟨saves.keeps, saves_moves _ stage saves unique listed rfl (.launch identity granted)⟩

theorem annotate_moves (epoch : Nat) (fields : Dict Name String) (before after : Ledger)
    (unique : (stageIds before).Nodup) (done : before.annotate host id epoch fields = .ok after) :
    Keeps before after ∧ List.Forall₂ (Moves (.annotate id epoch fields)) before.stages after.stages := by
  simp only [Ledger.annotate, bind_ok_iff, refuse_ok_iff, exists_const, pure_ok, Except.ok.injEq] at done
  obtain ⟨stage, found, _, _, rfl⟩ := done
  obtain ⟨listed, rfl⟩ := stage_ok before id stage found
  have saves := save_saves host before { stage with
    runner := fields.items.foldl (fun runner field => runner.set field.1 field.2) stage.runner }
  exact ⟨saves.keeps, saves_moves _ stage saves unique listed rfl (.stay _)⟩

theorem admit_moves (token : Token) (before after : Ledger) (admitted : Stage)
    (unique : (stageIds before).Nodup) (done : before.admitStage host id token = .ok (after, admitted)) :
    Keeps before after ∧ List.Forall₂ (Moves (.admitStage id token)) before.stages after.stages ∧
      ∃ stage ∈ before.stages, stage.id = id ∧ stage.state = .launching ∧ stage.cancelRequested = false ∧
        admitted ∈ after.stages ∧ admitted.fixed = stage.fixed ∧ admitted.core =
        { stage.core with state := .running } := by
  simp only [Ledger.admitStage, bind_ok_iff, refuse_ok_iff, exists_const, pure_ok, Except.ok.injEq] at done
  obtain ⟨stage, found, guard, _, _, _, result⟩ := done
  obtain ⟨listed, rfl⟩ := stage_ok before id stage found
  simp only [ne_eq, not_or, not_not, Bool.not_eq_true] at guard
  have saves := (save_saves host (before.now host).1
    { stage with state := .running, startedAt := some (before.now host).2 }).after_now host
  rw [result] at saves
  refine ⟨saves.keeps, saves_moves _ stage saves unique listed rfl (.admitStage token guard.1 guard.2),
    stage, listed, rfl,
    guard.1, guard.2, (saves.mem_iff admitted).mpr (.inl rfl), saves.alike.1, saves.alike.2⟩

theorem complete_moves (call : Call) (id : Id) (epoch : Nat) (outcome : State) (released : List Name)
    (evidence : Evidence) (before after : Ledger) (stage : Stage) (unique : (stageIds before).Nodup)
    (found : before.stage id = .ok stage)
    (completes : stage.owning = true → stage.epoch = epoch → Completes stage call outcome released)
    (done : before.complete host id epoch outcome released evidence = .ok after) :
    Keeps before after ∧ List.Forall₂ (Moves call) before.stages after.stages ∧
      ∃ row ∈ after.stages, row.fixed = stage.fixed ∧ row.core = stage.core.complete outcome released := by
  simp only [Ledger.complete, found, bind_ok, bind_ok_iff, refuse_ok_iff, exists_const] at done
  obtain ⟨guard, _, groups, _, coupled, _, _, delivered⟩ := done
  obtain ⟨listed, rfl⟩ := stage_ok before id stage found
  simp only [ne_eq, not_or, not_not, Bool.not_eq_false] at guard
  obtain ⟨rfl, owner⟩ := guard
  have saves := (save_saves host (before.now host).1
    (stage.finish outcome released evidence (before.now host).2)).after_now host
  generalize (before.now host).1.save host (stage.finish outcome released evidence (before.now host).2) = saved
    at saves delivered
  obtain ⟨middle, row⟩ := saved
  have stands := outcomes_stands _ _ _ delivered
  have noted : Keeps middle (middle.release released) := ⟨rfl, rfl, Nat.le_refl _, Nat.le_refl _⟩
  have moves := saves_moves call stage saves unique listed rfl
    (.complete call outcome released owner (completes owner rfl))
  have written : row ∈ middle.stages := (saves.mem_iff row).mpr (.inl rfl)
  refine ⟨(saves.keeps.trans noted).trans stands.keeps, ?_, row, ?_, saves.alike.1, saves.alike.2⟩
  · rw [stands.stages]
    exact moves
  · rw [stands.stages]
    exact written

theorem finish_moves (epoch : Nat) (outcome : State) (released : List Name) (evidence : Evidence)
    (before after : Ledger) (unique : (stageIds before).Nodup)
    (done : before.finish host id epoch outcome released evidence = .ok after) :
    Keeps before after ∧
      List.Forall₂ (Moves (.finish id epoch outcome released evidence)) before.stages after.stages := by
  simp only [Ledger.finish, bind_ok_iff, refuse_ok_iff, exists_const, not_not] at done
  obtain ⟨final, completed⟩ := done
  obtain ⟨stage, found, _⟩ := (bind_ok_iff _ _ _).mp completed
  have result := complete_moves host (.finish id epoch outcome released evidence) id epoch outcome released evidence
    before after stage unique found (fun _ same => by
      subst same
      obtain ⟨_, rfl⟩ := stage_ok before id stage found
      exact .finish outcome released evidence final) completed
  exact ⟨result.1, result.2.1⟩

theorem recover_moves (epoch : Nat) (released : List Name) (evidence : Evidence)
    (before after : Ledger) (unique : (stageIds before).Nodup)
    (done : before.recover host id epoch released evidence = .ok after) :
    Keeps before after ∧ List.Forall₂ (Moves (.recover id epoch released evidence)) before.stages after.stages := by
  simp only [Ledger.recover, Ledger.finish, bind_ok_iff, refuse_ok_iff, exists_const, not_not] at done
  obtain ⟨stage, found, guard, final, completed⟩ := done
  simp only [ne_eq, not_or, not_not] at guard
  have result := complete_moves host (.recover id epoch released evidence) id epoch _ released evidence
    before after stage unique found (fun _ same => by
      subst same
      obtain ⟨_, rfl⟩ := stage_ok before id stage found
      exact .recover _ released evidence final guard.1 rfl) completed
  exact ⟨result.1, result.2.1⟩

theorem abort_unadmitted_moves (epoch : Nat) (token : Option Token) (identity : Option Identity)
    (before after : Ledger) (released : Bool) (unique : (stageIds before).Nodup)
    (done : before.abortUnadmitted host id epoch token identity = .ok (after, released)) :
    (released = false ∧ after = before) ∨ (released = true ∧ Keeps before after ∧
      List.Forall₂ (Moves (.abortUnadmitted id epoch token identity)) before.stages after.stages ∧
      ∃ stage ∈ before.stages, stage.id = id ∧ stage.epoch = epoch ∧ stage.state = .launching ∧
        ∃ row ∈ after.stages, row.fixed = stage.fixed ∧ ∃ outcome ∈ terminalStates,
          row.core = stage.core.complete outcome stage.allocation.keys) := by
  obtain ⟨stage, found, rest⟩ := (bind_ok_iff _ _ _).mp done
  obtain ⟨listed, rfl⟩ := stage_ok before id stage found
  by_cases stale : stage.state ≠ .launching ∨ stage.epoch ≠ epoch
  · rw [if_pos stale] at rest
    cases rest
    exact .inl ⟨rfl, rfl⟩
  · rw [if_neg stale] at rest
    simp only [ne_eq, not_or, not_not] at stale
    obtain ⟨launching, rfl⟩ := stale
    have aborted : ∀ outcome, outcome = .cancelled ∨ outcome = .failed → ∀ next,
        before.complete host stage.id stage.epoch outcome stage.allocation.keys { detail := "admission revoked" } =
          .ok next → Keeps before next ∧
        List.Forall₂ (Moves (.abortUnadmitted stage.id stage.epoch token identity)) before.stages next.stages ∧
        ∃ row ∈ next.stages, row.fixed = stage.fixed ∧ row.core = stage.core.complete outcome stage.allocation.keys :=
      fun outcome either next completed => complete_moves host _ stage.id stage.epoch outcome _ _ before
        next stage unique
        found (fun _ _ => .abort outcome token identity launching either) completed
    cases chosen : token.filter (fun token => decide (token ≠ "")) with
    | some secret =>
        simp only [chosen] at rest
        split at rest
        · cases rest
          exact .inl ⟨rfl, rfl⟩
        · obtain ⟨authentic, _, rest⟩ := (bind_ok_iff _ _ _).mp rest
          split at rest
          · cases rest
            exact .inl ⟨rfl, rfl⟩
          · obtain ⟨next, completed, rest⟩ := (bind_ok_iff _ _ _).mp rest
            cases rest
            obtain ⟨keeps, moves, row, written, fixed, core⟩ := aborted .cancelled (.inl rfl) _ completed
            exact .inr ⟨rfl, keeps, moves, stage, listed, rfl, rfl, launching, row, written, fixed, _, by decide, core⟩
    | none =>
        simp only [chosen] at rest
        split at rest
        · cases rest
          exact .inl ⟨rfl, rfl⟩
        · obtain ⟨next, completed, rest⟩ := (bind_ok_iff _ _ _).mp rest
          cases rest
          obtain ⟨keeps, moves, row, written, fixed, core⟩ := aborted .failed (.inr rfl) _ completed
          exact .inr ⟨rfl, keeps, moves, stage, listed, rfl, rfl, launching, row, written, fixed, _, by decide, core⟩

def Stage.cancelCore (stage : Stage) : Core :=
  if stage.state = .waiting then { stage.core with state := .cancelled, protection := none }
  else if stage.owning then { stage.core with cancelRequested := true }
  else stage.core

theorem cancel_stage_saves (ledger : Ledger) (stage : Stage) :
    ∃ changed row, Saves ledger changed (Ledger.cancelStage host ledger stage) row ∧ changed.fixed = stage.fixed ∧
      changed.core = stage.cancelCore := by
  unfold Ledger.cancelStage Stage.cancelCore
  by_cases waiting : stage.state = .waiting
  · simp only [waiting, if_true]
    exact ⟨_, _, (save_saves host (ledger.now host).1 { stage with
      state := .cancelled, finishedAt := some (ledger.now host).2, protection := none }).after_now host, rfl, rfl⟩
  · rw [if_neg waiting, if_neg waiting]
    by_cases owner : stage.owning = true
    · rw [if_pos owner, if_pos owner]
      exact ⟨_, _, save_saves host ledger { stage with cancelRequested := true }, rfl, rfl⟩
    · rw [if_neg owner, if_neg owner]
      exact ⟨_, _, save_saves host ledger stage, rfl, rfl⟩

theorem cancel_stages_rows (ledger : Ledger) (stages : List Stage)
    (listed : ∀ stage ∈ stages, stage ∈ ledger.stages) (distinct : (stages.map Stage.id).Nodup)
    (unique : (stageIds ledger).Nodup) :
    Keeps ledger (stages.foldl (Ledger.cancelStage host) ledger) ∧
      List.Forall₂ (fun old new => new = old ∧ old ∉ stages ∨
          old ∈ stages ∧ new.fixed = old.fixed ∧ new.core = old.cancelCore)
        ledger.stages (stages.foldl (Ledger.cancelStage host) ledger).stages := by
  induction stages generalizing ledger with
  | nil =>
      exact ⟨⟨rfl, rfl, Nat.le_refl _, Nat.le_refl _⟩, List.forall₂_same.mpr fun stage _ => .inl ⟨rfl, by simp⟩⟩
  | cons stage rest ih =>
      obtain ⟨fresh, distinctRest⟩ := List.nodup_cons.mp distinct
      have here := listed stage (by simp)
      obtain ⟨changed, row, saves, fixed, core⟩ := cancel_stage_saves host ledger stage
      have key : changed.id = stage.id := fixed_id _ _ fixed
      have first : List.Forall₂ (fun old new => new = old ∧ old ≠ stage ∨
          old = stage ∧ new.fixed = old.fixed ∧ new.core = old.cancelCore) ledger.stages
          (Ledger.cancelStage host ledger stage).stages := by
        refine forall₂_of_keys Stage.id _ _ _ (saves.keys (key ▸ List.mem_map_of_mem here)) unique ?_
        intro old stored new present same
        rcases (saves.mem_iff new).mp present with rfl | ⟨kept, different⟩
        · have match_ : old = stage := row_unique Stage.id ledger.stages unique old stage stored here
            (same.symm.trans ((fixed_id _ _ saves.alike.1).trans key))
          exact .inr ⟨match_, (saves.alike.1.trans fixed).trans (match_ ▸ rfl),
            (saves.alike.2.trans core).trans (match_ ▸ rfl)⟩
        · have match_ : new = old := row_unique Stage.id ledger.stages unique new old kept stored same
          exact .inl ⟨match_, fun clash => different (key ▸ clash ▸ match_ ▸ rfl)⟩
      have ids : stageIds (Ledger.cancelStage host ledger stage) = stageIds ledger :=
        saves.keys (key ▸ List.mem_map_of_mem here)
      have apart : ∀ later ∈ rest, later.id ≠ stage.id := fun later member same =>
        fresh (List.mem_map.mpr ⟨later, member, same⟩)
      obtain ⟨keeps, second⟩ := ih (Ledger.cancelStage host ledger stage)
        (fun later member => (saves.mem_iff later).mpr
        (.inr ⟨listed later (by simp [member]), key ▸ apart later member⟩))
        distinctRest (ids ▸ unique)
      refine ⟨saves.keeps.trans keeps, (forall₂_compose _ _ _ _ _ first second).imp ?_⟩
      rintro old new ⟨middle, ⟨rfl, other⟩ | ⟨rfl, fixed', core'⟩, ⟨rfl, outside⟩ | ⟨inside, fixed'', core''⟩⟩
      · exact .inl ⟨rfl, by simp [other, outside]⟩
      · exact .inr ⟨by simp [inside], fixed'', core''⟩
      · exact .inr ⟨by simp, fixed', core'⟩
      · exact absurd (fixed_id _ _ fixed') (apart middle inside)

theorem cancel_rows (before after : Ledger) (unique : (stageIds before).Nodup)
    (done : before.cancel host id = .ok after) :
    Keeps before after ∧ List.Forall₂ (fun old new => new.fixed = old.fixed ∧
      new.core = if old.request = id then old.cancelCore else old.core) before.stages after.stages := by
  simp only [Ledger.cancel, bind_ok_iff] at done
  obtain ⟨_, _, delivered⟩ := done
  have stands := outcomes_stands _ _ _ delivered
  obtain ⟨keeps, rows⟩ := cancel_stages_rows host before (before.stagesOf id)
    (fun stage listed => (List.mem_filter.mp listed).1) (unique.sublist (List.filter_sublist.map _)) unique
  refine ⟨keeps.trans stands.keeps, ?_⟩
  rw [stands.stages]
  refine forall₂_of_forall₂_mem rows fun old new stored => ?_
  rintro (⟨rfl, outside⟩ | ⟨inside, fixed, core⟩)
  · have other : new.request ≠ id := fun same => outside (List.mem_filter.mpr ⟨stored, decide_eq_true same⟩)
    exact ⟨rfl, by rw [if_neg other]⟩
  · have same : old.request = id := of_decide_eq_true (List.mem_filter.mp inside).2
    exact ⟨fixed, by rw [if_pos same, core]⟩

theorem cancel_moves (before after : Ledger) (unique : (stageIds before).Nodup)
    (done : before.cancel host id = .ok after) :
    Keeps before after ∧ List.Forall₂ (Moves (.cancel id)) before.stages after.stages := by
  obtain ⟨keeps, rows⟩ := cancel_rows host id before after unique done
  refine ⟨keeps, rows.imp fun old new both => ⟨both.1, ?_⟩⟩
  rw [both.2]
  by_cases same : old.request = id
  · subst same
    rw [if_pos rfl, Stage.cancelCore]
    by_cases waiting : old.state = .waiting
    · rw [if_pos waiting]
      exact .withdraw waiting
    · rw [if_neg waiting]
      by_cases owner : old.owning = true
      · rw [if_pos owner]
        exact .revoke owner
      · rw [if_neg owner]
        exact .stay _
  · rw [if_neg same]
    exact .stay _

end OrchestratorEngine.ResourceQueue
