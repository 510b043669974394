import Mathlib
import OrchestratorEngine.ResourceQueue.Launches
import OrchestratorEngine.ResourceQueue.Waits

set_option autoImplicit false

namespace OrchestratorEngine.ResourceQueue

open Foundation WorkerLease

-- One call as an account sees it: besides what a pass does, a stage that has
-- left waiting moves on without any charge.
inductive Elapses (host : Host) (low high : Nat) (old new : Account) : Prop where
  | accrued (accrues : Accrues host low high old new)
  | settled (order : low ≤ high) (gone : old.state ≠ .waiting) (away : new.state ≠ .waiting)
      (seconds : new.seconds = old.seconds)

def Elapse (host : Host) (before after : Ledger) : Prop :=
  ∀ old ∈ before.stages, ∃ new ∈ after.stages, new.id = old.id ∧
    Elapses host before.draws after.draws old.account new.account

theorem Accrue.elapse {host : Host} {before after : Ledger} (accrue : Accrue host before after) :
    Elapse host before after := by
  intro old stored
  obtain ⟨new, present, same, accrues⟩ := accrue old stored
  exact ⟨new, present, same, .accrued accrues⟩

theorem save_elapse (host : Host) (before drawn : Ledger) (changed old : Stage) (unique : (stageIds before).Nodup)
    (stages : drawn.stages = before.stages) (draws : before.draws ≤ drawn.draws) (listed : old ∈ before.stages)
    (key : changed.id = old.id) (seconds : changed.waitSeconds = old.waitSeconds) (gone : old.state ≠ .waiting)
    (away : changed.state ≠ .waiting) : Elapse host before (drawn.save host changed).1 := by
  have saves := save_saves host drawn changed
  have found : row? Stage.id changed.id drawn.stages = some old := by
    rw [key, stages]
    exact row_of_mem Stage.id before.stages unique old listed
  have order : before.draws ≤ (drawn.save host changed).1.draws := Nat.le_trans draws saves.frame.draws
  intro other stored
  by_cases here : other.id = changed.id
  · have match_ : other = old := row_unique Stage.id before.stages unique other old stored listed (here.trans key)
    subst match_
    refine ⟨_, (saves.mem_iff _).mpr (.inl rfl), (fixed_id _ _ saves.alike.1).trans here.symm,
      .settled order gone ?_ ?_⟩
    · exact fun waiting => away ((core_state _ _ saves.alike.2).symm.trans waiting)
    · rcases save_account host drawn changed other found with ⟨_, _, result⟩ | ⟨charged, _⟩
      · rw [result]
        exact seconds
      · rw [charged]
        exact if_neg gone
  · exact ⟨other, (saves.mem_iff other).mpr (.inr ⟨stages.symm ▸ stored, here⟩), rfl,
      .accrued (Accrues.refl host _ _ order _)⟩

theorem owning_gone (stage : Stage) (owner : stage.owning = true) : stage.state ≠ .waiting := fun waiting => by
  rw [waiting_not_owning stage waiting] at owner
  cases owner

theorem finish_away (stage : Stage) (outcome : State) (released : List Name) (evidence : Evidence) (moment : Time)
    (final : outcome ∈ terminalStates) : (stage.finish outcome released evidence moment).state ≠ .waiting := by
  unfold Stage.finish
  dsimp only
  split
  · rintro rfl
    exact absurd final (by decide)
  · simp

theorem complete_elapse (host : Host) (id : Id) (epoch : Nat) (outcome : State) (released : List Name)
    (evidence : Evidence) (before after : Ledger) (unique : (stageIds before).Nodup) (final : outcome ∈ terminalStates)
    (done : before.complete host id epoch outcome released evidence = .ok after) : Elapse host before after := by
  obtain ⟨stage, found, rest⟩ := (bind_ok_iff _ _ _).mp done
  simp only [bind_ok_iff, refuse_ok_iff, exists_const] at rest
  obtain ⟨guard, _, _, _, _, _, _, delivered⟩ := rest
  obtain ⟨listed, rfl⟩ := stage_ok before id stage found
  simp only [ne_eq, not_or, not_not, Bool.not_eq_false] at guard
  have stands := outcomes_stands _ _ _ delivered
  have elapse := save_elapse host before (before.now host).1
    (stage.finish outcome released evidence (before.now host).2) stage unique rfl (Nat.le_succ _) listed rfl rfl
    (owning_gone stage guard.2) (finish_away stage outcome released evidence _ final)
  intro old stored
  obtain ⟨new, present, same, elapses⟩ := elapse old stored
  refine ⟨new, ?_, same, ?_⟩
  · rw [stands.stages]
    exact present
  · rw [stands.draws]
    exact elapses

theorem perform_elapse (host : Host) (steady : Monotone host.clock) (before after : Ledger) (call : Call)
    (answer : Answer) (consistent : Consistent host before) (done : perform host before call = .ok (after, answer)) :
    Elapse host before after := by
  have unique := consistent.ids
  cases call with
  | configure raw =>
      obtain ⟨next, configured, rest⟩ := (bind_ok_iff _ _ _).mp done
      cases rest
      obtain ⟨registry, _, configures⟩ := configure_configures raw before after configured
      rw [configures.result]
      exact (Accrue.of_same host before _ (Nat.le_refl _) fun _ stored => stored).elapse
  | submit project external plan subscriber =>
      obtain ⟨⟨next, id⟩, submitted, rest⟩ := (bind_ok_iff _ _ _).mp done
      cases rest
      cases submit_ok host project external plan subscriber before after id consistent.toNumbered submitted with
      | replayed => exact (Accrue.of_same host before _ (Nat.le_refl _) fun _ stored => stored).elapse
      | inserted _ _ rows _ _ _ _ inserted =>
          exact (Accrue.of_same host before _ (Nat.le_of_lt inserted.draws) fun row stored =>
            inserted.stages ▸ List.mem_append_left rows stored).elapse
  | schedule unavailable =>
      obtain ⟨⟨next, granted⟩, scheduled, rest⟩ := (bind_ok_iff _ _ _).mp done
      cases rest
      exact (schedule_accrues host steady unavailable before after granted unique scheduled).elapse
  | attach id epoch identity =>
      obtain ⟨next, attached, rest⟩ := (bind_ok_iff _ _ _).mp done
      cases rest
      simp only [Ledger.attach, bind_ok_iff, refuse_ok_iff, exists_const, pure_ok, Except.ok.injEq] at attached
      obtain ⟨stage, found, guard, rfl⟩ := attached
      obtain ⟨listed, rfl⟩ := stage_ok before id stage found
      simp only [ne_eq, not_or, not_not] at guard
      exact save_elapse host before before { stage with state := .launching, supervisorIdentity :=
        identity } stage unique
        rfl (Nat.le_refl _) listed rfl rfl (by simp [guard.1]) (by simp)
  | annotate id epoch fields =>
      obtain ⟨next, annotated, rest⟩ := (bind_ok_iff _ _ _).mp done
      cases rest
      simp only [Ledger.annotate, bind_ok_iff, refuse_ok_iff, exists_const, pure_ok, Except.ok.injEq] at annotated
      obtain ⟨stage, found, guard, _, rfl⟩ := annotated
      obtain ⟨listed, rfl⟩ := stage_ok before id stage found
      simp only [ne_eq, not_or, not_not, Bool.not_eq_false] at guard
      exact save_elapse host before before { stage with
        runner := fields.items.foldl (fun runner field => runner.set field.1 field.2) stage.runner } stage unique
        rfl (Nat.le_refl _) listed rfl rfl (owning_gone stage guard.2) (owning_gone stage guard.2)
  | admitStage id token =>
      obtain ⟨⟨next, stage⟩, admitted, rest⟩ := (bind_ok_iff _ _ _).mp done
      cases rest
      simp only [Ledger.admitStage, bind_ok_iff, refuse_ok_iff, exists_const, pure_ok, Except.ok.injEq] at admitted
      obtain ⟨old, found, guard, _, _, _, result⟩ := admitted
      obtain ⟨listed, rfl⟩ := stage_ok before id old found
      simp only [ne_eq, not_or, not_not] at guard
      have elapse := save_elapse host before (before.now host).1
        { old with state := .running, startedAt := some (before.now host).2 } old unique rfl
        (Nat.le_succ _) listed rfl rfl
        (by simp [guard.1]) (by simp)
      rwa [result] at elapse
  | cancel request =>
      obtain ⟨next, cancelled, rest⟩ := (bind_ok_iff _ _ _).mp done
      cases rest
      exact (cancel_accrues host steady request before after unique cancelled).elapse
  | subscribe request plan subscriber remove =>
      obtain ⟨next, subscribed, rest⟩ := (bind_ok_iff _ _ _).mp done
      cases rest
      have resubscribes :=
        subscribe_resubscribes host request plan subscriber remove before after consistent.requestIds subscribed
      exact (Accrue.of_same host before after (Nat.le_of_eq resubscribes.draws.symm) fun _ stored =>
        resubscribes.stages ▸ stored).elapse
  | abortUnadmitted id epoch token identity =>
      obtain ⟨⟨next, released⟩, aborted, rest⟩ := (bind_ok_iff _ _ _).mp done
      cases rest
      have idle : Elapse host before before :=
        (Accrue.of_same host before _ (Nat.le_refl _) fun _ stored => stored).elapse
      obtain ⟨stage, _, rest⟩ := (bind_ok_iff _ _ _).mp aborted
      split at rest
      · cases rest
        exact idle
      · split at rest
        · split at rest
          · cases rest
            exact idle
          · obtain ⟨authentic, _, rest⟩ := (bind_ok_iff _ _ _).mp rest
            split at rest
            · cases rest
              exact idle
            · obtain ⟨next, completed, rest⟩ := (bind_ok_iff _ _ _).mp rest
              cases rest
              exact complete_elapse host id epoch .cancelled _ _ before _ unique (by decide) completed
        · split at rest
          · cases rest
            exact idle
          · obtain ⟨next, completed, rest⟩ := (bind_ok_iff _ _ _).mp rest
            cases rest
            exact complete_elapse host id epoch .failed _ _ before _ unique (by decide) completed
  | finish id epoch outcome released evidence =>
      obtain ⟨next, finished, rest⟩ := (bind_ok_iff _ _ _).mp done
      cases rest
      simp only [Ledger.finish, bind_ok_iff, refuse_ok_iff, exists_const, not_not] at finished
      exact complete_elapse host id epoch outcome released evidence before after unique finished.1 finished.2
  | recover id epoch released evidence =>
      obtain ⟨next, recovered, rest⟩ := (bind_ok_iff _ _ _).mp done
      cases rest
      simp only [Ledger.recover, Ledger.finish, bind_ok_iff, refuse_ok_iff, exists_const, not_not] at recovered
      obtain ⟨stage, _, _, final, completed⟩ := recovered
      exact complete_elapse host id epoch _ released evidence before after unique final completed

end OrchestratorEngine.ResourceQueue
