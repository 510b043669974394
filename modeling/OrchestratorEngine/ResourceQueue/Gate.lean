import OrchestratorEngine.ResourceQueue.Rows

set_option autoImplicit false

namespace OrchestratorEngine.ResourceQueue

open Foundation

-- What a pass may do to one row: only a waiting stage changes, and it goes on
-- waiting, is skipped or is granted.
structure Advance (old new : Stage) : Prop where
  fixed : new.fixed = old.fixed
  idle : old.state ≠ .waiting → new.core = old.core
  moved : old.state = .waiting → new.state ∈ [State.waiting, .skipped, .granted]

theorem Advance.refl (stage : Stage) : Advance stage stage :=
  ⟨rfl, fun _ => rfl, fun waiting => by simp [waiting]⟩

theorem Advance.trans {first second third : Stage} (lower : Advance first second) (upper : Advance second third) :
    Advance first third := by
  refine ⟨upper.fixed.trans lower.fixed, fun idle => ?_, fun waiting => ?_⟩
  · have same := lower.idle idle
    rw [upper.idle (core_state _ _ same ▸ idle), same]
  · by_cases still : second.state = .waiting
    · exact upper.moved still
    · rw [core_state _ _ (upper.idle still)]
      exact lower.moved waiting

def Advances (before after : Ledger) : Prop := List.Forall₂ Advance before.stages after.stages

variable (ledger : Ledger)

theorem Advances.refl : Advances ledger ledger :=
  List.forall₂_same.mpr fun stage _ => Advance.refl stage

theorem Advances.trans {first second third : Ledger} (lower : Advances first second) (upper : Advances second third) :
    Advances first third :=
  forall₂_trans Advance (fun _ _ _ => Advance.trans) _ _ _ lower upper

variable {before after : Ledger}

theorem Advances.ids (advances : Advances before after) : stageIds after = stageIds before :=
  forall₂_keys Stage.id Advance _ _ (fun _ _ step => fixed_id _ _ step.fixed) advances

theorem mem_predecessors (stage other : Stage) :
    other ∈ predecessors ledger stage ↔
      other ∈ ledger.stages ∧ other.request = stage.request ∧ other.name ∈ stage.after := by
  simp only [predecessors, Ledger.stagesOf, List.mem_filter, decide_eq_true_eq, and_assoc]

theorem predecessors_fixed (stage row : Stage) (same : row.fixed = stage.fixed) :
    predecessors ledger row = predecessors ledger stage := by
  have request : row.request = stage.request := congrArg Fixed.request same
  have after : row.after = stage.after := congrArg Fixed.after same
  rw [predecessors, predecessors, request, after]

structure Open (unavailable : List Name) (ledger : Ledger) (stage : Stage) : Prop where
  passed : ∀ other ∈ predecessors ledger stage, other.state = .passed
  available : stage.project ∉ unavailable

def Doomed (ledger : Ledger) (stage : Stage) : Prop :=
  ∃ other ∈ predecessors ledger stage, failedPredecessor other = true

theorem failed_not_passed (stage : Stage) (failed : failedPredecessor stage = true) : stage.state ≠ .passed := by
  intro passed
  simp [failedPredecessor, passed] at failed

theorem gate_reason_none (unavailable : List Name) (ledger : Ledger) (stage : Stage) :
    gateReason unavailable ledger stage = none ↔ Open unavailable ledger stage := by
  unfold gateReason
  constructor
  · intro none
    by_cases doomed : (predecessors ledger stage).any failedPredecessor = true
    · rw [if_pos doomed] at none
      cases none
    · rw [if_neg doomed] at none
      by_cases pending : (predecessors ledger stage).any (fun other => decide (other.state ≠ .passed)) = true
      · rw [if_pos pending] at none
        cases none
      · rw [if_neg pending] at none
        by_cases missing : stage.project ∈ unavailable
        · rw [if_pos missing] at none
          cases none
        · exact ⟨by simpa using pending, missing⟩
  · intro gate
    have sound : ¬ (predecessors ledger stage).any failedPredecessor = true := by
      rw [List.any_eq_true]
      rintro ⟨other, listed, failed⟩
      exact failed_not_passed other failed (gate.passed other listed)
    have settled : ¬ (predecessors ledger stage).any (fun other => decide (other.state ≠ .passed)) = true := by
      rw [List.any_eq_true]
      rintro ⟨other, listed, pending⟩
      exact of_decide_eq_true pending (gate.passed other listed)
    rw [if_neg sound, if_neg settled, if_neg gate.available]

theorem gate_reason_failed (unavailable : List Name) (ledger : Ledger) (stage : Stage) :
    gateReason unavailable ledger stage = some .dependencyFailed ↔ Doomed ledger stage := by
  have exact_ : Doomed ledger stage ↔ (predecessors ledger stage).any failedPredecessor = true :=
    List.any_eq_true.symm
  rw [exact_, gateReason]
  by_cases doomed : (predecessors ledger stage).any failedPredecessor = true
  · exact ⟨fun _ => doomed, fun _ => if_pos doomed⟩
  · rw [if_neg doomed]
    refine ⟨fun wrong => ?_, fun failed => absurd failed doomed⟩
    split at wrong
    · cases wrong
    · split at wrong <;> cases wrong

theorem advance_failed (old new : Stage) (advance : Advance old new) (failed : failedPredecessor old = true) :
    failedPredecessor new = true := by
  have notWaiting : old.state ≠ .waiting := by
    intro waiting
    simp [failedPredecessor, waiting, terminalStates] at failed
  have same := advance.idle notWaiting
  have state := core_state _ _ same
  have outcome : new.outcome = old.outcome := congrArg Core.outcome same
  simpa [failedPredecessor, state, outcome] using failed

theorem advance_passed (old new : Stage) (advance : Advance old new) : new.state = .passed ↔ old.state = .passed := by
  by_cases waiting : old.state = .waiting
  · have moved := advance.moved waiting
    simp only [waiting, reduceCtorEq, iff_false]
    rintro passed
    simp [passed] at moved
  · rw [core_state _ _ (advance.idle waiting)]

theorem advances_predecessor (advances : Advances before after) (stage other : Stage)
    (listed : other ∈ predecessors before stage) : ∃ later ∈ predecessors after stage, Advance other later := by
  obtain ⟨member, request, name⟩ := (mem_predecessors before stage other).mp listed
  obtain ⟨later, present, advance⟩ := forall₂_mem_left _ _ _ advances other member
  refine ⟨later, (mem_predecessors after stage later).mpr ⟨present, ?_, ?_⟩, advance⟩
  · exact (congrArg Fixed.request advance.fixed).trans request
  · have same : later.name = other.name := congrArg Fixed.name advance.fixed
    exact same ▸ name

theorem advances_predecessor_back (advances : Advances before after) (stage later : Stage)
    (listed : later ∈ predecessors after stage) : ∃ other ∈ predecessors before stage, Advance other later := by
  obtain ⟨member, request, name⟩ := (mem_predecessors after stage later).mp listed
  obtain ⟨other, present, advance⟩ := forall₂_mem_right _ _ _ advances later member
  refine ⟨other, (mem_predecessors before stage other).mpr ⟨present, ?_, ?_⟩, advance⟩
  · exact (congrArg Fixed.request advance.fixed).symm.trans request
  · have same : later.name = other.name := congrArg Fixed.name advance.fixed
    exact same ▸ name

theorem advances_doomed (advances : Advances before after) (stage : Stage)
    (doomed : Doomed before stage) : Doomed after stage := by
  obtain ⟨other, listed, failed⟩ := doomed
  obtain ⟨later, present, advance⟩ := advances_predecessor advances stage other listed
  exact ⟨later, present, advance_failed other later advance failed⟩

theorem advances_open (advances : Advances before after) (unavailable : List Name)
    (stage : Stage) : Open unavailable after stage ↔ Open unavailable before stage := by
  constructor
  · rintro ⟨passed, available⟩
    refine ⟨fun other listed => ?_, available⟩
    obtain ⟨later, present, advance⟩ := advances_predecessor advances stage other listed
    exact (advance_passed other later advance).mp (passed later present)
  · rintro ⟨passed, available⟩
    refine ⟨fun later listed => ?_, available⟩
    obtain ⟨other, present, advance⟩ := advances_predecessor_back advances stage later listed
    exact (advance_passed other later advance).mpr (passed other present)

theorem open_fixed (unavailable : List Name) (ledger : Ledger) (stage row : Stage) (same : row.fixed = stage.fixed) :
    Open unavailable ledger row ↔ Open unavailable ledger stage := by
  have project : row.project = stage.project := congrArg Fixed.project same
  constructor
  · exact fun gate => ⟨predecessors_fixed ledger stage row same ▸ gate.passed, project ▸ gate.available⟩
  · exact fun gate => ⟨(predecessors_fixed ledger stage row same).symm ▸ gate.passed, project.symm ▸ gate.available⟩

inductive Gate (unavailable : List Name) (ledger : Ledger) (stage row : Stage) : Prop where
  | idle (state : stage.state ≠ .waiting) (same : row = stage)
  | skipped (state : stage.state = .waiting) (doomed : Doomed ledger stage) (fixed : row.fixed = stage.fixed)
      (core : row.core = { stage.core with state := .skipped, readySeq := none, protection := none })
  | closed (state : stage.state = .waiting) (shut : ¬ Open unavailable ledger stage) (fixed : row.fixed = stage.fixed)
      (core : row.core = { stage.core with readySeq := none, protection := none })
  | opened (state : stage.state = .waiting) (gate : Open unavailable ledger stage) (fixed : row.fixed = stage.fixed)
      (number : Nat) (known : ∀ earlier, stage.readySeq = some earlier → number = earlier)
      (core : row.core = { stage.core with readySeq := some number })

variable {unavailable : List Name} {stage row : Stage}

theorem Gate.later
    (advances : Advances before after) (gate : Gate unavailable before stage row) :
    Gate unavailable after stage row := by
  cases gate with
  | idle state same => exact .idle state same
  | skipped state doomed fixed core => exact .skipped state (advances_doomed advances stage doomed) fixed core
  | closed state shut fixed core =>
      exact .closed state (mt (advances_open advances unavailable stage).mp shut) fixed core
  | opened state gate fixed number known core =>
      exact .opened state ((advances_open advances unavailable stage).mpr gate) fixed number known core

theorem Gate.fixed {ledger : Ledger}
    (gate : Gate unavailable ledger stage row) : row.fixed = stage.fixed := by
  cases gate with
  | idle _ same => rw [same]
  | skipped _ _ fixed _ => exact fixed
  | closed _ _ fixed _ => exact fixed
  | opened _ _ fixed _ _ _ => exact fixed

theorem Gate.advance {ledger : Ledger}
    (gate : Gate unavailable ledger stage row) : Advance stage row := by
  refine ⟨gate.fixed, fun idle => ?_, fun waiting => ?_⟩
  · cases gate with
    | idle _ same => rw [same]
    | skipped state _ _ _ => exact absurd state idle
    | closed state _ _ _ => exact absurd state idle
    | opened state _ _ _ _ _ => exact absurd state idle
  · cases gate with
    | idle state _ => exact absurd waiting state
    | skipped _ _ _ core =>
        have state : row.state = .skipped := congrArg Core.state core
        simp [state]
    | closed _ _ _ core =>
        have state : row.state = stage.state := congrArg Core.state core
        simp [state, waiting]
    | opened _ _ _ _ _ core =>
        have state : row.state = stage.state := congrArg Core.state core
        simp [state, waiting]

-- The gate writes every row it changes, except that an opened stage keeps its
-- row until it is visited.
structure GateStep (unavailable : List Name) (before : Ledger) (stage : Stage) (after : Ledger) (row : Stage) :
    Prop where
  frame : Frame before after
  released : after.released = before.released
  advances : Advances before after
  gate : Gate unavailable after stage row
  written : row ∈ after.stages ∨ stage ∈ after.stages ∧ row.state = .waiting ∧ row.readySeq.isSome
  others : ∀ other ∈ before.stages, other.id ≠ stage.id → other ∈ after.stages

theorem gate_save (unavailable : List Name) (ledger after : Ledger) (stage changed row : Stage)
    (listed : stage ∈ ledger.stages) (unique : (stageIds ledger).Nodup) (key : changed.id = stage.id)
    (saves : Saves ledger changed after row) (gate : Gate unavailable ledger stage row) :
    GateStep unavailable ledger stage after row := by
  have advances : Advances ledger after :=
    saves.forall₂ unique Advance Advance.refl stage listed key.symm gate.advance
  refine ⟨saves.frame, saves.released, advances, gate.later advances, .inl ?_, fun other member different => ?_⟩
  · exact (saves.mem_iff row).mpr (.inl rfl)
  · exact (saves.mem_iff other).mpr (.inr ⟨member, key.symm ▸ different⟩)

def Stage.skip (stage : Stage) (moment : Time) : Stage :=
  { stage.gated .dependencyFailed with state := .skipped, finishedAt := some moment }

variable (host : Host)

theorem gate_stage_failed (unavailable : List Name) (ledger : Ledger) (stage : Stage)
    (waiting : stage.state = .waiting) (verdict : gateReason unavailable ledger stage = some .dependencyFailed) :
    gateStage host unavailable ledger stage = (ledger.now host).1.save host (stage.skip (ledger.now host).2) := by
  rw [gateStage, if_neg (not_not.mpr waiting), verdict]
  rfl

theorem gate_stage_closed (unavailable : List Name) (ledger : Ledger) (stage : Stage)
    (waiting : stage.state = .waiting) (reason : Reason) (other : reason ≠ .dependencyFailed)
    (verdict : gateReason unavailable ledger stage = some reason) :
    gateStage host unavailable ledger stage = ledger.save host (stage.gated reason) := by
  rw [gateStage, if_neg (not_not.mpr waiting), verdict]
  cases reason with
  | dependencyFailed => exact absurd rfl other
  | _ => rfl

theorem gate_stage_known (unavailable : List Name) (ledger : Ledger) (stage : Stage)
    (waiting : stage.state = .waiting) (verdict : gateReason unavailable ledger stage = none)
    (known : stage.readySeq.isSome = true) : gateStage host unavailable ledger stage = (ledger, stage) := by
  rw [gateStage, if_neg (not_not.mpr waiting), verdict]
  exact if_pos known

theorem gate_stage_numbered (unavailable : List Name) (ledger : Ledger) (stage : Stage)
    (waiting : stage.state = .waiting) (verdict : gateReason unavailable ledger stage = none)
    (fresh : ¬ stage.readySeq.isSome = true) :
    gateStage host unavailable ledger stage = ((ledger.now host).1.nextSequence.1,
      { stage with readyAt := some (ledger.now host).2, readySeq := some (ledger.sequence + 1) }) := by
  rw [gateStage, if_neg (not_not.mpr waiting), verdict]
  exact if_neg fresh

theorem gate_stage_step (unavailable : List Name) (ledger : Ledger) (stage : Stage)
    (listed : stage ∈ ledger.stages) (unique : (stageIds ledger).Nodup) :
    GateStep unavailable ledger stage (gateStage host unavailable ledger stage).1
      (gateStage host unavailable ledger stage).2 := by
  by_cases waiting : stage.state = .waiting
  · cases verdict : gateReason unavailable ledger stage with
    | none =>
        have gate := (gate_reason_none unavailable ledger stage).mp verdict
        by_cases known : stage.readySeq.isSome = true
        · obtain ⟨number, same⟩ := Option.isSome_iff_exists.mp known
          have core : stage.core = { stage.core with readySeq := some number } := by simp [Stage.core, same]
          rw [gate_stage_known host unavailable ledger stage waiting verdict known]
          have still : ∀ earlier, stage.readySeq = some earlier → number = earlier :=
            fun earlier was => Option.some.inj (same.symm.trans was)
          exact ⟨Frame.refl _, rfl, Advances.refl _, .opened waiting gate rfl number still core, .inl listed,
            fun other member _ => member⟩
        · rw [gate_stage_numbered host unavailable ledger stage waiting verdict known]
          exact ⟨⟨rfl, rfl, rfl, rfl, Nat.le_succ _, Nat.le_succ _⟩, rfl, Advances.refl _,
            .opened waiting ⟨gate.passed, gate.available⟩ rfl (ledger.sequence + 1)
              (fun earlier was => absurd (by simp [was]) known) rfl,
            .inr ⟨listed, waiting, rfl⟩, fun other member _ => member⟩
    | some reason =>
        by_cases failed : reason = .dependencyFailed
        · subst failed
          have doomed := (gate_reason_failed unavailable ledger stage).mp verdict
          rw [gate_stage_failed host unavailable ledger stage waiting verdict]
          have saves := (save_saves host (ledger.now host).1 (stage.skip (ledger.now host).2)).after_now host
          exact gate_save unavailable ledger _ stage (stage.skip _) _ listed unique rfl saves
            (.skipped waiting doomed saves.alike.1 saves.alike.2)
        · have shut : ¬ Open unavailable ledger stage := fun gate => by
            rw [(gate_reason_none unavailable ledger stage).mpr gate] at verdict
            cases verdict
          rw [gate_stage_closed host unavailable ledger stage waiting reason failed verdict]
          have saves := save_saves host ledger (stage.gated reason)
          exact gate_save unavailable ledger _ stage (stage.gated reason) _ listed unique rfl saves
            (.closed waiting shut saves.alike.1 saves.alike.2)
  · have still : gateStage host unavailable ledger stage = (ledger, stage) := if_pos waiting
    rw [still]
    exact ⟨Frame.refl _, rfl, Advances.refl _, .idle waiting rfl, .inl listed, fun other member _ => member⟩

structure GateRun (unavailable : List Name) (before : Ledger) (stages : List Stage) (after : Ledger)
    (rows : List Stage) : Prop where
  frame : Frame before after
  released : after.released = before.released
  advances : Advances before after
  gates : List.Forall₂ (fun stage row => Gate unavailable after stage row ∧
    (row ∈ after.stages ∨ stage ∈ after.stages ∧ row.ready = true)) stages rows
  others : ∀ other ∈ before.stages, other.id ∉ stages.map (fun stage => stage.id) → other ∈ after.stages

theorem gate_stages_run (unavailable : List Name) (ledger : Ledger) (stages : List Stage)
    (listed : ∀ stage ∈ stages, stage ∈ ledger.stages) (distinct : (stages.map (fun stage => stage.id)).Nodup)
    (unique : (stageIds ledger).Nodup) :
    GateRun unavailable ledger stages (gateStages host unavailable ledger stages).1
      (gateStages host unavailable ledger stages).2 := by
  induction stages generalizing ledger with
  | nil => exact ⟨Frame.refl _, rfl, Advances.refl _, .nil, fun other member _ => member⟩
  | cons stage rest ih =>
      have step := gate_stage_step host unavailable ledger stage (listed stage (by simp)) unique
      rw [gateStages]
      generalize gateStage host unavailable ledger stage = result at step ⊢
      obtain ⟨middle, row⟩ := result
      simp only at step ⊢
      obtain ⟨fresh, distinctRest⟩ := List.nodup_cons.mp distinct
      have apart : ∀ later ∈ rest, later.id ≠ stage.id := fun later member same =>
        fresh (List.mem_map.mpr ⟨later, member, same⟩)
      have run := ih middle
        (fun later member => step.others later (listed later (by simp [member])) (apart later member)) distinctRest
        (by rw [step.advances.ids]; exact unique)
      have keep : ∀ other ∈ middle.stages, other.id = stage.id →
          other ∈ (gateStages host unavailable middle rest).1.stages := fun other member same =>
        run.others other member (same ▸ fresh)
      refine ⟨step.frame.trans run.frame, run.released.trans step.released, step.advances.trans run.advances,
        .cons ⟨step.gate.later run.advances, ?_⟩ run.gates, fun other member outside => ?_⟩
      · rcases step.written with written | ⟨kept, waiting, numbered⟩
        · exact .inl (keep row written (fixed_id _ _ step.gate.fixed))
        · exact .inr ⟨keep stage kept rfl, by simp [Stage.ready, waiting, numbered]⟩
      · rw [List.map_cons, List.mem_cons, not_or] at outside
        exact run.others other (step.others other member outside.1) outside.2

end OrchestratorEngine.ResourceQueue
