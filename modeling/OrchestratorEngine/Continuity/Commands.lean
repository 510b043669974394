import OrchestratorEngine.Continuity.Requests

set_option autoImplicit false

namespace OrchestratorEngine.Continuity

open Foundation

theorem assignment_ledger_noted (obligationId actorId : String) (sources previous : List SourceKey)
    (handled reprocessed : List Outcome) (start final : Database) (acknowledged : List Outcome)
    (run : nextAssignmentHandledResults obligationId actorId sources previous handled reprocessed start =
      .ok (acknowledged, final)) :
    ∃ assignmentHandledResults, final = ⟨{ start.store with assignmentHandledResults }, start.log⟩ := by
  simp only [nextAssignmentHandledResults, Tx.bind_done, Tx.read_done, Tx.ask_done] at run
  obtain ⟨_, _, ⟨rfl, rfl⟩, _, _, ⟨_, rfl⟩, _, _, ⟨_, rfl⟩, _, start, ⟨rfl, rfl⟩, _, middle, first, _, last, second,
    _, rfl⟩ := run
  have acknowledging : ∃ rows, middle = ⟨{ start.store with assignmentHandledResults := rows }, start.log⟩ := by
    refine Tx.each_rule _ (fun _ now => ∃ rows,
      now = ⟨{ start.store with assignmentHandledResults := rows }, start.log⟩)
      _ start middle _ ⟨_, rfl⟩ ?_ first
    rintro front outcome back now next split ⟨rows, rfl⟩ round
    simp only [acknowledgeAssignment, Tx.bind_done, Tx.ask_done] at round
    obtain ⟨source, _, ⟨rfl, rfl⟩, round⟩ := round
    cases known : Store.source? { start.store with assignmentHandledResults := rows } outcome with
    | none => simp [known] at round
    | some source =>
        simp only [known, Tx.bind_done, Tx.require_done, Tx.edit_done] at round
        obtain ⟨_, _, ⟨_, rfl⟩, _, _, ⟨_, rfl⟩, rfl⟩ := round
        exact ⟨_, rfl⟩
  obtain ⟨rows, rfl⟩ := acknowledging
  refine Tx.each_rule _ (fun _ now => ∃ rows, now = ⟨{ start.store with assignmentHandledResults := rows }, start.log⟩)
    _ _ final _ ⟨rows, rfl⟩ ?_ second
  rintro front outcome back now next split ⟨rows, rfl⟩ round
  simp only [reprocessAssignment, Tx.bind_done, Tx.ask_done, Tx.require_done, Tx.edit_done] at round
  obtain ⟨_, _, ⟨rfl, rfl⟩, _, _, ⟨_, rfl⟩, rfl⟩ := round
  exact ⟨_, rfl⟩

variable {obligation : Obligation}

theorem step_row {store : Store} (row : AssignmentCheckpoint)
    (found : store.obligation? obligation.obligationId = some obligation) :
    (store.step obligation row).obligation? obligation.obligationId =
      some (if row.mode = .paused then obligation else obligation.renewed) := by
  by_cases paused : row.mode = .paused
  · simp only [Store.step, paused, if_true]
    exact found
  · simp only [Store.step, paused, if_false]
    have changed := amend_obligation_row store obligation.obligationId obligation.obligationId Obligation.renewed
      fun _ => rfl
    exact changed.trans (by simp [found])

theorem step_checkpoint {row : AssignmentCheckpoint} (store : Store)
    (named : row.obligationId = obligation.obligationId) :
    (store.step obligation row).checkpoint? obligation.obligationId = some row := by
  rw [← named]
  unfold Store.step
  split <;> exact put_row _ _ _

theorem step_idle {store : Store} (sound : Sound store) {actor : Actor}
    (found : store.obligation? obligation.obligationId = some obligation)
    (known : requireActor store obligation.assigneeActor = .ok actor) (row : AssignmentCheckpoint)
    (reasons : List Reason) :
    activeObligationActivation (store.step obligation row) obligation.renewed reasons = .ok none := by
  have actors : (store.step obligation row).actors = store.actors := by
    unfold Store.step
    split <;> rfl
  have activations : (store.step obligation row).activations =
      (revokeObligationActivations obligation.obligationId store).activations := by
    unfold Store.step
    split <;> rfl
  refine no_active_obligation reasons (show _ = Except.ok actor from ?_) fun activation listed marked stamped => ?_
  · have same : requireActor (store.step obligation row) obligation.assigneeActor =
        requireActor store obligation.assigneeActor := by
      unfold requireActor Store.actor?
      rw [actors]
    exact same.trans known
  · rw [activations] at listed
    obtain ⟨old, present, rfl⟩ := List.mem_map.mp listed
    have kept := revoke_kept
      (fun activation => decide (Mark.obligation obligation.obligationId ∈ activation.manifest)) old
    rw [kept.manifest] at marked
    obtain ⟨same, current, _, _, generation, was, bound⟩ := sound.assigned old present obligation.obligationId marked
    rw [found] at current
    cases current
    rw [kept.assignmentGeneration, was] at stamped
    have raised := Option.some.inj stamped
    simp only [Obligation.renewed] at raised
    omega

variable (world : World)

theorem continue_assignment_grows (work : Work) (step : AssignmentStep) (obligation : Obligation)
    (row : AssignmentCheckpoint) (start final : Database) (created : Option Nat) (generation : Nat)
    (current : start.store.work? work.workId = some work) (place : obligation.workId = work.workId)
    (found : start.store.obligation? obligation.obligationId = some obligation) (opened : obligation.status = .opened)
    (kept : start.store.checkpoint? obligation.obligationId = some row) (mode : row.mode = step.mode)
    (named : step.obligationId = obligation.obligationId) (assignee : step.actorId = obligation.assigneeActor)
    (stamped : generation = obligation.generation)
    (idle : step.mode = .continues →
      activeObligationActivation start.store obligation [.assignmentContinue] = .ok none)
    (run : continueAssignment world work step generation start = .ok (created, final)) :
    Grows .ordinary start final := by
  simp only [continueAssignment, Tx.bind_done, Tx.ask_done] at run
  obtain ⟨stopped, start, ⟨rfl, rfl⟩, run⟩ := run
  split at run
  · rename_i going
    simp only [Tx.bind_done, Tx.pure_done] at run
    obtain ⟨id, _, made, _, rfl⟩ := run
    subst stamped
    refine .one (create_grows .ordinary world work _ _ _ _ _ _ _ id current made
      (fun activation sameWork actor generation reason manifest _ =>
        .carried obligation _ row ⟨found, opened, rfl, kept⟩ (mode.trans going.1) (idle going.1) reason [] (.inl rfl)
          ⟨sameWork.trans place.symm, actor.trans assignee, generation, by rw [manifest, named]; rfl⟩) (.inr going.2))
  · exact (Tx.pure_done _).mp run |>.2 ▸ .refl

theorem wait_assignment_restores (work : Work) (step : AssignmentStep) (sources : List SourceKey)
    (obligation : Obligation) (start final : Database) (created : Option Nat)
    (found : start.store.obligation? step.obligationId = some obligation) (place : obligation.workId = work.workId)
    (assignee : step.actorId = obligation.assigneeActor)
    (run : waitAssignment world work step sources start = .ok (created, final)) : Restores .ordinary start final := by
  rw [waitAssignment] at run
  split at run
  · simp only [Tx.bind_done, Tx.ask_done] at run
    obtain ⟨stopped, start, ⟨rfl, rfl⟩, _, middle, recorded, run⟩ := run
    have restored := reconcile_sources_restores .ordinary world sources start middle _ recorded
    split at run
    · rename_i quiet
      refine restored.trans (Grows.restores (evaluate_assignment_grows .ordinary world _ middle final created ?_ run))
      intro other row
      have kept := restored.framed.obligation step.obligationId
      rw [row] at kept
      cases (kept.trans found : some other = some obligation)
      rw [restored.framed.stop, place, ← assignee]
      exact quiet
    · exact (Tx.pure_done _).mp run |>.2 ▸ restored
  · exact (Tx.pure_done _).mp run |>.2 ▸ .refl

theorem stepped_assignment_restores (step : AssignmentStep) (sources : List SourceKey)
    (obligation : Obligation) (row : AssignmentCheckpoint) (revision generation : Nat) (start final : Database)
    (reply : AssignmentReply) (found : start.store.obligation? obligation.obligationId = some obligation)
    (opened : obligation.status = .opened) (kept : start.store.checkpoint? obligation.obligationId = some row)
    (mode : row.mode = step.mode) (named : step.obligationId = obligation.obligationId)
    (assignee : step.actorId = obligation.assigneeActor) (stamped : generation = obligation.generation)
    (idle : step.mode = .continues →
      activeObligationActivation start.store obligation [.assignmentContinue] = .ok none)
    (run : (do
      Tx.edit (resolveIncidents step.obligationId)
      let work ← Tx.read fun store => requireWork store obligation.workId
      let continued ← continueAssignment world work step generation
      let woken ← waitAssignment world work step sources
      return ⟨revision, generation, continued.orElse fun _ => woken⟩ : Transaction AssignmentReply) start =
        .ok (reply, final)) : Restores .ordinary start final := by
  simp only [Tx.bind_done, Tx.edit_done, Tx.read_done, Tx.pure_done] at run
  obtain ⟨_, _, rfl, work, _, ⟨owner, rfl⟩, created, last, continued, woken, _, waited, _, rfl⟩ := run
  have incidents : Restore .ordinary start ⟨resolveIncidents step.obligationId start.store, start.log⟩ :=
    .grow (.beside start.store.recoveryPolicies (resolveIncidents step.obligationId start.store).recoveryIncidents
      start.store.responses start.store.metadata)
  have workRow : start.store.work? obligation.workId = some work := require_work_ok _ _ _ owner
  have workId := work_row_id workRow
  have grown := continue_assignment_grows world work step obligation row
    ⟨resolveIncidents step.obligationId start.store, start.log⟩ last created generation (workId ▸ workRow)
    workId.symm found opened kept mode named assignee stamped idle continued
  refine .head incidents ((Grows.restores grown).trans ?_)
  refine wait_assignment_restores world work step sources obligation last _ woken ?_ workId.symm assignee waited
  rw [named, grown.framed.obligation]
  exact found

theorem assignment_checkpoint_moves (step : AssignmentStep) (start final : Database)
    (reply : AssignmentReply) (sound : Sound start.store)
    (run : assignmentCheckpoint world step start = .ok (reply, final)) :
    Moves (.assignmentCheckpoint step) start final := by
  simp only [assignmentCheckpoint, Tx.bind_done, Tx.lift_done, Tx.ask_done] at run
  obtain ⟨sources, _, ⟨_, rfl⟩, _, start, ⟨rfl, rfl⟩, run⟩ := run
  cases found : start.store.obligation? step.obligationId with
  | none => simp [found] at run
  | some obligation =>
      have sameId := obligation_row_id found
      simp only [found, Tx.bind_done, Tx.require_done, Tx.read_done, Tx.ask_done, ne_eq, not_not] at run
      obtain ⟨_, _, ⟨opened, rfl⟩, _, _, ⟨current, rfl⟩, _, _, ⟨rfl, rfl⟩, _, start, ⟨_, rfl⟩, acknowledged, noted,
        ledger, run⟩ := run
      obtain ⟨rows, rfl⟩ := assignment_ledger_noted _ _ _ _ _ _ _ _ _ ledger
      have noting : Edit (.assignmentCheckpoint step) start.store
        { start.store with assignmentHandledResults := rows } :=
        .noted rows
      have notedSound := (noting.evolved sound).sound sound
      have row : Store.obligation? { start.store with assignmentHandledResults := rows } obligation.obligationId =
          some obligation := sameId ▸ found
      have claim : assertCurrentAssignmentClaim { start.store with assignmentHandledResults := rows } obligation
          step.actorId step.activationId = .ok () := current
      have fence := assignment_claim_ok claim
      obtain ⟨assignee, _, _, actor, activation, known, _⟩ := fence
      refine .head (.edit noting) ?_
      generalize ({ start.store with assignmentHandledResults := rows } : Store) = written at *
      have stepping (generation revision : Nat)
          (stamped : generation = if step.mode = .paused then obligation.generation else obligation.generation + 1) :
          Edit (.assignmentCheckpoint step) written
            (written.step obligation (step.row sources acknowledged generation revision)) :=
        .step step rfl obligation _ row opened (assignment_claim_ok claim) sameId rfl sameId.symm stamped
      generalize ((start.store.checkpoint? step.obligationId).map AssignmentCheckpoint.revision).getD 0 +
        1 = revision at run
      by_cases paused : step.mode = .paused
      · simp only [if_pos paused] at run stepping
        have taken := stepping obligation.generation revision rfl
        have placed : putCheckpoint (step.row sources acknowledged obligation.generation revision)
            (revokeObligationActivations step.obligationId written) =
            written.step obligation (step.row sources acknowledged obligation.generation revision) := by
          simp only [Store.step, AssignmentStep.row, paused, if_true, sameId]
        obtain ⟨_, _, revoked, rest⟩ := (Tx.bind_done _ _).mp run
        obtain ⟨_, _, put, rest⟩ := (Tx.bind_done _ _).mp rest
        rw [(Tx.edit_done _ _).mp put, (Tx.edit_done _ _).mp revoked, placed] at rest
        have current := (step_row (step.row sources acknowledged obligation.generation revision) row).trans
          (congrArg some (if_pos paused))
        exact .head (.edit taken) (Restores.moves (stepped_assignment_restores world step sources obligation
          (step.row sources acknowledged obligation.generation revision) _ _ _ final reply current opened
          (step_checkpoint written sameId.symm) rfl sameId.symm assignee.symm rfl
          (fun going => by simp [paused] at going) rest))
      · simp only [if_neg paused] at run stepping
        have taken := stepping (obligation.generation + 1) revision rfl
        have placed : putCheckpoint (step.row sources acknowledged (obligation.generation + 1) revision)
            (revokeObligationActivations step.obligationId
              (amendObligation step.obligationId Obligation.renewed written)) =
            written.step obligation (step.row sources acknowledged (obligation.generation + 1) revision) := by
          simp only [Store.step, AssignmentStep.row, paused, if_false, sameId]
        obtain ⟨_, _, renewing, rest⟩ := (Tx.bind_done _ _).mp run
        obtain ⟨_, _, revoked, rest⟩ := (Tx.bind_done _ _).mp rest
        obtain ⟨_, _, put, rest⟩ := (Tx.bind_done _ _).mp rest
        rw [(Tx.edit_done _ _).mp put, (Tx.edit_done _ _).mp revoked, (Tx.edit_done _ _).mp renewing, placed] at rest
        have current := (step_row (step.row sources acknowledged (obligation.generation + 1) revision) row).trans
          (congrArg some (if_neg paused))
        have idle := step_idle notedSound row (assignee ▸ known)
          (step.row sources acknowledged (obligation.generation + 1) revision) [.assignmentContinue]
        exact .head (.edit taken) (Restores.moves (stepped_assignment_restores world step sources obligation.renewed
          (step.row sources acknowledged (obligation.generation + 1) revision) _ _ _ final reply current opened
          (step_checkpoint written sameId.symm) rfl sameId.symm assignee.symm rfl (fun going => idle) rest))

theorem set_recovery_control_moves (steering : Steering) (start final : Database) (done : Unit)
    (sound : Sound start.store) (run : setRecoveryControl world steering start = .ok (done, final)) :
    Moves (.setRecoveryControl steering) start final := by
  simp only [setRecoveryControl, Tx.bind_done, Tx.lift_done, Tx.read_done, Tx.edit_done] at run
  obtain ⟨_, _, ⟨_, rfl⟩, _, _, ⟨_, rfl⟩, reason, _, ⟨_, rfl⟩, actor, _, ⟨_, rfl⟩, _, start, ⟨_, rfl⟩, _, _, rfl,
    run⟩ := run
  cases state : steering.state with
  | stopped =>
      simp only [state, Tx.bind_done, Tx.edit_done] at run
      obtain ⟨_, _, rfl, rfl⟩ := run
      have control : Edit (.setRecoveryControl steering) start.store _ :=
        .stop ⟨steering.scopeKind, steering.scopeId, .stopped, reason⟩ rfl steering rfl rfl rfl state
      exact .tail (.single (.edit control)) (.restore (.grow (.beside start.store.recoveryPolicies
        (stopIncidents (inScope steering.scopeKind steering.scopeId) start.store).recoveryIncidents
        start.store.responses start.store.metadata)))
  | armed =>
      simp only [state] at run
      have control : Edit (.setRecoveryControl steering) start.store
          (putControl ⟨steering.scopeKind, steering.scopeId, .armed, reason⟩ start.store) :=
        .arm _ rfl steering rfl
      have armed := (control.evolved sound).sound sound
      have grown := rearm_scope_grows world steering.scopeKind steering.scopeId _ final done armed.links armed.keys run
      exact .head (.edit control) (Grows.moves grown)

theorem settle_obligation_moves (resolving : Resolving) (obligation : Obligation) (work : Work)
    (resultRef : String) (start final : Database) (done : Unit)
    (found : start.store.obligation? resolving.obligationId = some obligation) (opened : obligation.status = .opened)
    (ended : resolving.statusValue ≠ .opened) (unlinked : start.store.linkedRequest? resolving.obligationId = none)
    (owner : start.store.work? obligation.workId = some work) (ongoing : work.mode ≠ .complete)
    (assignee : obligation.assigneeActor = resolving.actorId)
    (run : settleObligation world obligation resolving resultRef start = .ok (done, final)) :
    Moves (.resolveObligation resolving) start final := by
  have named := obligation_row_id found
  simp only [settleObligation, Tx.bind_done, Tx.require_done, Tx.read_done, Tx.ask_done, Tx.edit_done,
    Tx.pure_done] at run
  obtain ⟨_, _, ⟨claim, rfl⟩, actor, _, ⟨known, rfl⟩, _, _, ⟨rfl, rfl⟩, _, start, ⟨held, rfl⟩, _, _, rfl, _, _, rfl,
    answer, middle, recording, _, _, rfl, created, _, waking, _, rfl⟩ := run
  obtain ⟨results, recorded, rfl⟩ := record_result_recorded world _ _ _ _ _ middle answer recording
  simp only [not_or, ne_eq, not_not] at claim
  have fence : Fenced start.store obligation resolving.actorId resolving.activationId := by
    have held := (Bool.not_eq_false _).mp held
    cases kept : start.store.activation? resolving.activationId with
    | none => simp [resolutionClaim, kept] at held
    | some activation =>
        have facts : activation.status = .claimed ∧ activation.actorId = actor.actorId ∧
            activation.endpointGeneration = actor.generation := by
          simpa [resolutionClaim, kept] using held
        exact ⟨assignee, claim.1, by rw [claim.2, Option.getD_some], actor, activation, known, kept, facts.1,
          facts.2.1.trans (actor_row_id known), facts.2.2⟩
  have settling : Settling start.store obligation resolving.actorId resolving.activationId resolving.statusValue results
      answer.2 := ⟨named ▸ found, opened, ended, fence, named ▸ recorded⟩
  have settled : Edit (.resolveObligation resolving) start.store
      (start.store.settle obligation.obligationId resolving.statusValue resultRef
        (fun activation => decide (Mark.obligation obligation.obligationId ∈ activation.manifest)) results) :=
    .settle resolving rfl obligation results answer.2 resultRef settling named (named ▸ unlinked) work owner ongoing
  rw [named] at settled
  have grown := evaluate_wait_grows .settling world _ _ final created (.inl rfl) waking
  have noted : Growth .settling ⟨start.store.settle resolving.obligationId resolving.statusValue resultRef
      (fun activation => decide (Mark.obligation resolving.obligationId ∈ activation.manifest)) results, start.log⟩ _ :=
    .beside start.store.recoveryPolicies (resolveIncidents resolving.obligationId start.store).recoveryIncidents
      start.store.responses start.store.metadata
  exact .head (.edit settled) (.head (.restore (.grow noted)) (Grows.moves grown))

theorem resolve_obligation_moves (resolving : Resolving) (start final : Database) (idempotent : Bool)
    (run : resolveObligation world resolving start = .ok (idempotent, final)) :
    Moves (.resolveObligation resolving) start final := by
  simp only [resolveObligation, Tx.bind_done, Tx.lift_done, Tx.ask_done] at run
  obtain ⟨resultRef, _, ⟨checked, rfl⟩, _, start, ⟨rfl, rfl⟩, run⟩ := run
  cases found : start.store.obligation? resolving.obligationId with
  | none => simp [found] at run
  | some obligation =>
      simp only [found, Tx.bind_done, Tx.lift_done, Tx.read_done, Tx.ask_done, Tx.require_done, ne_eq, not_not] at run
      obtain ⟨_, _, ⟨rfl, rfl⟩, _, _, ⟨unlinked, rfl⟩, work, _, ⟨owner, rfl⟩, _, _, ⟨mutable, rfl⟩, _, start,
        ⟨assignee, rfl⟩, run⟩ := run
      have ended : resolving.statusValue ≠ .opened := by
        simp only [Resolving.check, bind_ok_iff, refuse_ok_iff] at checked
        obtain ⟨_, _, _, _, _, _, _, ended, _⟩ := checked
        exact ended
      split at run
      · simp only [Tx.bind_done, Tx.require_done, Tx.pure_done] at run
        obtain ⟨_, _, ⟨_, rfl⟩, _, rfl⟩ := run
        exact .refl
      · rename_i opened
        simp only [Tx.bind_done, Tx.pure_done] at run
        obtain ⟨_, _, settled, _, rfl⟩ := run
        exact settle_obligation_moves world resolving obligation work resultRef start _ _ found
          (not_not.mp opened) ended
          unlinked (require_work_ok _ _ _ owner) (by simpa [assertMutableWork] using mutable) assignee settled

end OrchestratorEngine.Continuity
