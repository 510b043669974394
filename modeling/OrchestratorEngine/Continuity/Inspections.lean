import OrchestratorEngine.Continuity.Rearming

set_option autoImplicit false

namespace OrchestratorEngine.Continuity

open Foundation

variable (site : Site)

variable (world : World)

theorem inspect_grows (inspection : Inspection) (endpoint : Endpoint)
    (create : Transaction Nat) (start final : Database) (entries : List RecoveryEntry)
    (created : ∀ id next, create start = .ok (id, next) → Growth site start next ∧
      next.store.requests = start.store.requests)
    (run : inspect world inspection endpoint create start = .ok (entries, final)) :
    Grows site start final ∧ final.store.requests = start.store.requests := by
  rw [inspect] at run
  split at run
  · exact (Tx.pure_done _).mp run |>.2 ▸ ⟨.refl, rfl⟩
  · cases host : forHost endpoint.host with
    | none =>
        simp only [host] at run
        exact (Tx.pure_done _).mp run |>.2 ▸ ⟨.refl, rfl⟩
    | some capability =>
        simp only [host, Tx.bind_done, Tx.ask_done] at run
        obtain ⟨incident, start, ⟨rfl, rfl⟩, run⟩ := run
        split at run
        · exact (Tx.pure_done _).mp run |>.2 ▸ ⟨.refl, rfl⟩
        · split at run
          · simp only [Tx.bind_done, Tx.edit_done, Tx.pure_done] at run
            obtain ⟨_, _, rfl, _, rfl⟩ := run
            exact ⟨.one (.beside start.store.recoveryPolicies (blockIncident inspection start.store).recoveryIncidents
              start.store.responses start.store.metadata), rfl⟩
          · simp only [Tx.bind_done, Tx.edit_done, Tx.pure_done] at run
            obtain ⟨id, next, made, _, _, rfl, _, rfl⟩ := run
            obtain ⟨grown, same⟩ := created id next made
            exact ⟨.tail (.single grown) (.beside next.store.recoveryPolicies
              (queueIncident inspection id next.store).recoveryIncidents next.store.responses
              next.store.metadata), same⟩

variable {store : Store}

theorem recovery_stop_quiet {work : Work} {actorId : String}
    (clear : effectiveRecoveryStop store work actorId = none) :
    effectiveExplicitStop store work.workId actorId = none ∧ work.mode ≠ .paused ∧ work.mode ≠ .complete := by
  rw [effectiveRecoveryStop] at clear
  split at clear
  · cases clear
  · rename_i going
    exact ⟨clear, not_or.mp going⟩

theorem assignment_row_ok {obligation : Obligation} {row : AssignmentRow}
    (found : assignmentRow store obligation = some row) : row.obligation = obligation ∧
    obligation.status = .opened := by
  simp only [assignmentRow, Option.bind_eq_bind, Option.bind_eq_some_iff] at found
  obtain ⟨policy, _, work, _, actor, _, found⟩ := found
  split at found
  · rename_i facts
    cases found
    exact ⟨rfl, facts.1⟩
  · cases found

theorem assignment_waiting_grows (obligation : Obligation) (start final : Database)
    (waiting : Bool) (quiet : AssigneeQuiet start.store obligation.obligationId)
    (run : assignmentWaiting world obligation start = .ok (waiting, final)) : Grows site start final := by
  simp only [assignmentWaiting, Tx.bind_done, Tx.ask_done] at run
  obtain ⟨created, middle, evaluated, _, rfl⟩ := run
  exact evaluate_assignment_grows site world _ start _ created quiet evaluated

theorem silent_assignment_grows (row : AssignmentRow) (work : Work)
    (linked : Option Request) (start final : Database) (entries : List RecoveryEntry)
    (current : start.store.obligation? row.obligation.obligationId = some row.obligation)
    (opened : row.obligation.status = .opened) (owner : start.store.work? row.obligation.workId = some work)
    (request : (start.store.linkedRequest? row.obligation.obligationId).map Request.requestId =
      linked.map Request.requestId)
    (quiet : effectiveExplicitStop start.store work.workId row.obligation.assigneeActor = none)
    (ongoing : work.mode ≠ .complete ∨ linked ≠ none) (transition : Int)
    (run : inspect world (row.inspection transition) row.actor.endpoint
      (createActivation world work row.obligation.assigneeActor .assignmentRecovery
        (linkMarks linked ++ [.obligation row.obligation.obligationId]) none (some row.obligation.generation)) start =
      .ok (entries, final)) : Grows site start final := by
  have workId := work_row_id owner
  refine (inspect_grows site world _ _ _ start final entries (fun id next made => ⟨?_, ?_⟩) run).1
  · refine create_grows site world work _ _ _ _ _ start next id (workId ▸ owner) made
      (fun activation sameWork actor generation reason manifest _ =>
        .assignmentRecovered row.obligation _ _ ⟨current, opened, rfl, rfl⟩ ?_ reason
          ⟨sameWork.trans workId, actor, generation, manifest.trans ?_⟩)
      (.inr quiet)
    · refine ongoing.imp_right fun present missing => present ?_
      simpa [missing] using request.symm
    · rw [link_marks_same request]
  · obtain ⟨_, _, _, same⟩ := create_activation_done _ _ _ _ _ _ _ _ _ _ made
    subst same
    rfl

theorem recover_assignment_grows (row : AssignmentRow) (start final : Database)
    (entries : List RecoveryEntry)
    (current : start.store.obligation? row.obligation.obligationId = some row.obligation)
    (opened : row.obligation.status = .opened)
    (run : recoverAssignment world row start = .ok (entries, final)) : Grows site start final := by
  simp only [recoverAssignment, Tx.bind_done, Tx.read_done, Tx.ask_done] at run
  obtain ⟨work, _, ⟨found, rfl⟩, _, _, ⟨rfl, rfl⟩, stopped, start, ⟨cleared, rfl⟩, run⟩ := run
  have owner := require_work_ok _ _ _ found
  have workId := work_row_id owner
  cases stopped with
  | some reason =>
      simp only [Tx.pure_done] at run
      exact run.2 ▸ .refl
  | none =>
      have facts : effectiveExplicitStop start.store work.workId row.obligation.assigneeActor = none ∧
          (work.mode ≠ .complete ∨ start.store.linkedRequest? row.obligation.obligationId ≠ none) := by
        cases linked : start.store.linkedRequest? row.obligation.obligationId with
        | some request => exact ⟨by simpa [linked] using cleared.symm, .inr (by simp)⟩
        | none =>
            have clear := recovery_stop_quiet (by simpa [linked] using cleared.symm)
            exact ⟨clear.1, .inl clear.2.2⟩
      simp only [Tx.bind_done, Tx.ask_done] at run
      obtain ⟨kept, start, ⟨rfl, rfl⟩, run⟩ := run
      split at run
      · exact (Tx.pure_done _).mp run |>.2 ▸ .refl
      · split at run
        · simp only [Tx.bind_done] at run
          obtain ⟨waiting, middle, waited, run⟩ := run
          have grown : Grows site start middle := by
            refine assignment_waiting_grows site world _ start middle waiting (fun obligation listed => ?_) waited
            cases listed.symm.trans current
            rw [← workId]
            exact facts.1
          have frame := grown.framed
          split at run
          · exact (Tx.pure_done _).mp run |>.2 ▸ grown
          · cases since : row.obligation.claimedAt with
            | none =>
                simp only [since] at run
                exact (Tx.pure_done _).mp run |>.2 ▸ grown
            | some transition =>
                simp only [since] at run
                exact grown.trans (silent_assignment_grows site world row work
                  (start.store.linkedRequest? row.obligation.obligationId) middle final entries
                  (by rw [frame.obligation]; exact current) opened (by rw [frame.work]; exact owner)
                  (grown.linked_id _) (by rw [frame.stop]; exact facts.1) facts.2 transition run)
        · simp only [Tx.bind_done, Tx.pure_done] at run
          obtain ⟨waiting, middle, ⟨rfl, rfl⟩, run⟩ := run
          simp only [Bool.false_eq_true, if_false] at run
          cases since : row.obligation.claimedAt with
          | none =>
              simp only [since] at run
              exact (Tx.pure_done _).mp run |>.2 ▸ .refl
          | some transition =>
              simp only [since] at run
              exact silent_assignment_grows site world row work
                (middle.store.linkedRequest? row.obligation.obligationId) middle final entries current opened owner rfl
                facts.1 facts.2 transition run

theorem reply_row_ok {request : Request} {row : ReplyRow} (found : replyRow store request = some row) :
    row.request = request ∧ request.status = .replyReady := by
  simp only [replyRow, Option.bind_eq_bind, Option.bind_eq_some_iff] at found
  obtain ⟨policy, _, work, _, actor, _, source, _, found⟩ := found
  split at found
  · rename_i facts
    cases found
    exact ⟨rfl, facts.1⟩
  · cases found

theorem recover_reply_grows (row : ReplyRow) (start final : Database)
    (entries : List RecoveryEntry) (current : start.store.request? row.request.requestId = some row.request)
    (status : row.request.status = .replyReady)
    (run : recoverReply world row start = .ok (entries, final)) :
    Grows site start final ∧ final.store.requests = start.store.requests := by
  simp only [recoverReply, Tx.bind_done, Tx.read_done, Tx.ask_done] at run
  obtain ⟨work, _, ⟨found, rfl⟩, stopped, start, ⟨rfl, rfl⟩, run⟩ := run
  have owner := require_work_ok _ _ _ found
  have workId := work_row_id owner
  cases quiet : effectiveExplicitStop start.store work.workId row.request.returnActor with
  | some reason =>
      simp only [quiet, Tx.pure_done] at run
      exact run.2 ▸ ⟨.refl, rfl⟩
  | none =>
      simp only [quiet] at run
      cases since : row.source.claimedAt with
      | none =>
          simp only [since, Tx.pure_done] at run
          exact run.2 ▸ ⟨.refl, rfl⟩
      | some claimedAt =>
          simp only [since] at run
          refine inspect_grows site world _ _ _ start final entries (fun id next made => ⟨?_, ?_⟩) run
          · exact create_grows site world work _ _ _ _ _ start next id (workId ▸ owner) made
              (fun activation sameWork actor generation reason manifest _ =>
                .replyRecovered row.request current status _ reason (sameWork.trans workId) actor generation manifest)
              (.inr quiet)
          · obtain ⟨_, _, _, same⟩ := create_activation_done _ _ _ _ _ _ _ _ _ _ made
            subst same
            rfl

theorem work_row_ok {work : Work} {row : WorkRow} (found : workRow store work = some row) :
    row.work = work ∧ (work.mode = .continues ∨ work.mode = .waiting) := by
  simp only [workRow, Option.bind_eq_bind, Option.bind_eq_some_iff] at found
  obtain ⟨policy, _, actor, _, source, _, found⟩ := found
  split at found
  · rename_i mode
    cases found
    exact ⟨rfl, mode⟩
  · cases found

theorem recover_work_grows (row : WorkRow) (start final : Database)
    (entries : List RecoveryEntry) (current : start.store.work? row.work.workId = some row.work)
    (mode : row.work.mode = .continues ∨ row.work.mode = .waiting)
    (run : recoverWork world row start = .ok (entries, final)) : Grows site start final := by
  simp only [recoverWork, Tx.bind_done, Tx.ask_done] at run
  obtain ⟨stopped, start, ⟨rfl, rfl⟩, run⟩ := run
  cases clear : effectiveRecoveryStop start.store row.work row.work.ownerActor with
  | some reason =>
      simp only [clear, Tx.pure_done] at run
      exact run.2 ▸ .refl
  | none =>
      simp only [clear] at run
      cases since : row.source.claimedAt with
      | none =>
          simp only [since, Tx.pure_done] at run
          exact run.2 ▸ .refl
      | some claimedAt =>
          simp only [since] at run
          refine (inspect_grows site world _ _ _ start final entries (fun id next made => ⟨?_, ?_⟩) run).1
          · exact create_grows site world row.work _ _ _ _ _ start next id current made
              (fun activation _ actor generation reason manifest _ =>
                .workRecovered mode reason actor generation _ manifest)
              (.inr (recovery_stop_quiet clear).1)
          · obtain ⟨_, _, _, same⟩ := create_activation_done _ _ _ _ _ _ _ _ _ _ made
            subst same
            rfl

theorem recovery_batch_listed {ρ : Type} {key : ρ → String} {cursor : String} {rows : List ρ} {row : ρ}
    (chosen : row ∈ (recoveryBatch key cursor rows).1) : row ∈ rows := by
  simp only [recoveryBatch] at chosen
  split at chosen
  · exact (List.mem_insertionSort _).mp (List.mem_of_mem_take chosen)
  · exact (List.mem_insertionSort _).mp (List.mem_filter.mp (List.mem_of_mem_take chosen)).1

variable (start : Database)

theorem recovery_cursor_grows (cursor : String) :
    Growth site start ⟨moveRecoveryCursor cursor start.store, start.log⟩ :=
  .beside _ _ _ (moveRecoveryCursor cursor start.store).metadata

theorem reply_cursor_grows (cursor : String) :
    Growth site start ⟨moveReplyCursor cursor start.store, start.log⟩ :=
  .beside _ _ _ (moveReplyCursor cursor start.store).metadata

theorem work_cursor_grows (cursor : String) :
    Growth site start ⟨moveWorkCursor cursor start.store, start.log⟩ :=
  .beside _ _ _ (moveWorkCursor cursor start.store).metadata

variable (cursor next : String)

theorem recover_assignments_grows (start final : Database)
    (entries : List RecoveryEntry) (links : Linked start.store) (keys : Keyed start.store)
    (run : Tx.gather (recoverAssignment world) (recoveryBatch (fun row => row.obligation.obligationId) cursor
      (start.store.obligations.filterMap (assignmentRow start.store))).1
      ⟨moveRecoveryCursor next start.store, start.log⟩ = .ok (entries, final)) : Grows site start final := by
  have moved := recovery_cursor_grows site start next
  refine .head moved (gather_grows site (recoverAssignment world) _ _ final entries (moved.linked links) ?_ run)
  intro row listed one value two grown _ round
  obtain ⟨obligation, member, found⟩ := List.mem_filterMap.mp (recovery_batch_listed listed)
  obtain ⟨rfl, opened⟩ := assignment_row_ok found
  exact recover_assignment_grows site world row one two value
    (by rw [grown.framed.obligation]; exact keys.obligation member) opened round

theorem recover_replies_grows (start final : Database)
    (entries : List RecoveryEntry) (links : Linked start.store)
    (run : Tx.gather (recoverReply world) (recoveryBatch (fun row => row.request.requestId) cursor
      (start.store.requests.filterMap (replyRow start.store))).1
      ⟨moveReplyCursor next start.store, start.log⟩ = .ok (entries, final)) : Grows site start final := by
  refine (Tx.gather_rule (recoverReply world)
    (fun _ _ now => Grows site start now ∧ now.store.requests = start.store.requests) _ _ final entries
    ⟨.single (reply_cursor_grows site start next), rfl⟩ ?_ run).1
  rintro front row back one two yielded here split ⟨grown, kept⟩ round
  have listed := List.mem_filterMap.mp (recovery_batch_listed (split ▸ List.mem_append_right front List.mem_cons_self))
  obtain ⟨request, member, found⟩ := listed
  obtain ⟨rfl, status⟩ := reply_row_ok found
  have current : one.store.request? row.request.requestId = some row.request := by
    unfold Store.request?
    rw [kept]
    exact links.request member
  obtain ⟨further, still⟩ := recover_reply_grows site world row one two here current status round
  exact ⟨grown.trans further, still.trans kept⟩

theorem recover_works_grows (start final : Database)
    (entries : List RecoveryEntry) (links : Linked start.store) (keys : Keyed start.store)
    (run : Tx.gather (recoverWork world) (recoveryBatch (fun row => row.work.workId) cursor
      (start.store.works.filterMap (workRow start.store))).1
      ⟨moveWorkCursor next start.store, start.log⟩ = .ok (entries, final)) : Grows site start final := by
  have moved := work_cursor_grows site start next
  refine .head moved (gather_grows site (recoverWork world) _ _ final entries (moved.linked links) ?_ run)
  intro row listed one value two grown _ round
  obtain ⟨work, member, found⟩ := List.mem_filterMap.mp (recovery_batch_listed listed)
  obtain ⟨rfl, mode⟩ := work_row_ok found
  exact recover_work_grows site world row one two value (by rw [grown.framed.work]; exact keys.work member) mode round

theorem reconcile_recovery_grows (start final : Database)
    (entries : List RecoveryEntry) (links : Linked start.store) (keys : Keyed start.store)
    (run : reconcileRecovery world start = .ok (entries, final)) : Grows site start final := by
  simp only [reconcileRecovery, Tx.bind_done, Tx.ask_done, Tx.edit_done, Tx.pure_done] at run
  obtain ⟨batch, start, ⟨rfl, rfl⟩, _, _, rfl, _, _, assignments, replyBatch, first, ⟨rfl, rfl⟩, _, _, rfl,
    _, _, replies, workBatch, second, ⟨rfl, rfl⟩, _, _, rfl, _, _, works, _, rfl⟩ := run
  have toFirst : Grows site start first := recover_assignments_grows site world _ _ start first _ links keys assignments
  have toSecond : Grows site first second := recover_replies_grows site world _ _ first second _
    (toFirst.linked links) replies
  have both : Grows site start second := toFirst.trans toSecond
  exact both.trans (recover_works_grows site world _ _ second _ _ (both.linked links) (both.framed.keyed keys) works)

theorem wake_work_grows (wait : Wait) (start final : Database) (done : Unit)
    (run : wakeWork world wait start = .ok (done, final)) : Grows site start final := by
  simp only [wakeWork, Tx.bind_done, Tx.read_done, Tx.ask_done] at run
  obtain ⟨work, _, ⟨found, rfl⟩, stopped, start, ⟨rfl, rfl⟩, run⟩ := run
  split at run
  · rename_i quiet
    simp only [Tx.bind_done, Tx.pure_done] at run
    obtain ⟨created, _, evaluated, _, rfl⟩ := run
    refine evaluate_wait_grows site world wait.workId start _ created (.inr fun other row => ?_) evaluated
    cases row.symm.trans (require_work_ok _ _ _ found)
    exact quiet
  · exact (Tx.pure_done _).mp run |>.2 ▸ .refl

theorem wake_assignment_grows (row : AssignmentCheckpoint) (start final : Database)
    (done : Unit) (run : wakeAssignment world row start = .ok (done, final)) : Grows site start final := by
  simp only [wakeAssignment, Tx.bind_done, Tx.ask_done] at run
  obtain ⟨_, start, ⟨rfl, rfl⟩, run⟩ := run
  cases found : start.store.obligation? row.obligationId with
  | none =>
      simp only [found, Tx.pure_done] at run
      exact run.2 ▸ .refl
  | some obligation =>
      simp only [found, Tx.bind_done, Tx.read_done, Tx.ask_done] at run
      obtain ⟨work, _, ⟨owner, rfl⟩, stopped, start, ⟨rfl, rfl⟩, run⟩ := run
      split at run
      · rename_i quiet
        simp only [Tx.bind_done, Tx.pure_done] at run
        obtain ⟨created, _, evaluated, _, rfl⟩ := run
        refine evaluate_assignment_grows site world _ start _ created (fun other listed => ?_) evaluated
        cases listed.symm.trans found
        rw [← work_row_id (require_work_ok _ _ _ owner)]
        exact quiet
      · exact (Tx.pure_done _).mp run |>.2 ▸ .refl

end OrchestratorEngine.Continuity
