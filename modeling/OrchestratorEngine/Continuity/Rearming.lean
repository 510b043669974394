import OrchestratorEngine.Continuity.Deliveries

set_option autoImplicit false

namespace OrchestratorEngine.Continuity

open Foundation

variable (site : Site)

theorem reminders_grow (world : World) (work : Work) (obligation : Obligation) (linked : Option Request)
    (start final : Database) (done : Unit) (current : start.store.work? work.workId = some work)
    (standing : Standing start.store obligation linked none) (place : obligation.workId = work.workId)
    (unclaimed : obligation.claimedAt = none) (ongoing : work.mode ≠ .complete)
    (quiet : effectiveExplicitStop start.store work.workId obligation.assigneeActor = none)
    (run : Tx.each (createReminder world work obligation.assigneeActor
      (linkMarks linked ++ [.obligation obligation.obligationId]) obligation.generation obligation.reminderSeconds)
      (List.range obligation.maxReminders) start = .ok (done, final)) : Grows site start final := by
  have walked := Tx.each_rule _
    (fun _ now => Grows site start now ∧ Standing now.store obligation linked none) _ start final done
    ⟨.refl, standing⟩ ?_ run
  · exact walked.1
  · rintro front index back before next split ⟨grown, stands⟩ round
    simp only [createReminder, Tx.bind_done, Tx.pure_done] at round
    obtain ⟨id, _, made, _, rfl⟩ := round
    have frame := grown.framed
    have row : before.store.work? work.workId = some work := by
      unfold Store.work?
      rw [frame.works]
      exact current
    have further := create_grows site world work _ _ _ _ _ before _ id row made
      (fun activation sameWork actor generation reason manifest _ =>
        .reminded obligation linked stands unclaimed ongoing reason
          ⟨sameWork.trans place.symm, actor, generation, manifest⟩)
      (.inr (by
        unfold effectiveExplicitStop
        rw [frame.recoveryControls]
        exact quiet))
    refine ⟨grown.tail further, ?_⟩
    obtain ⟨_, _, _, same⟩ := create_activation_done _ _ _ _ _ _ _ _ _ _ made
    subst same
    exact ⟨stands.row, stands.status, stands.linked, stands.assignment⟩

theorem schedule_grows (world : World) (work : Work) (obligation : Obligation) (start final : Database)
    (created : Option Nat) (current : start.store.work? work.workId = some work)
    (standing : Standing start.store obligation none none) (place : obligation.workId = work.workId)
    (unclaimed : obligation.claimedAt = none) (ongoing : work.mode ≠ .complete)
    (idle : site = .arming ∨
      activeObligationActivation start.store obligation [.obligationAssigned, .obligationReminder] = .ok none)
    (run : scheduleObligationActivations world work obligation.assigneeActor obligation start = .ok (created, final)) :
    Grows site start final := by
  simp only [scheduleObligationActivations, Tx.bind_done, Tx.ask_done] at run
  obtain ⟨stopped, start, ⟨rfl, rfl⟩, run⟩ := run
  split at run
  · exact (Tx.pure_done _).mp run |>.2 ▸ .refl
  · rename_i quiet
    simp only [Tx.bind_done, Tx.pure_done] at run
    obtain ⟨id, middle, made, _, last, reminded, _, rfl⟩ := run
    have first := create_grows site world work _ _ _ _ _ start middle id current made
      (fun activation sameWork actor generation reason manifest _ =>
        .assigned obligation standing unclaimed ongoing idle reason
          ⟨sameWork.trans place.symm, actor, generation, manifest⟩)
      (.inr (by simpa using quiet))
    obtain ⟨_, _, _, same⟩ := create_activation_done _ _ _ _ _ _ _ _ _ _ made
    subst same
    exact Relation.ReflTransGen.head first (reminders_grow site world work obligation none _ _ _ current
      ⟨standing.row, standing.status, standing.linked, standing.assignment⟩ place unclaimed ongoing
      (not_not.mp quiet) reminded)

theorem rearm_assignment_grows (world : World) (work : Work) (obligation : Obligation)
    (linked : Option Request) (assignment : AssignmentCheckpoint) (start final : Database) (created : Option Nat)
    (current : start.store.work? work.workId = some work)
    (standing : Standing start.store obligation linked (some assignment)) (place : obligation.workId = work.workId)
    (ongoing : work.mode ≠ .complete ∨ linked ≠ none)
    (quiet : effectiveExplicitStop start.store work.workId obligation.assigneeActor = none)
    (run : rearmAssignment world work obligation (linkMarks linked) assignment.mode start = .ok (created, final)) :
    Grows site start final := by
  cases mode : assignment.mode with
  | waiting =>
      simp only [rearmAssignment, mode, if_true] at run
      refine evaluate_assignment_grows site world _ start final created (fun other row => ?_) run
      cases row.symm.trans standing.row
      rw [place]
      exact quiet
  | continues =>
      simp only [rearmAssignment, mode, reduceCtorEq, if_false, if_true, Tx.bind_done, Tx.read_done] at run
      obtain ⟨claim, start, ⟨unasked, rfl⟩, run⟩ := run
      cases unasked
      simp only [Tx.bind_done, Tx.read_done] at run
      obtain ⟨active, _, ⟨idle, rfl⟩, run⟩ := run
      cases active with
      | some other => exact (Tx.pure_done _).mp run |>.2 ▸ .refl
      | none =>
          simp only [Tx.bind_done, Tx.pure_done] at run
          obtain ⟨id, _, made, _, rfl⟩ := run
          exact .one (create_grows site world work _ _ _ _ _ _ _ id current made
            (fun activation sameWork actor generation reason manifest _ =>
              .carried obligation linked assignment standing mode idle reason (linkMarks linked) (.inr rfl)
                ⟨sameWork.trans place.symm, actor, generation, manifest⟩) (.inr quiet))
  | paused =>
      simp only [rearmAssignment, mode, reduceCtorEq, if_false, if_true, Tx.bind_done, Tx.read_done] at run
      obtain ⟨claim, start, ⟨claimed, rfl⟩, run⟩ := run
      cases claim with
      | some other => exact (Tx.pure_done _).mp run |>.2 ▸ .refl
      | none =>
          simp only [Tx.bind_done, Tx.read_done] at run
          obtain ⟨active, _, ⟨idle, rfl⟩, run⟩ := run
          cases active with
          | some other => exact (Tx.pure_done _).mp run |>.2 ▸ .refl
          | none =>
              simp only [Tx.bind_done, Tx.pure_done] at run
              obtain ⟨id, _, made, _, rfl⟩ := run
              exact .one (create_grows site world work _ _ _ _ _ _ _ id current made
                (fun activation sameWork actor generation reason manifest _ =>
                  .controlled obligation linked assignment standing mode claimed idle ongoing reason
                    ⟨sameWork.trans place.symm, actor, generation, manifest⟩) (.inr quiet))

theorem rearm_request_grows (world : World) (work : Work) (obligation : Obligation) (request : Request)
    (start final : Database) (created : Option Nat) (links : Linked start.store)
    (current : start.store.work? work.workId = some work)
    (standing : Standing start.store obligation (some request) none) (place : obligation.workId = work.workId)
    (quiet : effectiveExplicitStop start.store work.workId obligation.assigneeActor = none)
    (run : rearmRequest world work obligation request start = .ok (created, final)) :
    Grows site start final ∧ Others request.requestId start.store final.store := by
  rw [rearmRequest] at run
  split at run
  · exact (Tx.pure_done _).mp run |>.2 ▸ ⟨.refl, fun _ _ => rfl⟩
  · simp only [Tx.bind_done, Tx.read_done] at run
    obtain ⟨active, start, ⟨found, rfl⟩, run⟩ := run
    have row := links.request (linked_request standing.linked).1
    have recipient := (links.obligation standing.linked standing.row).1
    cases kept : active.filter fun activation =>
      decide (activation.assignmentGeneration.getD 0 = obligation.generation) with
    | some other =>
        simp only [kept, Tx.pure_done] at run
        exact run.2 ▸ ⟨.refl, fun _ _ => rfl⟩
    | none =>
        simp only [kept, Tx.bind_done, Tx.edit_done, Tx.pure_done] at run
        obtain ⟨id, middle, made, _, _, rfl, _, rfl⟩ := run
        have idle : ∀ other ∈ active, other.assignmentGeneration.getD 0 ≠ obligation.generation := by
          intro other listed same
          cases listed
          simp [same] at kept
        have grown := point_grows site world work _ _ _ _ _ start middle id
          (.redelivered request.requestId) current made
          (fun activation sameWork actor generation reason manifest _ =>
            .requested obligation request standing row active (recipient ▸ found) idle reason
              ⟨sameWork.trans place.symm, actor, generation, manifest⟩ _ (.inl rfl))
          (.inr quiet)
        refine ⟨.one grown, fun other different => ?_⟩
        obtain ⟨_, _, _, same⟩ := create_activation_done _ _ _ _ _ _ _ _ _ _ made
        subst same
        exact apply_others (.inl rfl) other different

theorem rearm_route_grows (world : World) (work : Work) (obligation : Obligation)
    (linked : Option Request) (assignment : Option AssignmentCheckpoint) (start final : Database)
    (created : Option Nat) (links : Linked start.store) (current : start.store.work? work.workId = some work)
    (standing : Standing start.store obligation linked assignment) (place : obligation.workId = work.workId)
    (idle : linked = none → assignment = none → obligation.claimedAt = none → site = .arming ∨
      activeObligationActivation start.store obligation [.obligationAssigned, .obligationReminder] = .ok none)
    (run : rearmObligationRoute world work obligation linked assignment start = .ok (created, final)) :
    Grows site start final := by
  simp only [rearmObligationRoute, Tx.bind_done, Tx.ask_done] at run
  obtain ⟨stopped, start, ⟨rfl, rfl⟩, run⟩ := run
  split at run
  · exact (Tx.pure_done _).mp run |>.2 ▸ .refl
  · rename_i quiet
    simp only [ne_eq, not_not] at quiet
    split at run
    · exact (Tx.pure_done _).mp run |>.2 ▸ .refl
    · rename_i ongoing
      have continues : work.mode ≠ .complete ∨ linked ≠ none := not_and_or.mp ongoing
      cases assignment with
      | some row =>
          exact rearm_assignment_grows site world work obligation linked row start final created current standing place
            continues quiet run
      | none =>
          cases linked with
          | some request =>
              exact (rearm_request_grows site world work obligation request start final created links current standing
                place quiet run).1
          | none =>
              simp only at run
              split at run
              · exact (Tx.pure_done _).mp run |>.2 ▸ .refl
              · rename_i unclaimed
                simp only [ne_eq, not_not] at unclaimed
                exact schedule_grows site world work obligation start final created current standing place unclaimed
                  (continues.resolve_right (by simp)) (idle rfl rfl unclaimed) run

structure Keyed (store : Store) : Prop where
  works : (store.works.map Work.workId).Nodup
  obligations : (store.obligations.map Obligation.obligationId).Nodup

variable {store : Store}

theorem Keyed.work (keys : Keyed store) {work : Work} (listed : work ∈ store.works) :
    store.work? work.workId = some work := row_of_mem Work.workId store.works keys.works work listed

theorem Keyed.obligation (keys : Keyed store) {obligation : Obligation}
    (listed : obligation ∈ store.obligations) : store.obligation? obligation.obligationId = some obligation :=
  row_of_mem Obligation.obligationId store.obligations keys.obligations obligation listed

variable {before after : Store}

theorem Framed.keyed (framed : Framed before after) (keys : Keyed before) : Keyed after :=
  ⟨by rw [framed.works]; exact keys.works, by rw [framed.obligations]; exact keys.obligations⟩

theorem Framed.work (framed : Framed before after) (workId : String) :
    after.work? workId = before.work? workId := by
  unfold Store.work?
  rw [framed.works]

theorem Framed.obligation (framed : Framed before after) (obligationId : String) :
    after.obligation? obligationId = before.obligation? obligationId := by
  unfold Store.obligation?
  rw [framed.obligations]

theorem Framed.stop (framed : Framed before after) (workId actorId : String) :
    effectiveExplicitStop after workId actorId = effectiveExplicitStop before workId actorId := by
  unfold effectiveExplicitStop
  rw [framed.recoveryControls]

theorem each_grows {ρ : Type} (site : Site) (step : ρ → Transaction Unit) (rows : List ρ) (start final : Database)
    (done : Unit) (links : Linked start.store)
    (rounds : ∀ row ∈ rows, ∀ one value two, Grows site start one → Linked one.store →
      step row one = .ok (value, two) → Grows site one two)
    (run : Tx.each step rows start = .ok (done, final)) : Grows site start final := by
  refine Tx.each_rule step (fun _ now => Grows site start now) rows start final done .refl ?_ run
  intro front row back before next split grown round
  exact grown.trans (rounds row (by simp [split]) before _ next grown (grown.linked links) round)

theorem gather_grows {ρ β : Type} (site : Site) (step : ρ → Transaction (List β)) (rows : List ρ)
    (start final : Database) (yield : List β) (links : Linked start.store)
    (rounds : ∀ row ∈ rows, ∀ one value two, Grows site start one → Linked one.store →
      step row one = .ok (value, two) → Grows site one two)
    (run : Tx.gather step rows start = .ok (yield, final)) : Grows site start final := by
  refine Tx.gather_rule step (fun _ _ now => Grows site start now) rows start final yield .refl ?_ run
  intro front row back before next yielded here split grown round
  exact grown.trans (rounds row (by simp [split]) before _ next grown (grown.linked links) round)

theorem no_continuation {work : Work} {owner : Actor} {activation : Activation}
    (missing : currentContinuation store work owner = false) (same : activation.endpointGeneration = owner.generation) :
    Unrouted store work activation .arming := by
  refine .arming fun old listed workId actorId reason revision epoch endpoint => ?_
  by_contra alive
  have present : currentContinuation store work owner = true :=
    List.any_eq_true.mpr ⟨old, listed, by simp [workId, actorId, reason, revision, epoch, endpoint, same, alive]⟩
  rw [missing] at present
  cases present

variable (world : World)

theorem rearm_owner_grows (work : Work) (start final : Database) (done : Unit)
    (current : start.store.work? work.workId = some work) (run : rearmOwner world work start = .ok (done, final)) :
    Grows .arming start final := by
  simp only [rearmOwner, Tx.bind_done, Tx.ask_done] at run
  obtain ⟨stopped, start, ⟨rfl, rfl⟩, run⟩ := run
  split at run
  · exact (Tx.pure_done _).mp run |>.2 ▸ .refl
  · rename_i going
    have quiet : effectiveExplicitStop start.store work.workId work.ownerActor = none := by
      simpa using (not_or.mp going).2
    cases mode : work.mode with
    | continues =>
        simp only [mode, Tx.bind_done, Tx.read_done, Tx.ask_done] at run
        obtain ⟨owner, start, ⟨found, rfl⟩, active, _, ⟨rfl, rfl⟩, run⟩ := run
        split at run
        · exact (Tx.pure_done _).mp run |>.2 ▸ .refl
        · rename_i missing
          simp only [Tx.bind_done, Tx.pure_done] at run
          obtain ⟨id, _, made, _, rfl⟩ := run
          refine .one (create_grows .arming world work _ _ _ _ _ _ _ id current made ?_ (.inr quiet))
          rintro activation _ actor generation reason manifest ⟨row, again, endpoint⟩
          cases found.symm.trans again
          exact .continued mode (no_continuation (by simpa using missing) endpoint) reason actor generation manifest
    | waiting =>
        simp only [mode, Tx.bind_done, Tx.pure_done] at run
        obtain ⟨created, _, evaluated, _, rfl⟩ := run
        refine evaluate_wait_grows .arming world work.workId start _ created (.inr fun other row => ?_) evaluated
        cases row.symm.trans current
        exact quiet
    | paused =>
        simp only [mode] at run
        exact (Tx.pure_done _).mp run |>.2 ▸ .refl
    | complete =>
        simp only [mode] at run
        exact (Tx.pure_done _).mp run |>.2 ▸ .refl

theorem rearm_obligation_grows (work : Work) (obligation : Obligation) (start final : Database)
    (done : Unit) (links : Linked start.store) (current : start.store.work? work.workId = some work)
    (row : start.store.obligation? obligation.obligationId = some obligation) (opened : obligation.status = .opened)
    (place : obligation.workId = work.workId) (run : rearmObligation world work obligation start = .ok (done, final)) :
    Grows .arming start final := by
  simp only [rearmObligation, Tx.bind_done, Tx.ask_done] at run
  obtain ⟨stopped, start, ⟨rfl, rfl⟩, run⟩ := run
  split at run
  · exact (Tx.pure_done _).mp run |>.2 ▸ .refl
  · simp only [Tx.bind_done, Tx.ask_done, Tx.pure_done] at run
    obtain ⟨_, _, ⟨rfl, rfl⟩, _, start, ⟨rfl, rfl⟩, created, _, routed, _, rfl⟩ := run
    exact rearm_route_grows .arming world work obligation _ _ start _ created links current
      ⟨row, opened, rfl, rfl⟩ place (fun _ _ _ => .inl rfl) routed

theorem rearm_work_grows (work : Work) (start final : Database) (done : Unit)
    (links : Linked start.store) (keys : Keyed start.store) (current : start.store.work? work.workId = some work)
    (run : rearmWork world work start = .ok (done, final)) : Grows .arming start final := by
  simp only [rearmWork, Tx.bind_done, Tx.ask_done] at run
  obtain ⟨_, first, delivered, _, _, owned, obligations, second, ⟨rfl, rfl⟩, run⟩ := run
  have toFirst := reconcile_deliveries_grows .arming world _ start first _ links delivered
  have toSecond := rearm_owner_grows world work first _ _
    (by rw [toFirst.framed.work]; exact current) owned
  have toBoth : Grows .arming start second := toFirst.trans toSecond
  refine toBoth.trans (each_grows .arming (rearmObligation world work) _ second final _ (toBoth.linked links) ?_ run)
  intro obligation listed one value two grown linked round
  obtain ⟨member, facts⟩ := List.mem_filter.mp listed
  obtain ⟨place, opened⟩ := of_decide_eq_true facts
  have whole : Grows .arming start one := toBoth.trans grown
  have framed := whole.framed
  rw [toBoth.framed.obligations] at member
  exact rearm_obligation_grows world work obligation one two value linked (by rw [framed.work]; exact current)
    (by rw [framed.obligation]; exact keys.obligation member) opened place round

theorem scope_works_listed {scopeKind : ScopeKind} {scopeId : String} {work : Work}
    (chosen : work ∈ scopeWorks store scopeKind scopeId) : work ∈ store.works := by
  cases scopeKind with
  | project => exact chosen
  | actor => exact (List.mem_filter.mp chosen).1
  | work => exact (List.mem_filter.mp chosen).1

theorem rearm_scope_grows (scopeKind : ScopeKind) (scopeId : String) (start final : Database)
    (done : Unit) (links : Linked start.store) (keys : Keyed start.store)
    (run : rearmScopeRoutes world scopeKind scopeId start = .ok (done, final)) : Grows .arming start final := by
  simp only [rearmScopeRoutes, Tx.bind_done, Tx.ask_done] at run
  obtain ⟨works, start, ⟨rfl, rfl⟩, run⟩ := run
  refine each_grows .arming (rearmWork world) _ start final _ links
    (fun work listed one value two grown linked round => ?_) run
  have framed := grown.framed
  exact rearm_work_grows world work one two value linked (framed.keyed keys)
    (by rw [framed.work]; exact keys.work (scope_works_listed listed)) round

end OrchestratorEngine.Continuity
