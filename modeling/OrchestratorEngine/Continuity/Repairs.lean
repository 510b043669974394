import OrchestratorEngine.Continuity.Growth

set_option autoImplicit false

namespace OrchestratorEngine.Continuity

open Foundation

variable {store : Store}

theorem work_row_id {workId : String} {work : Work} (found : store.work? workId = some work) :
    work.workId = workId := (row_mem _ _ _ _ found).2

theorem obligation_row_id {obligationId : String} {obligation : Obligation}
    (found : store.obligation? obligationId = some obligation) : obligation.obligationId = obligationId :=
  (row_mem _ _ _ _ found).2

theorem request_row_id {requestId : String} {request : Request}
    (found : store.request? requestId = some request) : request.requestId = requestId := (row_mem _ _ _ _ found).2

theorem linked_request {obligationId : String} {request : Request}
    (found : store.linkedRequest? obligationId = some request) :
    request ∈ store.requests ∧ request.obligationId = some obligationId := by
  have passed : decide (request.obligationId = some obligationId) = true :=
    List.find?_some (p := fun request : Request => decide (request.obligationId = some obligationId)) found
  exact ⟨List.mem_of_find?_eq_some found, of_decide_eq_true passed⟩

theorem actor_row_id {actorId : String} {actor : Actor}
    (found : requireActor store actorId = .ok actor) : actor.actorId = actorId :=
  (row_mem _ _ _ _ (require_actor_ok store actorId actor found).1).2

theorem create_activation_done (world : World) (work : Work) (actorId : String) (reason : Reason)
    (manifest : List Mark) (notBefore : Option Int) (generation : Option Nat) (start final : Database) (id : Nat)
    (done : createActivation world work actorId reason manifest notBefore generation start = .ok (id, final)) :
    ∃ actor, requireActor start.store actorId = .ok actor ∧ id = start.store.metadata.activationSequence + 1 ∧
      final = ⟨start.store.insertActivation (work.activation world actor id reason manifest notBefore generation),
        start.log ++ [⟨start.store, work.activation world actor id reason manifest notBefore generation⟩]⟩ := by
  simp only [createActivation, Tx.bind_done, Tx.read_done, Tx.ask_done, Tx.note_done, Tx.edit_done,
    Tx.pure_done] at done
  obtain ⟨actor, _, ⟨found, rfl⟩, sequence, _, ⟨rfl, rfl⟩, _, _, rfl, _, _, rfl, rfl, rfl⟩ := done
  exact ⟨actor, found, rfl, rfl⟩

variable (site : Site)

theorem point_grows (world : World) (work : Work) (actorId : String) (reason : Reason)
    (manifest : List Mark) (notBefore : Option Int) (generation : Option Nat) (start middle : Database) (id : Nat)
    (pointer : Pointer) (current : start.store.work? work.workId = some work)
    (done : createActivation world work actorId reason manifest notBefore generation start = .ok (id, middle))
    (cause : ∀ activation : Activation, activation.workId = work.workId → activation.actorId = actorId →
      activation.assignmentGeneration = generation → activation.reason = reason → activation.manifest = manifest →
      (∃ actor, requireActor start.store actorId = .ok actor ∧ activation.endpointGeneration = actor.generation) →
      Cause site start.store work activation pointer)
    (quiet : site = .settling ∧ reason = .waitSatisfied ∨
      effectiveExplicitStop start.store work.workId actorId = none) :
    Growth site start ⟨pointer.apply id middle.store, middle.log⟩ := by
  obtain ⟨actor, found, rfl, rfl⟩ := create_activation_done world work actorId reason manifest notBefore generation
    start middle id done
  have same := actor_row_id found
  exact .create work _ pointer ⟨current, ⟨actor, by simpa [Work.activation, same] using found, rfl⟩, rfl, rfl, rfl, rfl⟩
    (cause _ rfl same rfl rfl rfl ⟨actor, found, rfl⟩) (by simpa [Quiet, Work.activation, same] using quiet)

theorem create_grows (world : World) (work : Work) (actorId : String) (reason : Reason)
    (manifest : List Mark) (notBefore : Option Int) (generation : Option Nat) (start final : Database) (id : Nat)
    (current : start.store.work? work.workId = some work)
    (done : createActivation world work actorId reason manifest notBefore generation start = .ok (id, final))
    (cause : ∀ activation : Activation, activation.workId = work.workId → activation.actorId = actorId →
      activation.assignmentGeneration = generation → activation.reason = reason → activation.manifest = manifest →
      (∃ actor, requireActor start.store actorId = .ok actor ∧ activation.endpointGeneration = actor.generation) →
      Cause site start.store work activation .nothing)
    (quiet : site = .settling ∧ reason = .waitSatisfied ∨
      effectiveExplicitStop start.store work.workId actorId = none) : Growth site start final := by
  have grown := point_grows site world work actorId reason manifest notBefore generation start final id .nothing current
    done cause quiet
  rwa [apply_nothing] at grown

theorem Grows.one {site : Site} {start final : Database} (growth : Growth site start final) : Grows site start final :=
  .single growth

theorem note_owner_grows (work : Work) (route : Activation) (start final : Database) (done : Unit)
    (run : noteReplyWaitOwner work route start = .ok (done, final)) : Grows site start final := by
  rw [noteReplyWaitOwner] at run
  split at run
  · simp only [Tx.bind_done, Tx.read_done, Tx.edit_done] at run
    obtain ⟨owner, before, ⟨_, rfl⟩, rfl⟩ := run
    exact .one (.beside before.store.recoveryPolicies before.store.recoveryIncidents before.store.responses
      (setReplyWaitOwner work.workId _ before.store).metadata)
  · obtain ⟨_, rfl⟩ := (Tx.pure_done _).mp run
    exact .refl

def OwnerQuiet (store : Store) (workId : String) : Prop :=
  ∀ work, store.work? workId = some work → effectiveExplicitStop store work.workId work.ownerActor = none

theorem evaluate_wait_grows (world : World) (workId : String) (start final : Database)
    (created : Option Nat) (quiet : site = .settling ∨ OwnerQuiet start.store workId)
    (run : evaluateWait world workId start = .ok (created, final)) : Grows site start final := by
  simp only [evaluateWait, Tx.bind_done, Tx.ask_done] at run
  obtain ⟨_, _, ⟨rfl, rfl⟩, run⟩ := run
  split at run
  · obtain ⟨_, rfl⟩ := (Tx.pure_done _).mp run
    exact .refl
  · rename_i ready
    simp only [Tx.bind_done, Tx.read_done] at run
    obtain ⟨work, _, ⟨found, rfl⟩, run⟩ := run
    have row := require_work_ok _ _ _ found
    have same := work_row_id row
    subst same
    split at run
    · obtain ⟨_, rfl⟩ := (Tx.pure_done _).mp run
      exact .refl
    · rename_i mode
      simp only [Tx.bind_done, Tx.ask_done, Tx.read_done] at run
      obtain ⟨_, _, ⟨rfl, rfl⟩, route, _, ⟨routed, rfl⟩, run⟩ := run
      cases route with
      | some active =>
          simp only [Tx.bind_done, Tx.pure_done] at run
          obtain ⟨_, _, noted, _, rfl⟩ := run
          exact note_owner_grows site work active _ _ _ noted
      | none =>
          simp only [Tx.bind_done, Tx.pure_done] at run
          obtain ⟨id, _, made, _, rfl⟩ := run
          refine .one (create_grows site world work _ _ _ _ _ _ _ id row made ?_ ?_)
          · intro activation _ actor generation reason manifest _
            exact .satisfied world (by simpa using mode) reason actor generation (by simpa using ready) manifest routed
          · exact quiet.imp (fun settling => ⟨settling, rfl⟩) (fun clear => clear work row)

def AssigneeQuiet (store : Store) (obligationId : String) : Prop :=
  ∀ obligation, store.obligation? obligationId = some obligation →
    effectiveExplicitStop store obligation.workId obligation.assigneeActor = none

theorem continuation_allowed_ok (store : Store) (obligation : Obligation) (work : Work) (allowed : Bool)
    (owner : store.work? obligation.workId = some work)
    (permitted : assignmentContinuationAllowed store obligation = .ok allowed) :
    allowed = true ↔ work.mode ≠ .complete ∨ store.linkedRequest? obligation.obligationId ≠ none := by
  have found : requireWork store obligation.workId = .ok work := by rw [requireWork, owner]
  rw [assignmentContinuationAllowed, found] at permitted
  have verdict := Except.ok.inj permitted
  subst verdict
  simp [Option.isSome_iff_ne_none]

theorem evaluate_assignment_grows (world : World) (obligationId : String) (start final : Database)
    (created : Option Nat) (quiet : AssigneeQuiet start.store obligationId)
    (run : evaluateAssignmentWait world obligationId start = .ok (created, final)) : Grows site start final := by
  simp only [evaluateAssignmentWait, Tx.bind_done, Tx.ask_done] at run
  obtain ⟨_, _, ⟨rfl, rfl⟩, _, start, ⟨rfl, rfl⟩, run⟩ := run
  cases found : start.store.obligation? obligationId with
  | none =>
      simp only [found, Tx.pure_done] at run
      exact run.2 ▸ .refl
  | some obligation =>
      have sameId := obligation_row_id found
      subst sameId
      cases assignment : start.store.checkpoint? obligation.obligationId with
      | none =>
          simp only [found, assignment, Tx.pure_done] at run
          exact run.2 ▸ .refl
      | some row =>
          simp only [found, assignment] at run
          split at run
          · obtain ⟨_, rfl⟩ := (Tx.pure_done _).mp run
            exact .refl
          · rename_i current
            simp only [not_or, not_not] at current
            simp only [Tx.bind_done, Tx.read_done] at run
            obtain ⟨allowed, start, ⟨permitted, rfl⟩, run⟩ := run
            split at run
            · obtain ⟨_, rfl⟩ := (Tx.pure_done _).mp run
              exact .refl
            · rename_i ongoing
              simp only [Tx.bind_done, Tx.ask_done] at run
              obtain ⟨satisfied, start, ⟨rfl, rfl⟩, run⟩ := run
              cases ready : assignmentWaitSatisfied world start.store obligation.obligationId with
              | none =>
                  simp only [ready, Tx.pure_done] at run
                  exact run.2 ▸ .refl
              | some outcomes =>
                  simp only [ready, Tx.bind_done, Tx.read_done] at run
                  obtain ⟨active, _, ⟨idle, rfl⟩, run⟩ := run
                  cases active with
                  | some other =>
                      obtain ⟨_, rfl⟩ := (Tx.pure_done _).mp run
                      exact .refl
                  | none =>
                      simp only [Tx.bind_done, Tx.read_done, Tx.pure_done] at run
                      obtain ⟨work, _, ⟨owner, rfl⟩, id, _, made, _, rfl⟩ := run
                      have workRow := require_work_ok _ _ _ owner
                      have workId := work_row_id workRow
                      have waiting : row.mode = .waiting := by
                        rw [assignmentWaitSatisfied, assignment] at ready
                        by_contra other
                        simp [other] at ready
                      refine .one (create_grows site world work _ _ _ _ _ _ _ id (workId ▸ workRow) made ?_ ?_)
                      · intro activation sameWork actor generation reason manifest _
                        refine .woken obligation _ row ⟨found, current.1, rfl, assignment⟩ waiting current.2 idle ?_
                          reason world outcomes ready ⟨sameWork.trans workId, actor, generation, manifest⟩
                        exact (continuation_allowed_ok _ _ _ _ workRow permitted).mp (by simpa using ongoing)
                      · right
                        rw [workId]
                        exact quiet obligation found

end OrchestratorEngine.Continuity
