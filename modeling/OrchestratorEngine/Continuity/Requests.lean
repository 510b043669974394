import OrchestratorEngine.Continuity.Transitions

set_option autoImplicit false

namespace OrchestratorEngine.Continuity

open Foundation

theorem sent_request {store : Store} {request : Request} (obligation : Option Obligation)
    (fresh : ∀ old ∈ store.requests, old.requestId ≠ request.requestId) :
    (insertRequest request obligation store).request? request.requestId = some request := by
  have missing : row? Request.requestId request.requestId store.requests = none :=
    List.find?_eq_none.mpr fun old listed same => fresh old listed (of_decide_eq_true same)
  change row? _ _ (store.requests ++ [request]) = _
  rw [row_append, missing]
  simp

theorem sent_standing {store : Store} (sound : Sound store) (request : Request) (obligation : Obligation)
    (fresh : store.obligation? obligation.obligationId = none) (opened : obligation.status = .opened)
    (named : request.obligationId = some obligation.obligationId) :
    Standing (insertRequest request (some obligation) store) obligation (some request) none := by
  obtain ⟨_, unlinked, unset⟩ := sound_unmarked sound fresh
  refine ⟨?_, opened, ?_, unset⟩
  · change row? _ _ (store.obligations ++ [obligation]) = _
    rw [row_append, show row? Obligation.obligationId obligation.obligationId store.obligations = none from fresh]
    simp
  · change List.find? _ (store.requests ++ [request]) = _
    rw [List.find?_append, show List.find? _ store.requests = none from unlinked]
    simp [named]

variable (world : World)

theorem send_activations_grow (work : Work) (sending : Sending) (request : Request)
    (start final : Database) (done : Unit) (current : start.store.work? work.workId = some work)
    (ongoing : work.mode ≠ .complete) (row : start.store.request? request.requestId = some request)
    (named : request.requestId = sending.requestId) (place : request.workId = work.workId)
    (recipient : request.recipientActor = sending.recipientActor)
    (status : request.status = .deliveryPending) (unsent : request.requestActivationId = none)
    (linked : request.obligationId = sending.obligationId world)
    (standing : ∀ id, sending.obligationId world = some id →
      Standing start.store (sending.obligation id) (some request) none)
    (located : sending.workId = work.workId)
    (run : sendActivations world work sending start = .ok (done, final)) : Grows .ordinary start final := by
  simp only [sendActivations, Tx.bind_done, Tx.ask_done] at run
  obtain ⟨stopped, start, ⟨rfl, rfl⟩, run⟩ := run
  split at run
  · exact (Tx.pure_done _).mp run |>.2 ▸ .refl
  · rename_i quiet
    simp only [ne_eq, not_not] at quiet
    simp only [Tx.bind_done, Tx.edit_done] at run
    obtain ⟨id, middle, made, _, _, rfl, run⟩ := run
    have idle : activeCurrentActivation start.store request.requestActivationId request.recipientActor .requestMessage =
        .ok none := by
      rw [unsent]
      rfl
    obtain ⟨actor, found, same, after⟩ := create_activation_done _ _ _ _ _ _ _ _ _ _ made
    by_cases replies : sending.requiresReply = true
    · have identity : sending.obligationId world = some ("reply-" ++ world.requestDigest sending.requestId) := by
        simp [Sending.obligationId, replies]
      have stands := standing _ identity
      simp only [identity, Option.toList_some, List.map_cons, List.map_nil, Option.map_some] at made
      have grown := point_grows .ordinary world work _ _ _ _ _ start middle id (.pointed request.requestId) current made
        (fun activation sameWork actor generation reason manifest _ =>
          .requested (sending.obligation ("reply-" ++ world.requestDigest sending.requestId)) request stands row none
          idle (by simp) reason
            ⟨sameWork.trans located.symm, actor, generation, by rw [manifest, named]; rfl⟩ _ (.inr ⟨rfl, status⟩))
        (.inr quiet)
      rw [if_pos replies] at run
      have marks : Mark.request sending.requestId :: (sending.obligationId world).toList.map .obligation =
          linkMarks (some (Pointer.change id (.pointed request.requestId) request)) ++
            [.obligation ("reply-" ++ world.requestDigest sending.requestId)] := by
        simp [linkMarks, identity, named]
      rw [marks] at run
      refine .head grown
        (reminders_grow .ordinary world work (sending.obligation ("reply-" ++ world.requestDigest sending.requestId))
        (some (Pointer.change id (.pointed request.requestId) request)) _ final done ?_ ⟨?_, rfl, ?_, ?_⟩ located
        rfl ongoing ?_ ?_)
      · subst after
        exact current
      · subst after
        exact stands.row
      · subst after
        rw [apply_linked, insert_linked, stands.linked]
        rfl
      · subst after
        exact stands.assignment
      · subst after
        exact quiet
      · simp only [apply_pointed, named] at run ⊢
        exact run
    · have identity : sending.obligationId world = none := by simp [Sending.obligationId, replies]
      simp only [identity, Option.toList_none, List.map_nil, Option.map_none] at made
      have grown := point_grows .ordinary world work _ _ _ _ _ start middle id (.pointed request.requestId) current made
        (fun activation sameWork actor generation reason manifest _ =>
          .informed request row (linked.trans identity) (.inl status) idle reason (sameWork.trans place.symm)
            (actor.trans recipient.symm) generation (by rw [manifest, named]) _ (.inr ⟨rfl, status⟩))
        (.inr quiet)
      rw [if_neg replies, Tx.pure_done] at run
      obtain ⟨_, rfl⟩ := run
      rw [apply_pointed, named] at grown
      exact .single grown

def Sending.inserted (sending : Sending) (world : World) (message : Message) (recipient returning : Actor)
    (store : Store) : Store :=
  insertRequest (sending.request world (sending.envelope message (actorRoute recipient) (actorRoute returning)))
    ((sending.obligationId world).map sending.obligation) store

def Sending.existing? (sending : Sending) (store : Store) : Option Request :=
  store.requests.find? fun request =>
    decide (request.idempotencyKey = sending.idempotencyKey ∨ request.requestId = sending.requestId)

variable (sending : Sending)

variable (start final : Database)

variable (idempotent : Bool)

theorem request_send_grows
    (sound : Sound start.store) (existing : sending.existing? start.store = none)
    (run : requestSend world sending start = .ok (idempotent, final)) :
    ∃ message recipient returning, sending.check world = .ok message ∧
      Edit (.requestSend sending) start.store (sending.inserted world message recipient returning start.store) ∧
      Grows (Call.requestSend sending).site ⟨sending.inserted world message recipient returning start.store,
      start.log⟩ final := by
  simp only [requestSend, Tx.bind_done, Tx.lift_done, Tx.read_done, Tx.ask_done] at run
  obtain ⟨message, _, ⟨checked, rfl⟩, work, _, ⟨owner, rfl⟩, _, _, ⟨_, rfl⟩, recipient, _, ⟨_, rfl⟩, returning, _,
    ⟨_, rfl⟩, _, start, ⟨rfl, rfl⟩, run⟩ := run
  have row := require_work_ok _ _ _ owner
  have workId := work_row_id row
  have absent : start.store.requests.find? (fun request =>
      decide (request.idempotencyKey = sending.idempotencyKey ∨ request.requestId = sending.requestId))
      = none := existing
  simp only [absent, Tx.bind_done, Tx.lift_done, Tx.ask_done, Tx.require_done, Tx.edit_done, Tx.pure_done] at run
  obtain ⟨_, _, ⟨mutable, rfl⟩, _, _, ⟨rfl, rfl⟩, _, start, ⟨taken, rfl⟩, _, _, rfl, _, _, sent, _, rfl⟩ := run
  have ongoing : work.mode ≠ .complete := by simpa [assertMutableWork] using mutable
  have apart : ∀ old ∈ start.store.requests, old.idempotencyKey ≠ sending.idempotencyKey ∧
      old.requestId ≠ sending.requestId := by
    intro old listed
    have unlike := List.find?_eq_none.mp absent old listed
    simpa [not_or] using unlike
  have fresh : ∀ old ∈ start.store.requests, old.requestId ≠ sending.requestId := fun old listed => (apart old listed).2
  have free : ∀ id, sending.obligationId world = some id → start.store.obligation? id = none := by
    intro id named
    simpa [named] using taken
  refine ⟨message, recipient, returning, checked, ?_, ?_⟩
  · refine .sending _ _ fresh rfl rfl rfl rfl ?_ ?_ (fun held listed => ?_) work row ongoing
      fun old listed => (apart old listed).1
    · change (sending.obligationId world).isSome = sending.requiresReply
      cases replies : sending.requiresReply <;> simp [Sending.obligationId, replies]
    · cases identity : sending.obligationId world with
      | none => exact identity.symm
      | some id => exact identity.symm
    · obtain ⟨id, named, rfl⟩ := Option.map_eq_some_iff.mp listed
      exact ⟨free id named, rfl, rfl, rfl, rfl, rfl, rfl⟩
  · refine send_activations_grow world work sending
      (sending.request world (sending.envelope message (actorRoute recipient) (actorRoute returning))) _
      _ _ (workId ▸ row)
      ongoing (sent_request _ fresh) rfl workId.symm rfl rfl rfl rfl (fun id named => ?_) workId.symm sent
    have stands := sent_standing sound
      (sending.request world (sending.envelope message (actorRoute recipient) (actorRoute returning)))
      (sending.obligation id) (free id named) rfl named
    simpa [Sending.inserted, named] using stands

theorem request_send_repeats
    (old : Request) (existing : sending.existing? start.store = some old)
    (run : requestSend world sending start = .ok (idempotent, final)) : idempotent = true ∧ final = start := by
  simp only [requestSend, Tx.bind_done, Tx.lift_done, Tx.read_done, Tx.ask_done] at run
  obtain ⟨message, _, ⟨_, rfl⟩, work, _, ⟨_, rfl⟩, _, _, ⟨_, rfl⟩, recipient, _, ⟨_, rfl⟩, returning, _,
    ⟨_, rfl⟩, _, start,
    ⟨rfl, rfl⟩, run⟩ := run
  have found : start.store.requests.find? (fun request =>
      decide (request.idempotencyKey = sending.idempotencyKey ∨ request.requestId = sending.requestId))
      = some old := existing
  simp only [found, Tx.bind_done, Tx.require_done, Tx.pure_done] at run
  obtain ⟨_, _, ⟨_, rfl⟩, rfl, rfl⟩ := run
  exact ⟨rfl, rfl⟩

theorem request_send_moves
    (sound : Sound start.store) (run : requestSend world sending start = .ok (idempotent, final)) :
    Moves (.requestSend sending) start final := by
  cases existing : sending.existing? start.store with
  | some old => exact (request_send_repeats world sending start final idempotent old existing run).2 ▸ .refl
  | none =>
      obtain ⟨_, _, _, _, edit, grown⟩ := request_send_grows world sending start final idempotent sound existing run
      exact .head (.edit edit) grown.moves

theorem assignment_claim_ok {store : Store} {obligation : Obligation} {actorId : String} {activationId : Nat}
    (current : assertCurrentAssignmentClaim store obligation actorId activationId = .ok ()) :
    Fenced store obligation actorId activationId := by
  simp only [assertCurrentAssignmentClaim, bind_ok_iff, refuse_ok_iff, ne_eq, not_or, not_not] at current
  obtain ⟨_, assignee, _, ⟨claimed, generation⟩, actor, found, fits⟩ := current
  cases row : store.activation? activationId with
  | none => simp [row] at fits
  | some activation =>
      have facts : activation.status = .claimed ∧ activation.actorId = actorId ∧
          activation.endpointGeneration = actor.generation ∧
          activation.assignmentGeneration.getD 0 = obligation.generation := by
        simpa [row] using fits
      exact ⟨assignee, claimed, generation, actor, activation, found, row, facts.1, facts.2.1, facts.2.2.1⟩

theorem incidents_move (call : Call) (start : Database) (obligationId : String) :
    Move call start ⟨resolveIncidents obligationId start.store, start.log⟩ :=
  .restore (.grow (.beside start.store.recoveryPolicies (resolveIncidents obligationId start.store).recoveryIncidents
    start.store.responses start.store.metadata))

theorem respond_terminally_moves (request : Request) (obligation : Obligation)
    (responding : Responding) (content : Message) (status : ObligationStatus) (start final : Database) (done : Unit)
    (row : start.store.request? responding.requestId = some request)
    (linked : request.obligationId = some obligation.obligationId)
    (found : start.store.obligation? obligation.obligationId = some obligation)
    (opened : obligation.status = .opened) (ended : status ≠ .opened)
    (unanswered : request.terminalResponseId = none) (recipient : request.recipientActor = responding.actorId)
    (current : assertCurrentAssignmentClaim start.store obligation responding.actorId responding.activationId = .ok ())
    (run : respondTerminally world request obligation responding content status start = .ok (done, final)) :
    Moves (.requestRespond responding) start final := by
  have named := request_row_id row
  simp only [respondTerminally, Tx.bind_done, Tx.edit_done, Tx.read_done] at run
  obtain ⟨_, _, rfl, _, _, rfl, ⟨changed, outcome⟩, middle, recorded, work, _, ⟨owner, rfl⟩, reply, replied, routed,
    _, _, rfl, _, _, rfl, created, _, evaluated, finish⟩ := run
  obtain ⟨_, rfl⟩ := (Tx.pure_done _).mp finish
  obtain ⟨results, kept, rfl⟩ := record_result_recorded _ _ _ _ _ _ _ _ recorded
  have settling : Settling start.store obligation responding.actorId responding.activationId status results outcome :=
    ⟨found, opened, ended, assignment_claim_ok current, kept⟩
  have answered : (⟨{ revokeRequestActivations responding.requestId responding.actorId
      (amendObligation obligation.obligationId (fun row => row.settled status content.referenceText) start.store) with
        results }, start.log⟩ : Database) =
      ⟨start.store.answered request obligation status content.referenceText results, start.log⟩ := by
    rw [← named, ← recipient]
    rfl
  have moved : Moves (.requestRespond responding) start
      ⟨amendRequest responding.requestId (replyReady responding.responseId reply) replied.store, replied.log⟩ := by
    rw [answered] at routed
    simp only [createReply, Tx.bind_done, Tx.ask_done] at routed
    obtain ⟨stopped, _, ⟨rfl, rfl⟩, routed⟩ := routed
    have workRow : (start.store.answered request obligation status content.referenceText results).work?
        request.workId = some work := require_work_ok _ _ _ owner
    have workId := work_row_id workRow
    split at routed
    · rename_i stopped
      obtain ⟨rfl, rfl⟩ := (Tx.pure_done _).mp routed
      rw [← named]
      exact .one (.respond responding rfl request (named ▸ row) obligation linked unanswered status results outcome
        content.referenceText settling named responding.responseId (workId ▸ stopped))
    · rename_i quiet
      simp only [Tx.bind_done, Tx.pure_done] at routed
      obtain ⟨id, _, made, rfl, rfl⟩ := routed
      obtain ⟨actor, known, rfl, rfl⟩ := create_activation_done _ _ _ _ _ _ _ _ _ _ made
      have same := actor_row_id known
      rw [← named]
      refine .one (.reply responding rfl request (named ▸ row) obligation linked unanswered status results outcome
        content.referenceText settling named responding.responseId work _ ⟨?_, ⟨actor, ?_, rfl⟩, rfl, rfl, rfl,
        rfl⟩ ?_ rfl workId
        same rfl rfl)
      · change Store.work? _ work.workId = _
        rw [workId]
        exact workRow
      · simpa [Work.activation, same] using known
      · change effectiveExplicitStop _ work.workId actor.actorId = none
        rw [same]
        exact not_not.mp quiet
  refine (moved.tail (incidents_move _ _ obligation.obligationId)).trans ?_
  have grown : Grows (Call.requestRespond responding).site _ _ :=
    evaluate_wait_grows .settling world request.workId _ _ created (.inl rfl) evaluated
  exact grown.moves

theorem request_respond_moves (responding : Responding) (start final : Database) (idempotent : Bool)
    (run : requestRespond world responding start = .ok (idempotent, final)) :
    Moves (.requestRespond responding) start final := by
  simp only [requestRespond, Tx.bind_done, Tx.lift_done, Tx.ask_done] at run
  obtain ⟨content, _, ⟨checked, rfl⟩, _, start, ⟨rfl, rfl⟩, run⟩ := run
  cases row : start.store.request? responding.requestId with
  | none => simp [row] at run
  | some request =>
      simp only [row, Tx.bind_done, Tx.ask_done] at run
      obtain ⟨_, start, ⟨rfl, rfl⟩, run⟩ := run
      cases existing : start.store.response? responding.responseId with
      | some old =>
          simp only [existing, Tx.bind_done, Tx.require_done, Tx.pure_done] at run
          obtain ⟨_, _, ⟨_, rfl⟩, _, rfl⟩ := run
          exact .refl
      | none =>
          simp only [existing, Tx.bind_done, Tx.ask_done, Tx.require_done] at run
          obtain ⟨_, _, ⟨_, rfl⟩, _, _, ⟨recipient, rfl⟩, _, _, ⟨unanswered, rfl⟩, _, start, ⟨rfl, rfl⟩, run⟩ := run
          simp only [ne_eq, not_not] at recipient unanswered
          cases held : request.obligationId.bind start.store.obligation? with
          | none => simp [held] at run
          | some obligation =>
              simp only [held, Tx.bind_done, Tx.require_done, Tx.read_done, Tx.edit_done] at run
              obtain ⟨_, _, ⟨opened, rfl⟩, _, start, ⟨current, rfl⟩, _, _, rfl, run⟩ := run
              obtain ⟨id, linked, found⟩ := Option.bind_eq_some_iff.mp held
              have sameId := obligation_row_id found
              subst sameId
              have named := request_row_id row
              have responded : Move (.requestRespond responding) start
                  ⟨insertResponse (responding.response content) start.store, start.log⟩ :=
                .restore (.grow (.beside start.store.recoveryPolicies start.store.recoveryIncidents
                  (insertResponse (responding.response content) start.store).responses start.store.metadata))
              have progress : Edit (.requestRespond responding)
                (insertResponse (responding.response content) start.store)
                  (amendRequest responding.requestId markClaimed
                    (insertResponse (responding.response content) start.store)) := by
                rw [← named]
                exact .progress responding rfl request (named ▸ row) obligation linked found
                  (by simpa using opened) unanswered
                  (assignment_claim_ok current)
              have simple : Moves (.requestRespond responding) start
                  ⟨amendRequest responding.requestId markClaimed
                    (insertResponse (responding.response content) start.store), start.log⟩ :=
                .tail (.single responded) (.edit progress)
              by_cases kind : responding.kind = .terminal
              · cases terminal : responding.terminalStatus with
                | none =>
                    simp only [kind, terminal, Tx.bind_done, Tx.edit_done, Tx.pure_done] at run
                    obtain ⟨_, _, rfl, _, rfl⟩ := run
                    exact simple
                | some status =>
                    simp only [kind, terminal, Tx.bind_done, Tx.pure_done] at run
                    obtain ⟨_, _, settled, _, rfl⟩ := run
                    have ended : status ≠ .opened := by
                      simp only [Responding.check, bind_ok_iff, refuse_ok_iff] at checked
                      obtain ⟨_, _, _, _, _, _, _, given, _⟩ := checked
                      rintro rfl
                      exact given ⟨kind, .inr terminal⟩
                    exact .head responded (respond_terminally_moves world request obligation responding content status
                      ⟨insertResponse (responding.response content) start.store, start.log⟩ _ _ row linked found
                      (by simpa using opened) ended unanswered recipient current settled)
              · cases shape : responding.kind with
                | terminal => exact absurd shape kind
                | receipt =>
                    simp only [shape, Tx.bind_done, Tx.edit_done, Tx.pure_done] at run
                    obtain ⟨_, _, rfl, _, rfl⟩ := run
                    exact simple
                | progress =>
                    simp only [shape, Tx.bind_done, Tx.edit_done, Tx.pure_done] at run
                    obtain ⟨_, _, rfl, _, rfl⟩ := run
                    exact simple

theorem request_handle_moves (requestId actorId : String) (activationId : Nat) (start final : Database)
    (idempotent : Bool) (run : requestHandle requestId actorId activationId start = .ok (idempotent, final)) :
    Moves (.requestHandle requestId actorId activationId) start final := by
  simp only [requestHandle, Tx.bind_done, Tx.lift_done, Tx.ask_done] at run
  obtain ⟨_, _, ⟨_, rfl⟩, _, _, ⟨_, rfl⟩, _, start, ⟨rfl, rfl⟩, run⟩ := run
  cases row : start.store.request? requestId with
  | none => simp [row] at run
  | some request =>
      simp only [row, Tx.bind_done, Tx.require_done] at run
      obtain ⟨_, _, ⟨_, rfl⟩, run⟩ := run
      split at run
      · exact (Tx.pure_done _).mp run |>.2 ▸ .refl
      · simp only [Tx.bind_done, Tx.require_done, Tx.read_done, Tx.ask_done, Tx.edit_done, Tx.pure_done] at run
        obtain ⟨_, _, ⟨status, rfl⟩, actor, _, ⟨_, rfl⟩, _, _, ⟨rfl, rfl⟩, _, start, ⟨_, rfl⟩, _, _, rfl, _, _, rfl,
          _, _, rfl, _, rfl⟩ := run
        have named := request_row_id row
        subst named
        have handled : Move (.requestHandle request.requestId actorId activationId) start _ :=
          .edit (.handle request row (by simpa using status))
        exact .tail (.single handled) (.restore (.grow (.beside start.store.recoveryPolicies
          (resolveRecoveryIncidentsForManifest (.request request.requestId) .unconfirmedReplyHandling
            (revokeManifestActivations (.request request.requestId) [.workRecovery]
              (amendRequest request.requestId markHandled start.store))).recoveryIncidents
          start.store.responses start.store.metadata)))

end OrchestratorEngine.Continuity
