import OrchestratorEngine.Continuity.Performed

set_option autoImplicit false

namespace OrchestratorEngine.Continuity

open Foundation

structure Pinned (old new : Request) : Prop where
  requestId : new.requestId = old.requestId
  idempotencyKey : new.idempotencyKey = old.idempotencyKey
  fingerprint : new.fingerprint = old.fingerprint
  recipientRoute : new.recipientRoute = old.recipientRoute
  returnRoute : new.returnRoute = old.returnRoute

theorem Pinned.refl (request : Request) : Pinned request request := ⟨rfl, rfl, rfl, rfl, rfl⟩

theorem Pinned.trans {first second third : Request} (lower : Pinned first second) (upper : Pinned second third) :
    Pinned first third :=
  ⟨upper.requestId.trans lower.requestId, upper.idempotencyKey.trans lower.idempotencyKey,
    upper.fingerprint.trans lower.fingerprint, upper.recipientRoute.trans lower.recipientRoute,
    upper.returnRoute.trans lower.returnRoute⟩

structure Identified (store : Store) : Prop where
  ids : (store.requests.map Request.requestId).Nodup
  keys : (store.requests.map Request.idempotencyKey).Nodup
  obligations : (store.obligations.map Obligation.obligationId).Nodup
  actors : ∀ actor ∈ store.actors, actor.active = true

structure Retains (before after : Store) : Prop where
  requests : ∀ old ∈ before.requests, ∃ new ∈ after.requests, Pinned old new
  keys : (before.requests.map Request.idempotencyKey).Nodup → (after.requests.map Request.idempotencyKey).Nodup
  works : ∀ id old, before.work? id = some old → ∃ new, after.work? id = some new
  actors : (∀ actor ∈ before.actors, actor.active = true) → ∀ actor ∈ after.actors, actor.active = true
  known : ∀ id old, before.actor? id = some old → ∃ new, after.actor? id = some new

theorem Retains.trans {first second third : Store} (lower : Retains first second) (upper : Retains second third) :
    Retains first third := by
  refine ⟨fun old listed => ?_, upper.keys ∘ lower.keys, fun id old found => ?_, upper.actors ∘ lower.actors,
    fun id old found => ?_⟩
  · obtain ⟨middle, between, one⟩ := lower.requests old listed
    obtain ⟨new, last, two⟩ := upper.requests middle between
    exact ⟨new, last, one.trans two⟩
  · obtain ⟨middle, between⟩ := lower.works id old found
    exact upper.works id middle between
  · obtain ⟨middle, between⟩ := lower.known id old found
    exact upper.known id middle between

variable {before after : Store}

theorem retains_changed (change : Request → Request) (pinned : ∀ request, Pinned request (change request))
    (requests : after.requests = before.requests.map change) (works : after.works = before.works)
    (actors : after.actors = before.actors) : Retains before after := by
  refine ⟨fun old listed => ?_, fun distinct => ?_, fun id old found => ⟨old, ?_⟩, fun active => actors ▸ active,
    fun id old found => ⟨old, ?_⟩⟩
  · exact ⟨change old, requests ▸ List.mem_map_of_mem listed, pinned old⟩
  · have keys : (before.requests.map change).map Request.idempotencyKey = before.requests.map
      Request.idempotencyKey := by
      rw [List.map_map]
      exact List.map_congr_left fun request _ => (pinned request).idempotencyKey
    rw [requests, keys]
    exact distinct
  · unfold Store.work?
    rw [works]
    exact found
  · unfold Store.actor?
    rw [actors]
    exact found

theorem retains_same (requests : after.requests = before.requests)
    (works : after.works = before.works) (actors : after.actors = before.actors) : Retains before after :=
  retains_changed id Pinned.refl (by rw [requests, List.map_id]) works actors

theorem retains_amended (requestId : String) (change : Request → Request)
    (pinned : ∀ request, Pinned request (change request))
    (requests : after.requests = (amendRequest requestId change before).requests) (works : after.works = before.works)
    (actors : after.actors = before.actors) : Retains before after := by
  refine retains_changed _ (fun request => ?_) requests works actors
  split
  · exact pinned request
  · exact .refl request

theorem pointer_pinned (activationId : Nat) (pointer : Pointer) (request : Request) :
    Pinned request (pointer.change activationId request) := by
  cases pointer with
  | nothing => exact .refl request
  | redelivered _ =>
      dsimp only [Pointer.change]
      split <;> exact ⟨rfl, rfl, rfl, rfl, rfl⟩
  | pointed _ =>
      dsimp only [Pointer.change]
      split <;> exact ⟨rfl, rfl, rfl, rfl, rfl⟩
  | replied _ =>
      dsimp only [Pointer.change]
      split <;> exact ⟨rfl, rfl, rfl, rfl, rfl⟩

theorem retains_put_actor (actor : Actor) (active : actor.active = true)
    (requests : after.requests = before.requests) (works : after.works = before.works)
    (actors : after.actors = (putActor actor before).actors) : Retains before after := by
  have rest : Retains before { after with actors := before.actors } := retains_same requests works rfl
  refine ⟨rest.requests, rest.keys, rest.works, fun held other listed => ?_, fun id old found => ?_⟩
  · rw [actors] at listed
    rcases (mem_put _ _ _ _).mp listed with rfl | ⟨old, -⟩
    · exact active
    · exact held other old
  · by_cases own : id = actor.actorId
    · subst own
      exact ⟨actor, by unfold Store.actor?; rw [actors]; exact put_row _ _ _⟩
    · exact ⟨old, by unfold Store.actor?; rw [actors]; exact (put_row_other _ _ _ _ own).trans found⟩

theorem Edit.retains {call : Call} (edit : Edit call before after) : Retains before after := by
  cases edit with
  | enlist _ _ actor active _ => exact retains_put_actor actor active rfl rfl rfl
  | rebind _ _ _ actor _ active _ _ => exact retains_put_actor actor active rfl rfl rfl
  | begin work _ _ =>
      have rest : Retains before before := retains_same rfl rfl rfl
      refine ⟨rest.requests, rest.keys, fun id old found => ⟨old, ?_⟩, rest.actors, rest.known⟩
      unfold Store.work? at found ⊢
      rw [row_append, found]
      rfl
  | sending request obligation fresh _ _ _ _ _ _ _ _ _ _ unused =>
      have rest : Retains before before := retains_same rfl rfl rfl
      refine ⟨fun old listed => ⟨old, List.mem_append_left _ listed, .refl old⟩, fun distinct => ?_,
        rest.works, rest.actors,
        rest.known⟩
      change ((before.requests ++ [request]).map Request.idempotencyKey).Nodup
      rw [List.map_append]
      refine List.Nodup.append distinct (by simp) ?_
      simpa [eq_comm] using unused
  | progress _ _ request _ _ _ _ _ _ _ =>
      exact retains_amended request.requestId markClaimed (fun _ => ⟨rfl, rfl, rfl, rfl, rfl⟩) rfl rfl rfl
  | handle request _ _ =>
      exact retains_amended request.requestId markHandled (fun _ => ⟨rfl, rfl, rfl, rfl, rfl⟩) rfl rfl rfl
  | step _ _ _ _ _ _ _ _ _ _ _ =>
      dsimp only [Store.step]
      split <;> exact retains_same rfl rfl rfl
  | advance taken _ work _ _ _ _ _ _ _ _ _ _ _ _ _ =>
      have rest : Retains before before := retains_same rfl rfl rfl
      refine ⟨rest.requests, rest.keys, fun id old found => ?_, rest.actors, rest.known⟩
      refine ⟨_, (row_map Work.workId _ (fun row => by split <;> rfl) id before.works).trans
        (congrArg (Option.map _) found)⟩
  | hand handover _ work _ _ _ _ =>
      have rest : Retains before before := retains_same rfl rfl rfl
      refine ⟨rest.requests, rest.keys, fun id old found => ?_, rest.actors, rest.known⟩
      refine ⟨_, (row_map Work.workId _ (fun row => by split <;> rfl) id before.works).trans
        (congrArg (Option.map _) found)⟩
  | claim world activation _ _ _ _ obligation request _ =>
      unfold recordClaim
      split
      · exact retains_same rfl rfl rfl
      · split
        · exact retains_amended _ markClaimed (fun _ => ⟨rfl, rfl, rfl, rfl, rfl⟩) rfl rfl rfl
        · exact retains_same rfl rfl rfl
        · split
          · exact retains_amended _ markClosed (fun _ => ⟨rfl, rfl, rfl, rfl, rfl⟩) rfl rfl rfl
          · exact retains_same rfl rfl rfl
        · exact retains_same rfl rfl rfl
  | _ => exact retains_same rfl rfl rfl

theorem Move.retains {call : Call} {start next : Database} (move : Move call start next) :
    Retains start.store next.store := by
  cases move with
  | restore restored =>
      cases restored with
      | grow growth =>
          cases growth with
          | create work activation pointer _ _ _ =>
              exact retains_changed _ (pointer_pinned activation.activationId pointer) rfl rfl rfl
          | beside _ _ _ _ => exact retains_same rfl rfl rfl
      | record _ _ _ _ _ _ => exact retains_same rfl rfl rfl
  | edit edited => exact edited.retains
  | respond _ _ request _ _ _ _ _ _ _ _ _ _ responseId _ =>
      exact retains_amended request.requestId (replyReady responseId none)
        (fun _ => ⟨rfl, rfl, rfl, rfl, rfl⟩) rfl rfl rfl
  | reply _ _ request _ _ _ _ _ _ _ _ _ _ responseId _ activation _ _ _ _ _ _ _ =>
      exact retains_amended request.requestId (replyReady responseId (some activation.activationId))
        (fun _ => ⟨rfl, rfl, rfl, rfl, rfl⟩) rfl rfl rfl
  | report _ _ => exact retains_same rfl rfl rfl

theorem Moves.retains {call : Call} {start final : Database} (moves : Moves call start final) :
    Retains start.store final.store := by
  induction moves with
  | refl => exact retains_same rfl rfl rfl
  | tail _ move ih => exact ih.trans move.retains

theorem run_retains (calls : Run) (store : Store) (sound : Sound store) : Retains store (run calls store) :=
  Enduring.run ⟨fun _ => retains_same rfl rfl rfl, fun _ _ _ => .trans, fun _ _ _ move _ => move.retains⟩
  calls store sound

theorem run_identified (calls : Run) : Identified (run calls initialized) := by
  have sound : Sound (run calls initialized) := reachable_sound ⟨calls, rfl⟩
  have retains := run_retains calls initialized initialized_sound
  exact ⟨sound.links.distinct, retains.keys (by simp [initialized]), sound.keys.obligations,
    retains.actors (by simp [initialized])⟩

theorem require_actor_kept (retains : Retains before after)
    (active : ∀ actor ∈ after.actors, actor.active = true) {actorId : String} {actor : Actor}
    (known : requireActor before actorId = .ok actor) : ∃ new, requireActor after actorId = .ok new := by
  obtain ⟨row, -⟩ := require_actor_ok _ _ _ known
  obtain ⟨new, found⟩ := retains.known actorId actor row
  refine ⟨new, ?_⟩
  unfold requireActor
  rw [found]
  exact if_pos (active new (row_mem _ _ _ _ found).1)

theorem require_work_kept (retains : Retains before after) {workId : String} {work : Work}
    (known : requireWork before workId = .ok work) : ∃ new, requireWork after workId = .ok new := by
  obtain ⟨new, found⟩ := retains.works workId work (require_work_ok _ _ _ known)
  refine ⟨new, ?_⟩
  unfold requireWork
  rw [found]

-- What two calls have to share for one to repeat the other: everything that is
-- sent, but not when its recipient is reminded of it.
structure SameContent (first second : Sending) (message other : Message) : Prop where
  requestId : second.requestId = first.requestId
  idempotencyKey : second.idempotencyKey = first.idempotencyKey
  workId : second.workId = first.workId
  senderActor : second.senderActor = first.senderActor
  recipientActor : second.recipientActor = first.recipientActor
  returnActor : second.returnActor = first.returnActor
  message : other = message
  requiresReply : second.requiresReply = first.requiresReply
  required : second.required = first.required

theorem same_envelope (first second : Sending) (message other : Message) (recipientRoute returnRoute : Route) :
    second.requestId = first.requestId ∧ second.idempotencyKey = first.idempotencyKey ∧
      second.envelope other recipientRoute returnRoute = first.envelope message recipientRoute returnRoute ↔
    SameContent first second message other := by
  simp only [Sending.envelope, Envelope.mk.injEq, and_true]
  constructor
  · rintro ⟨requestId, key, workId, -, sender, recipient, returning, content, reply, required⟩
    exact ⟨requestId, key, workId, sender, recipient, returning, content, reply, required⟩
  · rintro ⟨requestId, key, workId, sender, recipient, returning, content, reply, required⟩
    exact ⟨requestId, key, workId, requestId, sender, recipient, returning, content, reply, required⟩

structure SentBy (before after : Store) (world : World) (sending : Sending) (message : Message) : Prop where
  checked : sending.check world = .ok message
  work : ∃ work, requireWork before sending.workId = .ok work
  sender : ∃ actor, requireActor before sending.senderActor = .ok actor
  recipient : ∃ actor, requireActor before sending.recipientActor = .ok actor
  returning : ∃ actor, requireActor before sending.returnActor = .ok actor
  request : ∃ request ∈ after.requests, request.requestId = sending.requestId ∧
    request.idempotencyKey = sending.idempotencyKey ∧
    request.fingerprint = sending.envelope message request.recipientRoute request.returnRoute

theorem request_send_leaves (world : World) (sending : Sending) (start final : Database) (sound : Sound start.store)
    (idempotent : Bool) (sent : requestSend world sending start = .ok (idempotent, final)) :
    ∃ message, SentBy start.store final.store world sending message := by
  have run := sent
  simp only [requestSend, Tx.bind_done, Tx.lift_done, Tx.read_done, Tx.ask_done] at run
  obtain ⟨message, _, ⟨checked, rfl⟩, work, _, ⟨owner, rfl⟩, sender, _, ⟨known, rfl⟩, recipient, _, ⟨asked, rfl⟩,
    returning, _, ⟨answers, rfl⟩, _, start, ⟨rfl, rfl⟩, rest⟩ := run
  refine ⟨message, checked, ⟨work, owner⟩, ⟨sender, known⟩, ⟨recipient, asked⟩, ⟨returning, answers⟩, ?_⟩
  cases existing : sending.existing? start.store with
  | some old =>
      have found : start.store.requests.find? (fun request =>
        decide (request.idempotencyKey = sending.idempotencyKey ∨ request.requestId = sending.requestId))
        = some old := existing
      simp only [found, Tx.bind_done, Tx.require_done, Tx.pure_done] at rest
      obtain ⟨_, _, ⟨same, rfl⟩, _, rfl⟩ := rest
      simp only [not_or, not_not] at same
      exact ⟨old, List.mem_of_find?_eq_some found, same.2.1, same.1, same.2.2⟩
  | none =>
      obtain ⟨other, recipient, returning, again, _, grown⟩ :=
        request_send_grows world sending start final idempotent sound existing sent
      cases checked.symm.trans again
      obtain ⟨request, listed, pinned⟩ := (Moves.retains grown.moves).requests
        (sending.request world (sending.envelope message (actorRoute recipient) (actorRoute returning)))
        (List.mem_append_right _ (List.mem_singleton_self _))
      exact ⟨request, listed, pinned.requestId, pinned.idempotencyKey,
        by rw [pinned.fingerprint, pinned.recipientRoute, pinned.returnRoute]; rfl⟩

theorem existing_row {store : Store} (identified : Identified store) {request : Request}
    (listed : request ∈ store.requests)
    {sending : Sending} (named : request.idempotencyKey = sending.idempotencyKey ∧
    request.requestId = sending.requestId) :
    sending.existing? store = some request := by
  cases found : sending.existing? store with
  | none =>
      have absent := List.find?_eq_none.mp found request listed
      simp [named.1] at absent
  | some other =>
      have also := List.mem_of_find?_eq_some found
      have shared : other.idempotencyKey = sending.idempotencyKey ∨ other.requestId = sending.requestId := by
        simpa using List.find?_some (show List.find? _ store.requests = some other from found)
      rcases shared with key | id
      · rw [row_unique Request.idempotencyKey store.requests identified.keys other request also listed
          (key.trans named.1.symm)]
      · rw [row_unique Request.requestId store.requests identified.ids other request also listed
          (id.trans named.2.symm)]

theorem existing_some {store : Store} {request : Request} {sending : Sending} (listed : request ∈ store.requests)
    (named : request.idempotencyKey = sending.idempotencyKey ∨ request.requestId = sending.requestId) :
    ∃ other ∈ store.requests, sending.existing? store = some other := by
  cases found : sending.existing? store with
  | none =>
      have absent := List.find?_eq_none.mp found request listed
      simp [named] at absent
  | some other => exact ⟨other, List.mem_of_find?_eq_some found, rfl⟩

theorem repetition_accepted {world later : World} {first again : Sending} {message : Message}
    (sent : SentBy before after world first message) (reached : Store) (early : Retains before reached)
    (kept : Retains after reached) (identified : Identified reached) {other : Message}
    (checked : again.check later = .ok other) (same : SameContent first again message other) :
    requestSend later again ⟨reached, []⟩ = .ok (true, ⟨reached, []⟩) := by
  obtain ⟨request, listed, id, key, fingerprint⟩ := sent.request
  obtain ⟨row, present, pinned⟩ := kept.requests request listed
  obtain ⟨work, placed⟩ := sent.work.elim fun _ known => require_work_kept early known
  obtain ⟨sender, sends⟩ := sent.sender.elim fun _ known => require_actor_kept early identified.actors known
  obtain ⟨recipient, receives⟩ := sent.recipient.elim fun _ known => require_actor_kept early identified.actors known
  obtain ⟨returning, answers⟩ := sent.returning.elim fun _ known => require_actor_kept early identified.actors known
  have found : again.existing? reached = some row := existing_row identified present
    ⟨(pinned.idempotencyKey.trans key).trans same.idempotencyKey.symm,
      (pinned.requestId.trans id).trans same.requestId.symm⟩
  have content : row.fingerprint = again.envelope other row.recipientRoute row.returnRoute := by
    rw [pinned.fingerprint, fingerprint, pinned.recipientRoute, pinned.returnRoute]
    exact (((same_envelope first again message other _ _).mpr same).2.2).symm
  simp only [requestSend, Tx.bind_done, Tx.lift_done, Tx.read_done, Tx.ask_done]
  refine ⟨other, _, ⟨checked, rfl⟩, work, _, ⟨same.workId ▸ placed, rfl⟩, sender, _, ⟨same.senderActor ▸ sends, rfl⟩,
    recipient, _, ⟨same.recipientActor ▸ receives, rfl⟩, returning, _, ⟨same.returnActor ▸ answers, rfl⟩, _,
    _, ⟨rfl, rfl⟩, ?_⟩
  rw [show reached.requests.find? (fun request => decide (request.idempotencyKey = again.idempotencyKey ∨
    request.requestId = again.requestId)) = some row from found]
  simp only [Tx.bind_done, Tx.require_done, Tx.pure_done, not_or, not_not]
  exact ⟨(), _, ⟨⟨(pinned.idempotencyKey.trans key).trans same.idempotencyKey.symm,
    (pinned.requestId.trans id).trans same.requestId.symm, content⟩, rfl⟩, trivial, rfl⟩

theorem repetition_raises {world later : World} {first again : Sending} {message : Message}
    (sent : SentBy before after world first message) (reached : Store) (kept : Retains after reached)
    (identified : Identified reached)
    (shares : again.idempotencyKey = first.idempotencyKey ∨ again.requestId = first.requestId)
    (differs : ∀ other, again.check later = .ok other → ¬ SameContent first again message other) :
    ∃ error, requestSend later again ⟨reached, []⟩ = .error error := by
  obtain ⟨request, listed, id, key, fingerprint⟩ := sent.request
  obtain ⟨row, present, pinned⟩ := kept.requests request listed
  cases run : requestSend later again ⟨reached, []⟩ with
  | error error => exact ⟨error, rfl⟩
  | ok result =>
      obtain ⟨idempotent, final⟩ := result
      obtain ⟨old, also, found⟩ := existing_some present
        (shares.imp (fun same => (pinned.idempotencyKey.trans key).trans same.symm)
          fun same => (pinned.requestId.trans id).trans same.symm)
      simp only [requestSend, Tx.bind_done, Tx.lift_done, Tx.read_done, Tx.ask_done] at run
      obtain ⟨other, _, ⟨checked, rfl⟩, _, _, ⟨_, rfl⟩, _, _, ⟨_, rfl⟩, _, _, ⟨_, rfl⟩, _, _, ⟨_, rfl⟩,
        _, _, ⟨rfl, rfl⟩,
        rest⟩ := run
      rw [show reached.requests.find? (fun request => decide (request.idempotencyKey = again.idempotencyKey ∨
        request.requestId = again.requestId)) = some old from found] at rest
      simp only [Tx.bind_done, Tx.require_done, Tx.pure_done, not_or, not_not] at rest
      obtain ⟨_, _, ⟨⟨oldKey, oldId, content⟩, rfl⟩, _⟩ := rest
      have same : old = row := by
        rcases shares with shared | shared
        · refine row_unique Request.idempotencyKey reached.requests identified.keys old row also present ?_
          rw [oldKey, shared, pinned.idempotencyKey, key]
        · refine row_unique Request.requestId reached.requests identified.ids old row also present ?_
          rw [oldId, shared, pinned.requestId, id]
      subst same
      refine absurd ((same_envelope first again message other old.recipientRoute old.returnRoute).mp ⟨?_, ?_, ?_⟩)
        (differs other checked)
      · exact oldId.symm.trans (pinned.requestId.trans id)
      · exact oldKey.symm.trans (pinned.idempotencyKey.trans key)
      · rw [← content, pinned.fingerprint, fingerprint, pinned.recipientRoute, pinned.returnRoute]

theorem accepted_performed (world : World) (sending : Sending) (store : Store) (idempotent : Bool) (session : Database)
    (accepted : requestSend world sending ⟨store, []⟩ = .ok (idempotent, session)) :
    perform world (.requestSend sending) store = conclude world session (.idempotent idempotent) .publishOrRaise := by
  have body : transact world (.requestSend sending) ⟨store, []⟩ =
    .ok ((.idempotent idempotent, .publishOrRaise), session) :=
    (Tx.bind_done _ _).mpr ⟨idempotent, session, accepted, rfl⟩
  unfold perform
  rw [body]

theorem refused_performed (world : World) (sending : Sending) (store : Store) (error : Error)
    (refused : requestSend world sending ⟨store, []⟩ = .error error) :
    perform world (.requestSend sending) store = ⟨store, [], [], .error error⟩ := by
  have body : transact world (.requestSend sending) ⟨store, []⟩ = requestSend world sending ⟨store, []⟩ >>= fun done =>
    .ok ((.idempotent done.1, .publishOrRaise), done.2) := rfl
  unfold perform
  rw [body, refused]
  rfl

theorem requests_sent_once (front : Run) :
    ((run front initialized).requests.map Request.requestId).Nodup ∧
    ((run front initialized).requests.map Request.idempotencyKey).Nodup ∧
    ((run front initialized).obligations.map Obligation.obligationId).Nodup ∧
    (∀ first ∈ (run front initialized).requests, ∀ second ∈ (run front initialized).requests, ∀ id,
      first.obligationId = some id → second.obligationId = some id → first = second) ∧
    ∀ world first idempotent session, requestSend world first ⟨run front initialized, []⟩ = .ok (idempotent, session) →
      ∃ message, first.check world = .ok message ∧ ∀ back later again,
        again.idempotencyKey = first.idempotencyKey ∨ again.requestId = first.requestId →
        let reached := run (front ++ (world, .requestSend first) :: back) initialized
        (∀ other, again.check later = .ok other → SameContent first again message other →
          perform later (.requestSend again) reached = conclude later ⟨reached, []⟩ (.idempotent true) .publishOrRaise ∧
          (perform later (.requestSend again) reached).created = [] ∧
          ∃ activations outbox, (perform later (.requestSend again) reached).store =
            { reached with activations, outbox }) ∧
        ((∀ other, again.check later = .ok other → ¬ SameContent first again message other) →
          ∃ error, perform later (.requestSend again) reached = ⟨reached, [], [], .error error⟩) := by
  obtain ⟨ids, keys, obligations, -⟩ := run_identified front
  have sound : Sound (run front initialized) := reachable_sound ⟨front, rfl⟩
  refine ⟨ids, keys, obligations, fun _ listed _ also _ one other => sound.links.only listed also one other,
    fun world first idempotent session accepted => ?_⟩
  obtain ⟨message, sent⟩ := request_send_leaves world first ⟨run front initialized, []⟩ session sound
    idempotent accepted
  refine ⟨message, sent.checked, fun back later again shares => ?_⟩
  intro reached
  have identified : Identified reached := run_identified _
  have performed : reached = run back (perform world (.requestSend first) (run front initialized)).store :=
    run_append _ _ _
  have afterSound := performed_sound world (.requestSend first) _ sound
  have rest : Retains (perform world (.requestSend first) (run front initialized)).store reached :=
    performed ▸ run_retains back _ afterSound
  have early : Retains (run front initialized) reached :=
    (performed_moves world (.requestSend first) _ sound).retains.trans rest
  have kept : Retains session.store reached := by
    refine Retains.trans ?_ rest
    obtain ⟨activations, outbox, same⟩ := conclude_frame world session (.idempotent idempotent) .publishOrRaise
    rw [accepted_performed world first _ idempotent session accepted, same]
    exact retains_same rfl rfl rfl
  refine ⟨fun other checked same => ?_, fun differs => ?_⟩
  · have again := accepted_performed later again reached true _
      (repetition_accepted sent reached early kept identified checked same)
    rw [again]
    exact ⟨rfl, rfl, conclude_frame later ⟨reached, []⟩ (.idempotent true) .publishOrRaise⟩
  · obtain ⟨error, refused⟩ := repetition_raises sent reached kept identified shares differs
    exact ⟨error, refused_performed later again reached error refused⟩

def sampleSending : Sending :=
  ⟨"work", "request", "key", "owner", "owner", "owner", some "message", none, true, false, 600, 1⟩

def stoppedSending : Run :=
  let calm := World.calm 0 fun _ => .pending
  [(calm, .registerActor ⟨"owner", "owner", "codex", some "thread", none, []⟩),
    (calm, .startWork ⟨"work", "owner", "objective", []⟩),
    ({ calm with attempt := fun _ => .interrupted }, .requestSend sampleSending)]

theorem repetition_publishes :
    let calm := World.calm 0 fun _ => .pending
    let left := run stoppedSending initialized
    let repeated := perform calm (.requestSend sampleSending) left
    repeated.reply.toOption = some (.idempotent true) ∧ repeated.store.activations ≠ left.activations ∧
      (perform calm (.requestSend { sampleSending with reminderSeconds := 700 }) left).reply.toOption =
        some (.idempotent true) := by
  decide +kernel

end OrchestratorEngine.Continuity
