import OrchestratorEngine.Continuity.Creations

set_option autoImplicit false

namespace OrchestratorEngine.Continuity

open Foundation

variable {start final : Database}

theorem Grows.moves {call : Call} (grows : Grows call.site start final) :
    Moves call start final := by
  induction grows with
  | refl => exact .refl
  | tail _ last ih => exact ih.tail (.restore (.grow last))

theorem Restores.moves {call : Call} (restored : Restores call.site start final) :
    Moves call start final := by
  induction restored with
  | refl => exact .refl
  | tail _ last ih => exact ih.tail (.restore last)

theorem Moves.one {call : Call} (move : Move call start final) : Moves call start final :=
  .single move

variable {store : Store}

theorem no_active_obligation {obligation : Obligation} {actor : Actor} (reasons : List Reason)
    (found : requireActor store obligation.assigneeActor = .ok actor)
    (stale : ∀ activation ∈ store.activations, Mark.obligation obligation.obligationId ∈ activation.manifest →
      activation.assignmentGeneration ≠ some obligation.generation) :
    activeObligationActivation store obligation reasons = .ok none := by
  rw [activeObligationActivation, found, bind_ok]
  refine congrArg Except.ok (List.find?_eq_none.mpr fun activation listed fits => ?_)
  have member := (List.mem_insertionSort _).mp (List.mem_reverse.mp listed)
  simp only [Bool.and_eq_true, decide_eq_true_eq] at fits
  exact stale activation member fits.1.2.2.2.2.2 fits.1.2.2.1

structure Rebound (start : Database) (actor : Actor) : Prop where
  sound : Sound start.store
  row : requireActor start.store actor.actorId = .ok actor
  fenced : ∀ activation ∈ start.store.activations, activation.actorId = actor.actorId →
    activation.active = false ∧ activation.endpointGeneration < actor.generation

variable (world : World)

theorem route_stamped (work : Work) (obligation : Obligation) (request : Option Request)
    (assignment : Option AssignmentCheckpoint) (generation : Nat) :
    rearmObligationRoute world work obligation request
        (assignment.map fun row => { row with assignmentGeneration := generation }) =
      rearmObligationRoute world work obligation request assignment := by
  cases assignment <;> rfl

theorem renew_checkpoint (store : Store) (obligation : Obligation) :
    (store.renew obligation).checkpoint? obligation.obligationId =
      (store.checkpoint? obligation.obligationId).map fun row =>
        { row with assignmentGeneration := obligation.generation + 1 } := by
  have mapped := row_map AssignmentCheckpoint.obligationId
    (fun row => if row.obligationId = obligation.obligationId then
      { row with assignmentGeneration := obligation.generation + 1 } else row) (fun row => by split <;> rfl)
    obligation.obligationId store.assignmentCheckpoints
  refine mapped.trans ?_
  cases found : row? AssignmentCheckpoint.obligationId obligation.obligationId store.assignmentCheckpoints with
  | none => simp [Store.checkpoint?, found]
  | some row =>
      have same := (row_mem _ _ _ _ found).2
      simp [Store.checkpoint?, found, same]

theorem renew_row {obligation : Obligation}
    (row : store.obligation? obligation.obligationId = some obligation) :
    (store.renew obligation).obligation? obligation.obligationId = some obligation.renewed := by
  have changed := amend_obligation_row store obligation.obligationId obligation.obligationId Obligation.renewed
    fun _ => rfl
  exact changed.trans (by simp [row])

theorem renew_other (store : Store) (obligation : Obligation) (id : String) (different : id ≠ obligation.obligationId) :
    (store.renew obligation).obligation? id = store.obligation? id := by
  have changed := amend_obligation_row store obligation.obligationId id Obligation.renewed fun _ => rfl
  refine changed.trans ?_
  cases found : store.obligation? id with
  | none => rfl
  | some other =>
      have same := obligation_row_id found
      simp [same, different]

variable (registration : Registration)

theorem rebind_obligation_moves (actor : Actor) (obligation : Obligation)
    (start final : Database) (done : Unit) (sound : Sound start.store)
    (row : start.store.obligation? obligation.obligationId = some obligation) (opened : obligation.status = .opened)
    (assignee : obligation.assigneeActor = registration.actorId)
    (found : requireActor start.store obligation.assigneeActor = .ok actor)
    (idle : ∀ activation ∈ start.store.activations, Mark.obligation obligation.obligationId ∈ activation.manifest →
      activation.active = false)
    (run : rebindObligation world obligation start = .ok (done, final)) :
    Moves (.registerActor registration) start final ∧
      (∀ id, id ≠ obligation.obligationId → final.store.obligation? id = start.store.obligation? id) ∧
      final.store.actors = start.store.actors ∧ final.store.works = start.store.works ∧
      ∃ created, final.store.activations = start.store.activations ++ created ∧
        ∀ activation ∈ created, Serving obligation.obligationId activation := by
  have edit : Edit (.registerActor registration) start.store (start.store.renew obligation) :=
    .renew registration rfl obligation row opened assignee idle
  have renewedSound := (edit.evolved sound).sound sound
  have current := renew_row row
  simp only [rebindObligation, Tx.bind_done, Tx.edit_done, Tx.ask_done] at run
  obtain ⟨_, _, rfl, kept, _, ⟨rfl, rfl⟩, run⟩ := run
  have before : (amendObligation obligation.obligationId Obligation.renewed start.store).obligation?
      obligation.obligationId = some obligation.renewed := current
  simp only [before, Tx.bind_done, Tx.read_done, Tx.ask_done, Tx.edit_done, Tx.pure_done] at run
  obtain ⟨work, _, ⟨owner, rfl⟩, _, _, ⟨rfl, rfl⟩, _, _, ⟨rfl, rfl⟩, _, _, rfl, created, _, routed, _, rfl⟩ := run
  have ownerRow : (start.store.renew obligation).work? obligation.workId = some work := require_work_ok _ _ _ owner
  have workId := work_row_id ownerRow
  rw [← route_stamped world work obligation.renewed _ _ (obligation.generation + 1)] at routed
  have standing : Standing (start.store.renew obligation) obligation.renewed
      ((start.store.renew obligation).linkedRequest? obligation.obligationId)
      ((start.store.checkpoint? obligation.obligationId).map fun row =>
        { row with assignmentGeneration := obligation.generation + 1 }) :=
    ⟨current, opened, rfl, renew_checkpoint start.store obligation⟩
  have fresh : activeObligationActivation (start.store.renew obligation) obligation.renewed
      [.obligationAssigned, .obligationReminder] = .ok none := by
    refine no_active_obligation _ found fun activation listed marked stamped => ?_
    obtain ⟨old, was, _, _, generation, same, bound⟩ := sound.assigned activation listed _ marked
    cases row.symm.trans was
    rw [same] at stamped
    have raised : generation = obligation.generation + 1 := Option.some.inj stamped
    omega
  have grown : Grows (Call.registerActor registration).site ⟨start.store.renew obligation, start.log⟩ _ :=
    rearm_route_grows .ordinary world work obligation.renewed _ _ ⟨start.store.renew obligation, start.log⟩ _ created
      renewedSound.links (workId ▸ ownerRow) standing workId.symm (fun _ _ _ => .inr fresh) routed
  have framed := grown.framed
  refine ⟨.head (.edit edit) grown.moves, fun id different => ?_, framed.actors, framed.works, ?_⟩
  · rw [framed.obligation]
    exact renew_other start.store obligation id different
  · exact rearm_route_creates world work obligation.renewed _ _ ⟨start.store.renew obligation, start.log⟩ _ _ routed

theorem no_active_current {actorId : String} {actor : Actor} {reason : Reason} (pointer : Option Nat)
    (found : requireActor store actorId = .ok actor)
    (stale : ∀ activation ∈ store.activations, pointer = some activation.activationId → activation.actorId = actorId →
      activation.reason = reason → activation.endpointGeneration ≠ actor.generation) :
    activeCurrentActivation store pointer actorId reason = .ok none := by
  cases pointer with
  | none => rfl
  | some id =>
      rw [activeCurrentActivation, found, bind_ok]
      refine congrArg Except.ok (Option.filter_eq_none_iff.mpr fun activation kept fits => ?_)
      obtain ⟨listed, named⟩ := row_mem _ _ _ _ kept
      simp only [Bool.and_eq_true, decide_eq_true_eq] at fits
      exact stale activation listed (congrArg some named.symm) fits.1.1 fits.1.2.1 fits.1.2.2

theorem rebind_reply_moves (request : Request) (start final : Database)
    (done : Unit) (row : start.store.request? request.requestId = some request) (status : request.status = .replyReady)
    (idle : activeCurrentActivation start.store request.replyActivationId request.returnActor .requestReply = .ok none)
    (run : rebindReply world request start = .ok (done, final)) :
    Grows (Call.registerActor registration).site start final ∧ Others request.requestId start.store final.store := by
  simp only [rebindReply, Tx.bind_done, Tx.read_done, Tx.ask_done] at run
  obtain ⟨work, _, ⟨found, rfl⟩, stopped, start, ⟨rfl, rfl⟩, run⟩ := run
  have owner := require_work_ok _ _ _ found
  have workId := work_row_id owner
  split at run
  · exact (Tx.pure_done _).mp run |>.2 ▸ ⟨.refl, fun _ _ => rfl⟩
  · rename_i quiet
    simp only [Tx.bind_done, Tx.edit_done] at run
    obtain ⟨id, middle, made, rfl⟩ := run
    have grown := point_grows .ordinary world work _ _ _ _ _ start middle id (.replied request.requestId)
      (workId ▸ owner) made (fun activation place actor generation reason manifest _ =>
        .replied request row status idle reason (place.trans workId) actor generation _ none (by simpa using manifest))
      (.inr (by simpa using quiet))
    refine ⟨.one grown, fun other different => ?_⟩
    obtain ⟨_, _, _, same⟩ := create_activation_done _ _ _ _ _ _ _ _ _ _ made
    subst same
    exact apply_others (.inr (.inr rfl)) other different

theorem rebind_work_grows (work : Work) (actor : Actor)
    (start final : Database) (done : Unit) (row : start.store.work? work.workId = some work)
    (found : requireActor start.store work.ownerActor = .ok actor)
    (unrouted : ∀ old ∈ start.store.activations, old.workId = work.workId → old.actorId = work.ownerActor →
      old.endpointGeneration = actor.generation → old.reason ≠ .continueCheckpoint ∧ old.reason ≠ .ownershipTransferred)
    (run : rebindWork world work start = .ok (done, final)) :
    Grows (Call.registerActor registration).site start final := by
  simp only [rebindWork, Tx.bind_done, Tx.ask_done] at run
  obtain ⟨stopped, start, ⟨rfl, rfl⟩, run⟩ := run
  split at run
  · exact (Tx.pure_done _).mp run |>.2 ▸ .refl
  · rename_i quiet
    simp only [ne_eq, not_not] at quiet
    split at run
    · rename_i mode
      simp only [Tx.bind_done, Tx.pure_done] at run
      obtain ⟨id, _, made, _, rfl⟩ := run
      refine .one (create_grows .ordinary world work _ _ _ _ _ _ _ id row made ?_ (.inr quiet))
      rintro activation _ owner generation reason manifest ⟨current, again, endpoint⟩
      cases found.symm.trans again
      exact .continued mode (.renewed fun old listed place actor' _ same =>
        unrouted old listed place actor' (same.trans endpoint)) reason owner generation manifest
    · split at run
      · simp only [Tx.bind_done, Tx.pure_done] at run
        obtain ⟨created, _, evaluated, _, rfl⟩ := run
        refine evaluate_wait_grows .ordinary world work.workId start _ created (.inr fun other same => ?_) evaluated
        cases same.symm.trans row
        exact quiet
      · exact (Tx.pure_done _).mp run |>.2 ▸ .refl

structure Rebinding (registration : Registration) (start now : Database) (allowed : Activation → Prop) : Prop where
  moves : Moves (.registerActor registration) start now
  actors : now.store.actors = start.store.actors
  works : now.store.works = start.store.works
  created : ∃ created, now.store.activations = start.store.activations ++ created ∧
    ∀ activation ∈ created, allowed activation

theorem Rebinding.actor {registration : Registration} {start now : Database} {allowed : Activation → Prop}
    (rebinding : Rebinding registration start now allowed) (actorId : String) :
    requireActor now.store actorId = requireActor start.store actorId := by
  unfold requireActor Store.actor?
  rw [rebinding.actors]

theorem Rebinding.tail {registration : Registration} {start now next : Database} {allowed here : Activation → Prop}
    (rebinding : Rebinding registration start now allowed) (moves : Moves (.registerActor registration) now next)
    (actors : next.store.actors = now.store.actors) (works : next.store.works = now.store.works)
    (created : ∃ created, next.store.activations = now.store.activations ++ created ∧
      ∀ activation ∈ created, here activation) {all : Activation → Prop} (before : ∀ activation,
      allowed activation → all activation)
    (after : ∀ activation, here activation → all activation) : Rebinding registration start next all := by
  obtain ⟨early, one, first⟩ := rebinding.created
  obtain ⟨late, two, second⟩ := created
  refine ⟨rebinding.moves.trans moves, actors.trans rebinding.actors, works.trans rebinding.works, early ++ late,
    by rw [two, one, List.append_assoc], fun activation listed => ?_⟩
  rcases List.mem_append.mp listed with old | new
  · exact before activation (first activation old)
  · exact after activation (second activation new)

theorem rebind_obligations (actor : Actor) (start final : Database)
    (done : Unit) (rebound : Rebound start actor) (named : actor.actorId = registration.actorId)
    (run : Tx.each (rebindObligation world) (start.store.obligations.filter fun obligation =>
      decide (obligation.assigneeActor = registration.actorId ∧ obligation.status = .opened))
      start = .ok (done, final)) :
    Rebinding registration start final fun activation => ∃ obligationId, Serving obligationId activation := by
  have sound := rebound.sound
  have walked := Tx.each_rule (rebindObligation world) (fun visited now =>
    Rebinding registration start now (fun activation => ∃ obligation ∈ visited,
    Serving obligation.obligationId activation) ∧
      ∀ id, id ∉ visited.map Obligation.obligationId → now.store.obligation? id = start.store.obligation? id)
    _ start final done ⟨⟨.refl, rfl, rfl, [], by simp, by simp⟩, fun _ _ => rfl⟩ ?_ run
  · obtain ⟨⟨moves, actors, works, created, same, all⟩, _⟩ := walked
    refine ⟨moves, actors, works, created, same, fun activation listed => ?_⟩
    obtain ⟨obligation, _, serving⟩ := all activation listed
    exact ⟨obligation.obligationId, serving⟩
  · rintro front obligation back now next split ⟨rebinding, ahead⟩ round
    have chosen : obligation ∈ start.store.obligations.filter fun obligation =>
        decide (obligation.assigneeActor = registration.actorId ∧ obligation.status = .opened) := by
      rw [split]
      simp
    obtain ⟨listed, facts⟩ := List.mem_filter.mp chosen
    obtain ⟨assignee, opened⟩ := of_decide_eq_true facts
    have unvisited := key_unvisited Obligation.obligationId _ _ _ _ _ sound.keys.obligations split
    have row : now.store.obligation? obligation.obligationId = some obligation := by
      rw [ahead _ unvisited]
      exact sound.keys.obligation listed
    have idle : ∀ activation ∈ now.store.activations, Mark.obligation obligation.obligationId ∈ activation.manifest →
        activation.active = false := by
      intro activation member marked
      obtain ⟨created, same, all⟩ := rebinding.created
      rw [same, List.mem_append] at member
      rcases member with old | new
      · obtain ⟨kept, was, belongs, _⟩ := sound.assigned activation old _ marked
        cases (sound.keys.obligation listed).symm.trans was
        exact (rebound.fenced activation old (belongs.trans (assignee.trans named.symm))).1
      · obtain ⟨other, visited, serving⟩ := all activation new
        have sameId := serving.1 _ marked
        exact absurd (List.mem_map.mpr ⟨other, visited, sameId.symm⟩) unvisited
    have found : requireActor now.store obligation.assigneeActor = .ok actor := by
      rw [rebinding.actor, assignee, ← named]
      exact rebound.row
    obtain ⟨moves, others, actors, works, created⟩ := rebind_obligation_moves world registration actor
      obligation now next
      _ (rebinding.moves.sound sound) row opened assignee found idle round
    refine ⟨rebinding.tail moves actors works created ?_ ?_, fun id fresh => ?_⟩
    · rintro activation ⟨other, visited, serving⟩
      exact ⟨other, by simp [visited], serving⟩
    · exact fun activation serving => ⟨obligation, by simp, serving⟩
    · rw [List.map_append, List.mem_append, not_or] at fresh
      rw [others id (by simpa [eq_comm] using fresh.2), ahead id fresh.1]

theorem rebind_replies (actor : Actor) (start middle final : Database)
    (done : Unit) (rebound : Rebound start actor) (named : actor.actorId = registration.actorId)
    (rebinding : Rebinding registration start middle fun activation => ∃ obligationId, Serving obligationId activation)
    (run : Tx.each (rebindReply world) (middle.store.requests.filter fun request =>
      decide (request.returnActor = registration.actorId ∧ request.status = .replyReady)) middle = .ok (done, final)) :
    Rebinding registration start final fun activation =>
      activation.reason ≠ .continueCheckpoint ∧ activation.reason ≠ .ownershipTransferred := by
  have distinct := (rebinding.moves.sound rebound.sound).links.distinct
  have walked := Tx.each_rule (rebindReply world) (fun visited now =>
    Rebinding registration start now (fun activation => (∃ obligationId, Serving obligationId activation) ∨
      ∃ request ∈ visited, Answering request.requestId activation) ∧
      ∀ id, id ∉ visited.map Request.requestId → now.store.request? id = middle.store.request? id)
    _ middle final done ⟨⟨rebinding.moves, rebinding.actors, rebinding.works, ?_⟩, fun _ _ => rfl⟩ ?_ run
  · obtain ⟨⟨moves, actors, works, created, same, all⟩, _⟩ := walked
    refine ⟨moves, actors, works, created, same, fun activation listed => ?_⟩
    rcases all activation listed with ⟨_, serving⟩ | ⟨_, _, answering⟩
    · exact serving.2.2
    · simp [answering.1]
  · obtain ⟨created, same, all⟩ := rebinding.created
    exact ⟨created, same, fun activation listed => .inl (all activation listed)⟩
  · rintro front request back now next split ⟨sofar, ahead⟩ round
    have chosen : request ∈ middle.store.requests.filter fun request =>
        decide (request.returnActor = registration.actorId ∧ request.status = .replyReady) := by
      rw [split]
      simp
    obtain ⟨listed, facts⟩ := List.mem_filter.mp chosen
    obtain ⟨returned, status⟩ := of_decide_eq_true facts
    have unvisited := key_unvisited Request.requestId _ _ _ _ _ distinct split
    have sound := sofar.moves.sound rebound.sound
    have row : now.store.request? request.requestId = some request := by
      rw [ahead _ unvisited]
      exact (rebinding.moves.sound rebound.sound).links.request listed
    have found : requireActor now.store request.returnActor = .ok actor := by
      rw [sofar.actor, returned, ← named]
      exact rebound.row
    have idle : activeCurrentActivation now.store request.replyActivationId request.returnActor .requestReply =
        .ok none := by
      refine no_active_current _ found fun activation member pointed belongs reason => ?_
      obtain ⟨created, same, all⟩ := sofar.created
      rw [same, List.mem_append] at member
      rcases member with old | new
      · exact (rebound.fenced activation old (belongs.trans (returned.trans named.symm))).2.ne
      · rcases all activation new with ⟨_, serving⟩ | ⟨other, visited, answering⟩
        · exact absurd reason serving.2.1
        · have present : activation ∈ now.store.activations := by
            rw [same]
            exact List.mem_append_right _ new
          have marked := (sound.replies request (row_mem _ _ _ _ row).1 _ pointed).2 activation present rfl
          exact absurd (List.mem_map.mpr ⟨other, visited, (answering.2.1 _ marked).symm⟩) unvisited
    obtain ⟨grown, others⟩ := rebind_reply_moves world registration request now next _ row status idle round
    have framed := grown.framed
    refine ⟨sofar.tail grown.moves framed.actors framed.works (rebind_reply_creates world request now _
      next round) ?_ ?_,
      fun id fresh => ?_⟩
    · rintro activation (serving | ⟨other, visited, answering⟩)
      · exact .inl serving
      · exact .inr ⟨other, by simp [visited], answering⟩
    · exact fun activation answering => .inr ⟨request, by simp, answering⟩
    · rw [List.map_append, List.mem_append, not_or] at fresh
      rw [others id (by simpa [eq_comm] using fresh.2), ahead id fresh.1]

theorem rebind_works (actor : Actor) (start middle final : Database)
    (done : Unit) (rebound : Rebound start actor) (named : actor.actorId = registration.actorId)
    (rebinding : Rebinding registration start middle fun activation =>
      activation.reason ≠ .continueCheckpoint ∧ activation.reason ≠ .ownershipTransferred)
    (run : Tx.each (rebindWork world) (middle.store.works.filter fun work =>
      decide (work.ownerActor = registration.actorId ∧ work.mode ≠ .complete)) middle = .ok (done, final)) :
    Moves (.registerActor registration) start final := by
  have keys := (rebinding.moves.sound rebound.sound).keys
  have walked := Tx.each_rule (rebindWork world) (fun visited now =>
    Rebinding registration start now (fun activation =>
      (activation.reason ≠ .continueCheckpoint ∧ activation.reason ≠ .ownershipTransferred) ∨
        ∃ work ∈ visited, activation.workId = work.workId))
    _ middle final done ⟨rebinding.moves, rebinding.actors, rebinding.works, ?_⟩ ?_ run
  · exact walked.moves
  · obtain ⟨created, same, all⟩ := rebinding.created
    exact ⟨created, same, fun activation listed => .inl (all activation listed)⟩
  · intro front work back now next split sofar round
    have chosen : work ∈ middle.store.works.filter fun work =>
        decide (work.ownerActor = registration.actorId ∧ work.mode ≠ .complete) := by
      rw [split]
      simp
    obtain ⟨listed, facts⟩ := List.mem_filter.mp chosen
    obtain ⟨owned, _⟩ := of_decide_eq_true facts
    have unvisited := key_unvisited Work.workId _ _ _ _ _ keys.works split
    have row : now.store.work? work.workId = some work := by
      have found := keys.work listed
      unfold Store.work? at found ⊢
      rw [sofar.works, ← rebinding.works]
      exact found
    have found : requireActor now.store work.ownerActor = .ok actor := by
      rw [sofar.actor, owned, ← named]
      exact rebound.row
    have grown := rebind_work_grows world registration work actor now next _ row found
      (fun old member place belongs same => ?_) round
    · have framed := grown.framed
      refine sofar.tail grown.moves framed.actors framed.works (rebind_work_creates world work now _ next round) ?_ ?_
      · rintro activation (other | ⟨other, visited, place⟩)
        · exact .inl other
        · exact .inr ⟨other, by simp [visited], place⟩
      · exact fun activation place => .inr ⟨work, by simp, place⟩
    · obtain ⟨created, all, kinds⟩ := sofar.created
      rw [all, List.mem_append] at member
      rcases member with was | new
      · exact absurd same (rebound.fenced old was (belongs.trans (owned.trans named.symm))).2.ne
      · rcases kinds old new with other | ⟨other, visited, place'⟩
        · exact other
        · exact absurd (List.mem_map.mpr ⟨other, visited, place'.symm.trans place⟩) unvisited

theorem rebind_fenced (sound : Sound store) (old actor : Actor)
    (row : store.actor? actor.actorId = some old) (raised : actor.generation = old.generation + 1) :
    ∀ activation ∈ (store.rebind actor).activations, activation.actorId = actor.actorId →
      activation.active = false ∧ activation.endpointGeneration < actor.generation := by
  intro activation listed belongs
  obtain ⟨kept, was, rfl⟩ := List.mem_map.mp listed
  have same := revoke_kept (fun activation => decide (activation.actorId = actor.actorId)) kept
  rw [same.actorId] at belongs
  refine ⟨?_, ?_⟩
  · by_contra active
    have spared := (revoke_active _ kept (by simpa using active)).2
    simp [belongs] at spared
  · obtain ⟨known, found, bound, _⟩ := sound.known kept was
    rw [belongs, row] at found
    cases found
    rw [same.endpointGeneration]
    omega

def superseded (actor : Actor) (start : Database) : Database :=
  ⟨putActor actor (supersedeIncidents actor.actorId (revokeActor actor.actorId start.store)), start.log⟩

theorem superseded_moves (start : Database) (existing actor : Actor)
    (row : start.store.actor? actor.actorId = some existing) (active : actor.active = true)
    (raised : actor.generation = existing.generation + 1) (named : actor.actorId = registration.actorId) :
    Moves (.registerActor registration) start (superseded actor start) := by
  have rebind : Move (.registerActor registration) start ⟨start.store.rebind actor, start.log⟩ :=
    .edit (.rebind registration rfl existing actor row active raised named)
  exact .tail (.single rebind) (.restore (.grow (.beside (start.store.rebind actor).recoveryPolicies
    (supersedeIncidents actor.actorId (revokeActor actor.actorId start.store)).recoveryIncidents
    (start.store.rebind actor).responses (start.store.rebind actor).metadata)))

theorem superseded_rebound (start : Database) (existing actor : Actor)
    (sound : Sound start.store) (row : start.store.actor? actor.actorId = some existing) (active : actor.active = true)
    (raised : actor.generation = existing.generation + 1) (named : actor.actorId = registration.actorId) :
    Rebound (superseded actor start) actor := by
  refine ⟨(superseded_moves registration start existing actor row active raised named).sound sound, ?_,
    rebind_fenced sound existing actor row raised⟩
  have found : (superseded actor start).store.actor? actor.actorId = some actor := put_row Actor.actorId actor _
  rw [requireActor, found]
  simp [active]

theorem reissue_moves (actor : Actor) (start final : Database)
    (done : Unit) (rebound : Rebound start actor) (named : actor.actorId = registration.actorId)
    (run : reissue world registration.actorId start = .ok (done, final)) :
    Moves (.registerActor registration) start final := by
  simp only [reissue, Tx.bind_done, Tx.ask_done] at run
  obtain ⟨_, start, ⟨rfl, rfl⟩, _, _, obligations, _, middle, ⟨rfl, rfl⟩, _, _, replies, _, last, ⟨rfl, rfl⟩,
    works⟩ := run
  have first := rebind_obligations world registration actor start middle _ rebound named obligations
  have second := rebind_replies world registration actor start middle last _ rebound named first replies
  exact rebind_works world registration actor start last final _ rebound named second works

theorem register_actor_moves (start final : Database) (done : Unit)
    (sound : Sound start.store) (run : registerActor world registration start = .ok (done, final)) :
    Moves (.registerActor registration) start final := by
  simp only [registerActor, Tx.bind_done, Tx.lift_done, Tx.ask_done] at run
  obtain ⟨⟨endpoint, capabilities⟩, _, ⟨_, rfl⟩, _, start, ⟨rfl, rfl⟩, run⟩ := run
  cases row : start.store.actor? registration.actorId with
  | none =>
      simp only [row, Tx.edit_done] at run
      subst run
      refine .one (.edit (.enlist registration rfl _ rfl fun old found => ?_))
      simp [row] at found
  | some existing =>
      simp only [row] at run
      split at run
      · rename_i same
        simp only [Tx.edit_done] at run
        subst run
        refine .one (.edit (.enlist registration rfl _ rfl fun old found => ?_))
        cases row.symm.trans found
        exact ⟨rfl, same⟩
      · simp only [Tx.bind_done, Tx.edit_done] at run
        obtain ⟨_, _, rfl, _, _, rfl, _, _, rfl, run⟩ := run
        have moves := superseded_moves registration start existing
          ⟨registration.actorId, endpoint, capabilities, existing.generation + 1, true⟩ row rfl rfl rfl
        have rebound := superseded_rebound registration start existing
          ⟨registration.actorId, endpoint, capabilities, existing.generation + 1, true⟩ sound row rfl rfl rfl
        exact moves.trans (reissue_moves world registration _ _ final done rebound rfl run)

end OrchestratorEngine.Continuity
