import OrchestratorEngine.Continuity.Upkeep

set_option autoImplicit false

namespace OrchestratorEngine.Continuity

open Foundation

variable {before : Store}

theorem enlisted (sound : Sound before) (actor : Actor)
    (same : ∀ old, before.actor? actor.actorId = some old →
      old.generation = actor.generation ∧ old.endpoint = actor.endpoint) : Evolved before (putActor actor before) where
  sequence := rfl
  activations := same_activations rfl
  actors := by
    intro id old found
    by_cases own : id = actor.actorId
    · subst own
      exact ⟨actor, put_row _ _ _, (same old found).1.le, .inl (same old found).1.symm⟩
    · exact ⟨old, (put_row_other _ _ _ _ own).trans found, le_rfl, .inl rfl⟩
  works := same_works sound rfl
  obligations := same_obligations sound rfl
  links := same_links sound rfl rfl
  requests := same_requests rfl
  replies := same_replies rfl
  checkpoints := same_checkpoints rfl

theorem rebound (sound : Sound before) (old actor : Actor)
    (row : before.actor? actor.actorId = some old) (raised : actor.generation = old.generation + 1) :
    Evolved before (before.rebind actor) where
  sequence := rfl
  activations := revoked_activations (fun activation => decide (activation.actorId = actor.actorId)) rfl
  actors := by
    intro id other found
    by_cases own : id = actor.actorId
    · subst own
      cases row.symm.trans found
      refine ⟨actor, put_row _ _ _, by omega, .inr fun activation listed belongs => ?_⟩
      obtain ⟨kept, _, rfl⟩ := List.mem_map.mp listed
      rw [(revoke_kept _ kept).actorId] at belongs
      by_contra active
      have spared := (revoke_active _ kept (by simpa using active)).2
      simp [belongs] at spared
    · exact ⟨other, (put_row_other _ _ _ _ own).trans found, le_rfl, .inl rfl⟩
  works := same_works sound rfl
  obligations := same_obligations sound rfl
  links := same_links sound rfl rfl
  requests := same_requests rfl
  replies := same_replies rfl
  checkpoints := same_checkpoints rfl

theorem Linked.amended {before after : Store} (links : Linked before) (obligationId : String)
    (change : Obligation → Obligation)
    (stable : ∀ obligation, (change obligation).obligationId = obligation.obligationId ∧
      (change obligation).assigneeActor = obligation.assigneeActor ∧
      (change obligation).workId = obligation.workId)
    (requests : after.requests = before.requests)
    (same : after.obligations = (amendObligation obligationId change before).obligations)
    (answerable : (∀ obligation, before.obligation? obligationId = some obligation →
        (change obligation).status = obligation.status) ∨ before.linkedRequest? obligationId = none) :
    Linked after := by
  have found : ∀ id, after.obligation? id = (before.obligation? id).map fun obligation =>
      if obligation.obligationId = obligationId then change obligation else obligation := by
    intro id
    rw [← amend_obligation_row before obligationId id change fun obligation => (stable obligation).1]
    unfold Store.obligation?
    rw [same]
  refine links.evolve id (by simpa using requests) (fun _ => ⟨rfl, rfl, rfl, rfl⟩) ?_ ?_
  · intro id old row
    refine ⟨if old.obligationId = obligationId then change old else old, by rw [found id, row]; rfl, ?_⟩
    split
    · exact (stable old).2
    · exact ⟨rfl, rfl⟩
  · intro request listed status id obligation named row
    rw [found id] at row
    obtain ⟨old, kept, rfl⟩ := Option.map_eq_some_iff.mp row
    have opened := links.answerable request listed status id old named kept
    have sameId := obligation_row_id kept
    split
    · rename_i own
      rcases answerable with unchanged | unlinked
      · rw [unchanged old (own ▸ sameId ▸ kept)]
        exact opened
      · have linked := links.linked listed named
        rw [← sameId, own, unlinked] at linked
        cases linked
    · exact opened

theorem Linked.marked {before after : Store} (links : Linked before) (requestId : String)
    (change : Request → Request)
    (stable : ∀ request, (change request).requestId = request.requestId ∧
      (change request).obligationId = request.obligationId ∧
      (change request).recipientActor = request.recipientActor ∧ (change request).workId = request.workId)
    (obligations : after.obligations = before.obligations)
    (same : after.requests = (amendRequest requestId change before).requests)
    (answerable : ∀ request, before.request? requestId = some request →
      (change request).status = .deliveryPending ∨ (change request).status = .claimed →
      ∀ id obligation, request.obligationId = some id → before.obligation? id = some obligation →
        obligation.status = .opened) : Linked after := by
  have found : ∀ id, after.obligation? id = before.obligation? id := by
    intro id
    unfold Store.obligation?
    rw [obligations]
  refine links.evolve _ same (fun request => ?_) (fun id old row => ⟨old, (found id).trans row, rfl, rfl⟩) ?_
  · split
    · exact stable request
    · exact ⟨rfl, rfl, rfl, rfl⟩
  · intro request listed status id obligation named row
    rw [found id] at row
    split at status
    · rename_i own
      exact answerable request (own ▸ links.request listed) status id obligation named row
    · exact links.answerable request listed status id obligation named row

theorem renewed (sound : Sound before) (obligation : Obligation) :
    Evolved before (before.renew obligation) where
  checkpoints := by
    intro row listed
    obtain ⟨old, present, rfl⟩ := List.mem_map.mp listed
    refine .inl ⟨old, present, ?_⟩
    split <;> rfl
  sequence := rfl
  activations := same_activations rfl
  actors := same_actors rfl
  works := same_works sound rfl
  obligations := amended_obligations sound obligation.obligationId Obligation.renewed
    (fun _ => ⟨rfl, rfl, rfl, Nat.le_succ _⟩) rfl
  links := sound.links.amended obligation.obligationId Obligation.renewed (fun _ => ⟨rfl, rfl, rfl⟩) rfl rfl
    (.inl fun _ _ => rfl)
  requests := same_requests rfl
  replies := same_replies rfl

theorem stepped (sound : Sound before) (obligation : Obligation) (row : AssignmentCheckpoint)
    (found : before.obligation? obligation.obligationId = some obligation)
    (named : row.obligationId = obligation.obligationId) : Evolved before (before.step obligation row) where
  checkpoints := by
    intro other listed
    have rows : (before.step obligation row).assignmentCheckpoints =
        put AssignmentCheckpoint.obligationId row before.assignmentCheckpoints := by
      unfold Store.step
      split <;> rfl
    rw [rows, mem_put] at listed
    rcases listed with rfl | ⟨old, _⟩
    · exact .inr ⟨obligation, named ▸ found⟩
    · exact .inl ⟨other, old, rfl⟩
  sequence := by
    unfold Store.step
    split <;> rfl
  activations := by
    refine revoked_activations
      (fun activation => decide (Mark.obligation obligation.obligationId ∈ activation.manifest)) ?_
    unfold Store.step
    split <;> rfl
  actors := by
    refine same_actors ?_
    unfold Store.step
    split <;> rfl
  works := by
    refine same_works sound ?_
    unfold Store.step
    split <;> rfl
  obligations := by
    by_cases paused : row.mode = .paused
    · exact same_obligations sound
        (by simp [Store.step, paused, putCheckpoint, revokeObligationActivations, Store.revokeWhere])
    · refine amended_obligations sound obligation.obligationId Obligation.renewed
        (fun _ => ⟨rfl, rfl, rfl, Nat.le_succ _⟩) ?_
      simp [Store.step, paused, putCheckpoint, revokeObligationActivations, Store.revokeWhere]
  links := by
    by_cases paused : row.mode = .paused
    · exact same_links sound
        (by simp [Store.step, paused, putCheckpoint, revokeObligationActivations, Store.revokeWhere])
        (by simp [Store.step, paused, putCheckpoint, revokeObligationActivations, Store.revokeWhere])
    · refine sound.links.amended obligation.obligationId Obligation.renewed (fun _ => ⟨rfl, rfl, rfl⟩) ?_ ?_
        (.inl fun _ _ => rfl) <;>
        simp [Store.step, paused, putCheckpoint, revokeObligationActivations, Store.revokeWhere, amendObligation]
  requests := by
    refine same_requests ?_
    unfold Store.step
    split <;> rfl
  replies := by
    refine same_replies ?_
    unfold Store.step
    split <;> rfl

theorem settled (sound : Sound before) (obligation : Obligation) (status : ObligationStatus)
    (resultRef : String) (chosen : Activation → Bool) (results : List Result)
    (unlinked : before.linkedRequest? obligation.obligationId = none) :
    Evolved before (before.settle obligation.obligationId status resultRef chosen results) where
  sequence := rfl
  activations := revoked_activations chosen rfl
  actors := same_actors rfl
  works := same_works sound rfl
  obligations := amended_obligations sound obligation.obligationId (fun row => row.settled status resultRef)
    (fun _ => ⟨rfl, rfl, rfl, le_rfl⟩) rfl
  links := sound.links.amended obligation.obligationId (fun row => row.settled status resultRef)
    (fun _ => ⟨rfl, rfl, rfl⟩) rfl rfl (.inr unlinked)
  requests := same_requests rfl
  replies := same_replies rfl
  checkpoints := same_checkpoints rfl

theorem advanced (sound : Sound before) (workId : String) (mode : WorkMode)
    (chosen : Activation → Bool) (handledResults : List HandledResult) (waits : List Wait)
    (pendingReplays : Dict String (Dict Outcome Nat)) :
    Evolved before (before.advance workId mode chosen handledResults waits pendingReplays) where
  sequence := rfl
  activations := revoked_activations chosen rfl
  actors := same_actors rfl
  works := amended_works sound workId (fun work => work.advanced mode) (fun _ => ⟨rfl, Nat.le_succ _⟩) rfl
  obligations := same_obligations sound rfl
  links := same_links sound rfl rfl
  requests := same_requests rfl
  replies := same_replies rfl
  checkpoints := same_checkpoints rfl

theorem handed (sound : Sound before) (workId fromActor toActor : String) :
    Evolved before (before.hand workId fromActor toActor) where
  sequence := rfl
  activations := revoked_activations _ rfl
  actors := same_actors rfl
  works := amended_works sound workId (fun work => work.transferred toActor) (fun _ => ⟨rfl, Nat.le_succ _⟩) rfl
  obligations := same_obligations sound rfl
  links := same_links sound rfl rfl
  requests := same_requests rfl
  replies := same_replies rfl
  checkpoints := same_checkpoints rfl

theorem begun (sound : Sound before) (work : Work) (fresh : before.work? work.workId = none) :
    Evolved before { before with works := before.works ++ [work] } where
  sequence := rfl
  activations := same_activations rfl
  actors := same_actors rfl
  works := by
    constructor
    · rw [List.map_append]
      refine List.Nodup.append sound.keys.works (by simp) ?_
      simpa using row_none Work.workId work.workId before.works fresh
    · intro id old found
      refine ⟨old, ?_, le_rfl⟩
      unfold Store.work? at found ⊢
      rw [row_append, found]
      rfl
  obligations := same_obligations sound rfl
  links := same_links sound rfl rfl
  requests := same_requests rfl
  replies := same_replies rfl
  checkpoints := same_checkpoints rfl

theorem inserted_row {obligation : Obligation} (id : String) :
    (insertObligation obligation before).obligation? id =
      (before.obligation? id).or (if obligation.obligationId = id then some obligation else none) :=
  row_append Obligation.obligationId id before.obligations obligation

theorem inserted_obligations {before after : Store} (sound : Sound before) (obligation : Obligation)
    (fresh : before.obligation? obligation.obligationId = none)
    (same : after.obligations = before.obligations ++ [obligation]) :
    (after.obligations.map Obligation.obligationId).Nodup ∧ ∀ id old, before.obligation? id = some old →
      after.obligation? id = some old := by
  constructor
  · rw [same, List.map_append]
    refine List.Nodup.append sound.keys.obligations (by simp) ?_
    simpa using row_none Obligation.obligationId obligation.obligationId before.obligations fresh
  · intro id old found
    unfold Store.obligation? at found ⊢
    rw [same, row_append, found]
    rfl

theorem opened (sound : Sound before) (obligation : Obligation)
    (fresh : before.obligation? obligation.obligationId = none) :
    Evolved before (insertObligation obligation before) := by
  have inserted : (insertObligation obligation before).obligations = before.obligations ++ [obligation] := rfl
  obtain ⟨keys, kept⟩ := inserted_obligations sound obligation fresh inserted
  refine ⟨rfl, same_activations rfl, same_actors rfl, same_works sound rfl,
    ⟨keys, fun id old found => ⟨old, kept id old found, rfl, rfl, le_rfl⟩⟩, ?_, same_requests rfl, same_replies rfl,
    same_checkpoints rfl⟩
  refine sound.links.evolve id (by simp [insertObligation]) (fun _ => ⟨rfl, rfl, rfl, rfl⟩)
    (fun id old found => ⟨old, kept id old found, rfl, rfl⟩) fun request listed status id row named found => ?_
  obtain ⟨old, was, _⟩ := sound.links.pinned request listed id named
  rw [Option.some.inj (found.symm.trans (kept id old was))]
  exact sound.links.answerable request listed status id old named was

theorem sent (sound : Sound before) (request : Request) (obligation : Option Obligation)
    (fresh : ∀ old ∈ before.requests, old.requestId ≠ request.requestId)
    (unrouted : request.replyActivationId = none)
    (linked : obligation.map Obligation.obligationId = request.obligationId)
    (facts : ∀ row ∈ obligation, before.obligation? row.obligationId = none ∧ row.status = .opened ∧
      row.workId = request.workId ∧ row.assigneeActor = request.recipientActor) :
    Evolved before (insertRequest request obligation before) := by
  have rows : ((insertRequest request obligation before).obligations.map Obligation.obligationId).Nodup ∧
      ∀ id old, before.obligation? id = some old →
        (insertRequest request obligation before).obligation? id = some old := by
    cases obligation with
    | none =>
        have same : (insertRequest request none before).obligations = before.obligations := by simp [insertRequest]
        refine ⟨same ▸ sound.keys.obligations, fun id old found => ?_⟩
        unfold Store.obligation?
        rw [same]
        exact found
    | some row => exact inserted_obligations sound row (facts row rfl).1 rfl
  have answers : ∀ id, request.obligationId = some id → ∃ row ∈ obligation,
      (insertRequest request obligation before).obligation? id = some row := by
    intro id named
    rw [← linked, Option.map_eq_some_iff] at named
    obtain ⟨row, rfl, rfl⟩ := named
    refine ⟨row, rfl, ?_⟩
    unfold Store.obligation?
    change row? _ _ (before.obligations ++ [row]) = _
    rw [row_append, show row? Obligation.obligationId row.obligationId before.obligations = none from (facts row rfl).1]
    simp
  refine ⟨rfl, same_activations rfl, same_actors rfl, same_works sound rfl,
    ⟨rows.1, fun id old found => ⟨old, rows.2 id old found, rfl, rfl, le_rfl⟩⟩, ⟨?_, ?_, ?_, ?_⟩, ?_, ?_,
    same_checkpoints rfl⟩
  · change ((before.requests ++ [request]).map Request.requestId).Nodup
    rw [List.map_append]
    refine List.Nodup.append sound.links.distinct (by simp) ?_
    simpa [eq_comm] using fresh
  · have unlike : ∀ old ∈ before.requests, ∀ id, old.obligationId = some id → request.obligationId ≠ some id := by
      intro old present id taken named
      obtain ⟨row, found, _⟩ := sound.links.pinned old present id taken
      rw [← linked, Option.map_eq_some_iff] at named
      obtain ⟨inserted, member, rfl⟩ := named
      cases found.symm.trans (facts inserted member).1
    intro first listed second also id one other
    rcases List.mem_append.mp listed with old | new
    · rcases List.mem_append.mp also with older | newer
      · exact sound.links.apart first old second older id one other
      · cases List.mem_singleton.mp newer
        exact absurd other (unlike first old id one)
    · cases List.mem_singleton.mp new
      rcases List.mem_append.mp also with older | newer
      · exact absurd one (unlike second older id other)
      · rw [List.mem_singleton.mp newer]
  · intro other listed id named
    rcases List.mem_append.mp listed with old | new
    · obtain ⟨row, found, recipient, work⟩ := sound.links.pinned other old id named
      exact ⟨row, rows.2 id row found, recipient, work⟩
    · cases List.mem_singleton.mp new
      obtain ⟨row, present, found⟩ := answers id named
      exact ⟨row, found, (facts row present).2.2.2, (facts row present).2.2.1⟩
  · intro other listed status id row named found
    rcases List.mem_append.mp listed with old | new
    · obtain ⟨kept, was, _⟩ := sound.links.pinned other old id named
      rw [Option.some.inj (found.symm.trans (rows.2 id kept was))]
      exact sound.links.answerable other old status id kept named was
    · cases List.mem_singleton.mp new
      obtain ⟨kept, present, was⟩ := answers id named
      rw [Option.some.inj (found.symm.trans was)]
      exact (facts kept present).2.1
  · intro id old found
    refine ⟨old, ?_, rfl⟩
    unfold Store.request? at found ⊢
    change row? _ _ (before.requests ++ [request]) = _
    rw [row_append, found]
    rfl
  · intro other listed id pointed
    rcases List.mem_append.mp listed with old | new
    · exact ⟨other, old, rfl, pointed⟩
    · cases List.mem_singleton.mp new
      rw [unrouted] at pointed
      cases pointed

theorem published_activations (activationId : Nat) (before : Store) :
    ∃ change : Activation → Activation, (markPublished activationId before).activations =
    before.activations.map change ∧
      ∀ activation ∈ before.activations, Kept activation (change activation) := by
  refine ⟨_, rfl, fun activation _ => ?_⟩
  split
  · rename_i pending
    exact ⟨rfl, rfl, rfl, rfl, rfl, rfl, rfl, rfl, rfl, fun _ => by
      simp [pending.2], fun claimed => by simp [claimed] at pending⟩
  · exact Kept.refl activation

theorem claimed_activations (activationId : Nat) (now : Int) (before : Store) :
    ∃ change : Activation → Activation,
      (claimActivation activationId now before).activations = before.activations.map change ∧
        ∀ activation ∈ before.activations, Kept activation (change activation) := by
  refine ⟨_, rfl, fun activation _ => ?_⟩
  split
  · exact ⟨rfl, rfl, rfl, rfl, rfl, rfl, rfl, rfl, rfl, fun active => by simp at active, fun _ => rfl⟩
  · exact Kept.refl activation

theorem claim_recorded (sound : Sound before) (world : World) (activation : Activation)
    (actorId : String) (expectedEpoch : Nat) (row : before.activation? activation.activationId = some activation)
    (obligation : Option Obligation) (request : Option Request)
    (granted : grant before activation actorId expectedEpoch = .ok (.fresh obligation request)) :
    Evolved before (recordClaim world activation obligation request
      (claimActivation activation.activationId world.now before)) := by
  have listed := (row_mem _ _ _ _ row).1
  obtain ⟨claimant, facts⟩ := grant_fresh granted
  have claims := claimed_activations activation.activationId world.now before
  have plain : Evolved before (claimActivation activation.activationId world.now before) :=
    ⟨rfl, claims, same_actors rfl, same_works sound rfl, same_obligations sound rfl, same_links sound rfl rfl,
      same_requests rfl, same_replies rfl, same_checkpoints rfl⟩
  unfold recordClaim
  split
  · exact plain
  · cases obligation with
    | none =>
        cases request with
        | none => exact plain
        | some linked =>
            simp only
            split
            · refine ⟨rfl, claims, same_actors rfl, same_works sound rfl, same_obligations sound rfl, ?_,
                amended_requests linked.requestId markClosed (fun _ => ⟨rfl, rfl⟩) rfl,
                amended_replies linked.requestId markClosed (fun _ => ⟨rfl, fun _ same => same⟩) rfl,
                same_checkpoints rfl⟩
              exact sound.links.marked linked.requestId markClosed (fun _ => ⟨rfl, rfl, rfl, rfl⟩) rfl rfl
                fun _ _ status => by simp [markClosed] at status
            · exact plain
    | some held =>
        have changed (generation : Nat) := amended_obligations sound held.obligationId
          (fun kept => kept.claimedBy activation.activationId generation world.now) (fun _ => ⟨rfl, rfl, rfl, le_rfl⟩)
          (show (amendObligation held.obligationId
            (fun kept => kept.claimedBy activation.activationId generation world.now) before).obligations = _ from rfl)
        have links : Linked (amendObligation held.obligationId
            (fun kept => kept.claimedBy activation.activationId held.generation world.now)
            (claimActivation activation.activationId world.now before)) :=
          sound.links.amended held.obligationId
            (fun kept => kept.claimedBy activation.activationId held.generation world.now)
            (fun _ => ⟨rfl, rfl, rfl⟩) rfl rfl (.inl fun _ _ => rfl)
        cases request with
        | none =>
            exact ⟨rfl, claims, same_actors rfl, same_works sound rfl, changed held.generation, links,
              same_requests rfl,
              same_replies rfl, same_checkpoints rfl⟩
        | some linked =>
            refine ⟨rfl, claims, same_actors rfl, same_works sound rfl, changed held.generation, ?_,
              amended_requests linked.requestId markClaimed (fun _ => ⟨rfl, rfl⟩) rfl,
              amended_replies linked.requestId markClaimed (fun _ => ⟨rfl, fun _ same => same⟩) rfl,
              same_checkpoints rfl⟩
            refine links.marked linked.requestId markClaimed (fun _ => ⟨rfl, rfl, rfl, rfl⟩) rfl rfl ?_
            intro other found _ id obligation named kept
            have assignment : claimant.assignment activation = true := by
              by_contra plain
              exact absurd (facts.plain (by simpa using plain)) (by simp)
            obtain ⟨current, resolved, same, opened, _⟩ := facts.assignment assignment
            cases same
            obtain ⟨_, was, linkedId⟩ := claimed_pair sound listed facts.named resolved facts.request
            obtain ⟨_, _, pinned⟩ := claimed_request_row facts.request
            have sameRow := request_row_id pinned
            subst sameRow
            have twin : other = linked := Option.some.inj (found.symm.trans pinned)
            rw [twin, linkedId] at named
            cases named
            rw [amend_obligation_row _ _ _ _ (by intro; rfl)] at kept
            obtain ⟨origin, from', rfl⟩ := Option.map_eq_some_iff.mp kept
            have whole : origin = held := Option.some.inj (from'.symm.trans was)
            subst whole
            simp [Obligation.claimedBy, opened]

theorem Edit.evolved {call : Call} {before after : Store} (edit : Edit call before after) (sound : Sound before) :
    Evolved before after := by
  cases edit with
  | enlist _ _ actor _ same => exact enlisted sound actor same
  | rebind _ _ old actor row _ raised _ => exact rebound sound old actor row raised
  | renew _ _ obligation _ _ _ _ => exact renewed sound obligation
  | begin work fresh _ => exact begun sound work fresh
  | opening obligation fresh _ _ _ _ _ _ _ => exact opened sound obligation fresh
  | sending request obligation fresh _ _ _ unrouted _ linked facts _ _ _ _ =>
      refine sent sound request obligation fresh unrouted linked fun row member => ?_
      obtain ⟨missing, status, _, _, _, work, recipient⟩ := facts row member
      exact ⟨missing, status, work, recipient⟩
  | settle _ _ obligation results _ resultRef _ _ unlinked _ _ _ =>
      exact settled sound obligation _ resultRef _ results unlinked
  | progress _ _ request row obligation linked found opened _ _ =>
      refine ⟨rfl, same_activations rfl, same_actors rfl, same_works sound rfl, same_obligations sound rfl, ?_,
        amended_requests request.requestId markClaimed (fun _ => ⟨rfl, rfl⟩) rfl,
        amended_replies request.requestId markClaimed (fun _ => ⟨rfl, fun _ same => same⟩) rfl, same_checkpoints rfl⟩
      refine sound.links.marked request.requestId markClaimed (fun _ => ⟨rfl, rfl, rfl, rfl⟩) rfl rfl ?_
      intro other kept _ id held named was
      rw [Option.some.inj (kept.symm.trans row), linked] at named
      cases named
      rw [Option.some.inj (was.symm.trans found)]
      exact opened
  | handle request row _ =>
      refine ⟨rfl, revoked_activations _ rfl, same_actors rfl, same_works sound rfl, same_obligations sound rfl, ?_,
        amended_requests request.requestId markHandled (fun _ => ⟨rfl, rfl⟩) rfl,
        amended_replies request.requestId markHandled (fun _ => ⟨rfl, fun _ same => same⟩) rfl, same_checkpoints rfl⟩
      exact sound.links.marked request.requestId markHandled (fun _ => ⟨rfl, rfl, rfl, rfl⟩) rfl rfl
        fun _ _ status => by simp [markHandled] at status
  | noted _ =>
      exact ⟨rfl, same_activations rfl, same_actors rfl, same_works sound rfl, same_obligations sound rfl,
        same_links sound rfl rfl, same_requests rfl, same_replies rfl, same_checkpoints rfl⟩
  | step _ _ obligation row found _ _ _ _ named _ => exact stepped sound obligation row found named
  | stop control _ _ _ _ _ _ =>
      exact ⟨rfl, revoked_activations _ rfl, same_actors rfl, same_works sound rfl, same_obligations sound rfl,
        same_links sound rfl rfl, same_requests rfl, same_replies rfl, same_checkpoints rfl⟩
  | arm control _ _ _ =>
      exact ⟨rfl, same_activations rfl, same_actors rfl, same_works sound rfl, same_obligations sound rfl,
        same_links sound rfl rfl, same_requests rfl, same_replies rfl, same_checkpoints rfl⟩
  | advance taken _ work _ _ _ _ _ chosen _ handledResults waits _ _ pendingReplays _ =>
      exact advanced sound work.workId taken.mode chosen handledResults waits pendingReplays
  | hand handover _ work _ _ _ _ => exact handed sound work.workId handover.fromActor handover.toActor
  | claim world activation actorId epoch _ row obligation request granted =>
      exact claim_recorded sound world activation actorId epoch row obligation request granted
  | published activationId =>
      exact ⟨rfl, published_activations activationId before, same_actors rfl, same_works sound rfl,
        same_obligations sound rfl, same_links sound rfl rfl, same_requests rfl, same_replies rfl, same_checkpoints rfl⟩
  | failed activationId error =>
      exact ⟨rfl, same_activations rfl, same_actors rfl, same_works sound rfl, same_obligations sound rfl,
        same_links sound rfl rfl, same_requests rfl, same_replies rfl, same_checkpoints rfl⟩

theorem responded (sound : Sound before) (request : Request)
    (row : before.request? request.requestId = some request) (obligation : Obligation)
    (linked : request.obligationId = some obligation.obligationId) (status : ObligationStatus) (resultRef : String)
    (results : List Result) (responseId : String) :
    Evolved before (amendRequest request.requestId (replyReady responseId none)
      (before.answered request obligation status resultRef results)) := by
  have listed := (row_mem _ _ _ _ row).1
  have rows := amended_obligations sound obligation.obligationId (fun row => row.settled status resultRef)
    (fun _ => ⟨rfl, rfl, rfl, le_rfl⟩)
    (show (before.answered request obligation status resultRef results).obligations = _ from rfl)
  refine ⟨rfl, revoked_activations _ rfl, same_actors rfl, same_works sound rfl, rows, ?_,
    amended_requests request.requestId (replyReady responseId none) (fun _ => ⟨rfl, rfl⟩) rfl,
    amended_replies request.requestId (replyReady responseId none) (fun _ => ⟨rfl, fun _ same => (by cases same)⟩) rfl,
    same_checkpoints rfl⟩
  refine sound.links.evolve _ rfl (fun other => ?_) (fun id old found => ?_) fun other also pending id current
    named found => ?_
  · split <;> exact ⟨rfl, rfl, rfl, rfl⟩
  · obtain ⟨new, kept, assignee, work, _⟩ := rows.2 id old found
    exact ⟨new, kept, assignee, work⟩
  · have different : other.requestId ≠ request.requestId := by
      intro same
      simp [same, replyReady] at pending
    rw [if_neg different] at pending
    have known : ∀ id, (before.answered request obligation status resultRef results).obligation? id =
        (before.obligation? id).map fun row =>
          if row.obligationId = obligation.obligationId then row.settled status resultRef else row :=
      fun id => amend_obligation_row before obligation.obligationId id _ fun _ => rfl
    obtain ⟨old, was, rfl⟩ := Option.map_eq_some_iff.mp ((known id).symm.trans found)
    have sameId := obligation_row_id was
    split
    · rename_i own
      rw [← sameId, own] at named
      exact absurd (congrArg Request.requestId (sound.links.only also listed named linked)) different
    · exact sound.links.answerable other also pending id old named was

theorem Made.move {first second : Store} {work : Work} {activation : Activation} (made : Made first work activation)
    (works : second.works = first.works) (actors : second.actors = first.actors)
    (sequence : second.metadata.activationSequence = first.metadata.activationSequence) :
    Made second work activation := by
  obtain ⟨actor, found, endpoint⟩ := made.actor
  refine ⟨?_, ⟨actor, ?_, endpoint⟩, sequence ▸ made.numbered, made.revision, made.epoch, made.status⟩
  · unfold Store.work?
    rw [works]
    exact made.row
  · unfold requireActor Store.actor? at found ⊢
    rw [actors]
    exact found

theorem replied (sound : Sound before) (request : Request)
    (row : before.request? request.requestId = some request) (obligation : Obligation)
    (linked : request.obligationId = some obligation.obligationId) (status : ObligationStatus) (resultRef : String)
    (results : List Result) (outcome : Outcome) (responseId : String) (work : Work) (activation : Activation)
    (made : Made (before.answered request obligation status resultRef results) work activation)
    (manifest : activation.manifest = [.request request.requestId, .response responseId, .outcome outcome]) :
    Sound (amendRequest request.requestId (replyReady responseId (some activation.activationId))
      ((before.answered request obligation status resultRef results).insertActivation activation)) := by
  have evolved := responded sound request row obligation linked status resultRef results responseId
  have settledSound := evolved.sound sound
  have fixed : ∀ (reply : Option Nat) (other : Request), (if other.requestId = request.requestId then
      replyReady responseId reply other else other).requestId = other.requestId := by
    intro reply other
    split <;> rfl
  have twins : ∀ id, (row? Request.requestId id ((amendRequest request.requestId
      (replyReady responseId (some activation.activationId))
      (before.answered request obligation status resultRef results)).requests)) =
      (before.request? id).map fun other => if other.requestId = request.requestId then
        replyReady responseId (some activation.activationId) other else other := by
    intro id
    exact row_map Request.requestId _ (fixed _) id before.requests
  have moved : Made (amendRequest request.requestId (replyReady responseId none)
      (before.answered request obligation status resultRef results)) work activation := made.move rfl rfl rfl
  refine moved.sound settledSound ?_ (fun id marked => ?_) (fun id old found => ?_)
    (fun _ id _ marked => ?_) (fun other listed id pointed => ?_)
  · have links := settledSound.links
    refine links.evolve (fun other => if other.requestId = request.requestId then
      { other with replyActivationId := some activation.activationId } else other) ?_ (fun other => ?_)
      (fun id old found => ⟨old, found, rfl, rfl⟩) fun other listed pending id current named found => ?_
    · simp only [amendRequest, insert_requests, List.map_map]
      refine List.map_congr_left fun other _ => ?_
      by_cases own : other.requestId = request.requestId <;> simp [own, replyReady]
    · split <;> exact ⟨rfl, rfl, rfl, rfl⟩
    · refine links.answerable other listed ?_ id current named found
      split at pending <;> exact pending
  · simp [manifest] at marked
  · obtain ⟨origin, was, rfl⟩ := Option.map_eq_some_iff.mp
      ((amend_request_row (before.answered request obligation status resultRef results) request.requestId id
        (replyReady responseId none) fun _ => rfl).symm.trans found)
    have kept : before.request? id = some origin := was
    refine ⟨_, (twins id).trans (congrArg _ kept), ?_⟩
    by_cases own : origin.requestId = request.requestId <;> simp [own, replyReady]
  · simp [manifest] at marked
  · obtain ⟨origin, was, rfl⟩ := List.mem_map.mp listed
    by_cases own : origin.requestId = request.requestId
    · right
      simp only [own, if_true, replyReady, Option.some.injEq] at pointed ⊢
      exact ⟨pointed.symm, by simp [manifest]⟩
    · left
      rw [if_neg own] at pointed ⊢
      refine ⟨origin, List.mem_map.mpr ⟨origin, was, if_neg own⟩, rfl, pointed⟩

theorem Restore.sound {site : Site} {start next : Database} (restored : Restore site start next)
    (sound : Sound start.store) : Sound next.store := by
  cases restored with
  | grow growth => exact growth.sound sound
  | record source status results outcome recorded external =>
      have evolved : Evolved start.store { start.store with results } :=
        ⟨rfl, same_activations rfl, same_actors rfl, same_works sound rfl, same_obligations sound rfl,
          same_links sound rfl rfl, same_requests rfl, same_replies rfl, same_checkpoints rfl⟩
      exact evolved.sound sound

theorem Restores.sound {site : Site} {start final : Database} (restored : Restores site start final)
    (sound : Sound start.store) : Sound final.store := by
  induction restored with
  | refl => exact sound
  | tail _ last ih => exact last.sound ih

theorem Move.sound {call : Call} {start next : Database} (move : Move call start next) (sound : Sound start.store) :
    Sound next.store := by
  cases move with
  | restore restored => exact restored.sound sound
  | edit edited => exact (edited.evolved sound).sound sound
  | respond _ _ request row obligation linked _ status results _ resultRef _ _ responseId _ =>
      exact (responded sound request row obligation linked status resultRef results responseId).sound sound
  | reply _ _ request row obligation linked _ status results outcome resultRef _ _ responseId work
    activation made _ _ _ _
      _ manifest =>
      exact replied sound request row obligation linked status resultRef results outcome responseId work activation made
        manifest
  | report _ diagnostics =>
      have evolved : Evolved start.store { start.store with diagnostics } :=
        ⟨rfl, same_activations rfl, same_actors rfl, same_works sound rfl, same_obligations sound rfl,
          same_links sound rfl rfl, same_requests rfl, same_replies rfl, same_checkpoints rfl⟩
      exact evolved.sound sound

theorem Moves.sound {call : Call} {start final : Database} (moves : Moves call start final)
    (sound : Sound start.store) : Sound final.store := by
  induction moves with
  | refl => exact sound
  | tail _ last ih => exact last.sound ih

theorem initialized_sound : Sound initialized := by
  refine ⟨⟨?_, ?_, ?_, ?_⟩, ⟨?_, ?_⟩, ?_, ?_, ?_, ?_, ?_, ?_, ?_, ?_⟩ <;> simp [initialized]

end OrchestratorEngine.Continuity
