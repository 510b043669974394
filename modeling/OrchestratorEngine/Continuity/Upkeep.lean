import OrchestratorEngine.Continuity.Soundness

set_option autoImplicit false

namespace OrchestratorEngine.Continuity

open Foundation

structure Granted (store : Store) (activation : Activation) (actorId : String) (expectedEpoch : Nat)
    (claimant : Claimant) (obligation : Option Obligation) (request : Option Request) : Prop where
  actor : activation.actorId = actorId
  endpoint : ∃ actor, requireActor store actorId = .ok actor ∧ activation.endpointGeneration = actor.generation
  epoch : activation.controlEpoch = expectedEpoch
  work : ∃ work, store.work? activation.workId = some work
  quiet : effectiveExplicitStop store activation.workId actorId = none
  active : activation.active = true
  named : Continuity.claimant store activation = .ok claimant
  request : claimedRequest store activation claimant = .ok request
  assignment : claimant.assignment activation = true → ∃ row, claimant.obligation = some row ∧ obligation = some row ∧
    row.status = .opened ∧ row.generation = activation.assignmentGeneration.getD 0 ∧
    ∀ existing ∈ row.claimedActivationId, existing = activation.activationId ∨ activation.reason.recovery = true
  plain : claimant.assignment activation = false → obligation = none

variable {activation : Activation}

theorem grant_status_fresh {kept obligation : Option Obligation}
    {held request : Option Request} (granted : grantStatus activation kept held = .ok (.fresh obligation request)) :
    activation.active = true ∧ obligation = kept ∧ request = held := by
  rw [grantStatus] at granted
  split at granted
  · cases granted
  · split at granted
    · cases granted
    · rename_i active
      cases granted
      exact ⟨by simpa using active, rfl, rfl⟩

theorem grant_fresh {store : Store} {actorId : String} {expectedEpoch : Nat}
    {obligation : Option Obligation} {request : Option Request}
    (granted : grant store activation actorId expectedEpoch = .ok (.fresh obligation request)) :
    ∃ claimant, Granted store activation actorId expectedEpoch claimant obligation request := by
  simp only [grant, bind_ok_iff, refuse_ok_iff] at granted
  obtain ⟨work, owner, _, belongs, actor, found, _, endpoint, _, epoch, _, quiet, claimant, named, _, _, held,
    expected, _, _, granted⟩ := granted
  have row := require_work_ok _ _ _ owner
  have workId := work_row_id row
  simp only [ne_eq, not_not] at belongs endpoint epoch quiet
  rw [workId] at quiet
  refine ⟨claimant, ?_⟩
  by_cases assignment : claimant.assignment activation = true
  · rw [if_pos assignment] at granted
    cases resolved : claimant.obligation with
    | none => simp [resolved, grantAssignment] at granted
    | some obligationRow =>
        simp only [resolved, grantAssignment, bind_ok_iff, refuse_ok_iff, ne_eq, not_not] at granted
        obtain ⟨_, opened, _, generation, granted⟩ := granted
        have settled : activation.active = true ∧ obligation = some obligationRow ∧ request = held ∧
            ∀ existing ∈ obligationRow.claimedActivationId,
              existing = activation.activationId ∨ activation.reason.recovery = true := by
          cases claimed : obligationRow.claimedActivationId with
          | none =>
              simp only [claimed] at granted
              obtain ⟨active, same, also⟩ := grant_status_fresh granted
              exact ⟨active, same, also, by simp⟩
          | some existing =>
              simp only [claimed] at granted
              split at granted
              · cases granted
              · rename_i fenced
                obtain ⟨active, same, also⟩ := grant_status_fresh granted
                refine ⟨active, same, also, fun other listed => ?_⟩
                cases listed
                by_cases own : existing = activation.activationId
                · exact .inl own
                · exact .inr (by simpa [own] using fenced)
        obtain ⟨active, same, also, fence⟩ := settled
        exact ⟨belongs, ⟨actor, found, endpoint⟩, epoch, ⟨work, row⟩, quiet, active, named, also ▸ expected,
          fun _ => ⟨obligationRow, resolved, same, opened, generation, fence⟩, fun plain => by
            simp [assignment] at plain⟩
  · rw [if_neg assignment] at granted
    simp only [bind_ok_iff, refuse_ok_iff] at granted
    obtain ⟨_, _, granted⟩ := granted
    obtain ⟨active, same, also⟩ := grant_status_fresh granted
    exact ⟨belongs, ⟨actor, found, endpoint⟩, epoch, ⟨work, row⟩, quiet, active, named, also ▸ expected,
      fun yes => absurd yes assignment, fun _ => same⟩

theorem manifest_value_some {α : Type} {manifest : List Mark} {select : Mark → Option α} {field : String} {value : α}
    (found : manifestValue manifest select field = .ok (some value)) :
    ∃ mark ∈ manifest, select mark = some value := by
  rw [manifestValue] at found
  split at found
  · cases found
  · rename_i only split
    cases found
    have listed : value ∈ manifest.filterMap select := by simp [split]
    exact List.mem_filterMap.mp listed
  · cases found

theorem mark_request_some {mark : Mark} {id : String} (named : mark.request? = some id) : mark = .request id := by
  cases mark <;> cases named
  rfl

theorem mark_obligation_some {mark : Mark} {id : String} (named : mark.obligation? = some id) :
    mark = .obligation id := by
  cases mark <;> cases named
  rfl

theorem claimed_request_row {store : Store} {claimant : Claimant} {request : Request}
    (found : claimedRequest store activation claimant = .ok (some request)) :
    ∃ requestId, claimant.requestId = some requestId ∧ store.request? requestId = some request := by
  rw [claimedRequest] at found
  split at found
  · cases found
  · rename_i requestId named
    split at found
    · cases found
    · rename_i row kept
      simp only [bind_ok_iff, refuse_ok_iff] at found
      obtain ⟨_, _, _, _, _, _, finish⟩ := found
      cases finish
      exact ⟨requestId, named, kept⟩

theorem claimed_pair {store : Store} {claimant : Claimant} {obligation : Obligation}
    {request : Request} (sound : Sound store) (listed : activation ∈ store.activations)
    (named : Continuity.claimant store activation = .ok claimant) (row : claimant.obligation = some obligation)
    (found : claimedRequest store activation claimant = .ok (some request)) :
    Mark.obligation obligation.obligationId ∈ activation.manifest ∧
      store.obligation? obligation.obligationId = some obligation ∧
      request.obligationId = some obligation.obligationId := by
  obtain ⟨requestId, selected, kept⟩ := claimed_request_row found
  simp only [Continuity.claimant, bind_ok_iff] at named
  obtain ⟨shown, requested, source, _, obligationId, marked, finish⟩ := named
  cases finish
  obtain ⟨id, rfl, was⟩ := Option.bind_eq_some_iff.mp row
  have sameId := obligation_row_id was
  subst sameId
  obtain ⟨mark, present, isObligation⟩ := manifest_value_some marked
  rw [mark_obligation_some isObligation] at present
  refine ⟨present, was, ?_⟩
  cases shown with
  | some requested' =>
      cases selected
      obtain ⟨other, also, isRequest⟩ := manifest_value_some requested
      rw [mark_request_some isRequest] at also
      obtain ⟨paired, held, linked⟩ := sound.paired activation listed _ _ also present
      rw [Option.some.inj (kept.symm.trans held)]
      exact linked
  | none =>
      obtain ⟨linked, held, rfl⟩ := Option.map_eq_some_iff.mp selected
      obtain ⟨member, linkedId⟩ := linked_request held
      rw [Option.some.inj (kept.symm.trans (sound.links.request member))]
      exact linkedId

theorem Linked.evolve {before after : Store} (links : Linked before) (change : Request → Request)
    (requests : after.requests = before.requests.map change)
    (fixed : ∀ request, (change request).requestId = request.requestId ∧
      (change request).obligationId = request.obligationId ∧
      (change request).recipientActor = request.recipientActor ∧ (change request).workId = request.workId)
    (obligations : ∀ id old, before.obligation? id = some old → ∃ new, after.obligation? id = some new ∧
      new.assigneeActor = old.assigneeActor ∧ new.workId = old.workId)
    (answerable : ∀ request ∈ before.requests,
      (change request).status = .deliveryPending ∨ (change request).status = .claimed →
      ∀ id obligation, request.obligationId = some id → after.obligation? id = some obligation →
        obligation.status = .opened) : Linked after := by
  have listed : ∀ request ∈ after.requests, ∃ old ∈ before.requests, request = change old := by
    intro request member
    rw [requests, List.mem_map] at member
    obtain ⟨old, present, same⟩ := member
    exact ⟨old, present, same.symm⟩
  refine ⟨?_, ?_, ?_, ?_⟩
  · have ids : after.requests.map Request.requestId = before.requests.map Request.requestId := by
      rw [requests, List.map_map]
      exact List.map_congr_left fun request _ => (fixed request).1
    rw [ids]
    exact links.distinct
  · intro first member second also id one other
    obtain ⟨old, present, rfl⟩ := listed first member
    obtain ⟨older, stood, rfl⟩ := listed second also
    rw [(fixed old).1, (fixed older).1]
    exact links.apart old present older stood id ((fixed old).2.1 ▸ one) ((fixed older).2.1 ▸ other)
  · intro request member id named
    obtain ⟨old, present, rfl⟩ := listed request member
    obtain ⟨obligation, found, recipient, work⟩ := links.pinned old present id ((fixed old).2.1 ▸ named)
    obtain ⟨new, newFound, assignee, place⟩ := obligations id obligation found
    rw [(fixed old).2.2.1, (fixed old).2.2.2]
    exact ⟨new, newFound, assignee.trans recipient, place.trans work⟩
  · intro request member status id obligation named found
    obtain ⟨old, present, rfl⟩ := listed request member
    exact answerable old present status id obligation ((fixed old).2.1 ▸ named) found

theorem amend_request_id {requestId : String} {change : Request → Request} (request : Request)
    (stable : (change request).requestId = request.requestId) :
    (if request.requestId = requestId then change request else request).requestId = request.requestId := by
  split
  · exact stable
  · rfl

theorem amend_obligation_row (store : Store) (obligationId id : String) (change : Obligation → Obligation)
    (stable : ∀ obligation, (change obligation).obligationId = obligation.obligationId) :
    (amendObligation obligationId change store).obligation? id = (store.obligation? id).map fun obligation =>
      if obligation.obligationId = obligationId then change obligation else obligation := by
  refine row_map Obligation.obligationId _ (fun obligation => ?_) id store.obligations
  split
  · exact stable obligation
  · rfl

theorem amend_request_row (store : Store) (requestId id : String) (change : Request → Request)
    (stable : ∀ request, (change request).requestId = request.requestId) :
    (amendRequest requestId change store).request? id = (store.request? id).map fun request =>
      if request.requestId = requestId then change request else request :=
  row_map Request.requestId _ (fun request => amend_request_id request (stable request)) id store.requests

section Same

variable {before after : Store} (sound : Sound before)

theorem same_activations (same : after.activations = before.activations) :
    ∃ change : Activation → Activation, after.activations = before.activations.map change ∧
      ∀ activation ∈ before.activations, Kept activation (change activation) :=
  ⟨id, by simpa using same, fun activation _ => Kept.refl activation⟩

theorem revoked_activations (chosen : Activation → Bool)
    (same : after.activations = before.activations.map (revoke chosen)) :
    ∃ change : Activation → Activation, after.activations = before.activations.map change ∧
      ∀ activation ∈ before.activations, Kept activation (change activation) :=
  ⟨revoke chosen, same, fun activation _ => revoke_kept chosen activation⟩

theorem same_actors (same : after.actors = before.actors) (id : String) (old : Actor)
    (found : before.actor? id = some old) : ∃ new, after.actor? id = some new ∧
      old.generation ≤ new.generation ∧ (new.generation = old.generation ∨
        ∀ activation ∈ after.activations, activation.actorId = id → activation.active = false) := by
  refine ⟨old, ?_, le_rfl, .inl rfl⟩
  unfold Store.actor?
  rw [same]
  exact found

include sound in
theorem same_works (same : after.works = before.works) : (after.works.map Work.workId).Nodup ∧
    ∀ id old, before.work? id = some old → ∃ new, after.work? id = some new ∧ old.revision ≤ new.revision := by
  refine ⟨same ▸ sound.keys.works, fun id old found => ⟨old, ?_, le_rfl⟩⟩
  unfold Store.work?
  rw [same]
  exact found

include sound in
theorem amended_works (workId : String) (change : Work → Work)
    (stable : ∀ work, (change work).workId = work.workId ∧ work.revision ≤ (change work).revision)
    (same : after.works = (amendWork workId change before).works) : (after.works.map Work.workId).Nodup ∧
    ∀ id old, before.work? id = some old → ∃ new, after.work? id = some new ∧ old.revision ≤ new.revision := by
  have fixed : ∀ work : Work, (if work.workId = workId then change work else work).workId = work.workId := by
    intro work
    split
    · exact (stable work).1
    · rfl
  constructor
  · have ids : after.works.map Work.workId = before.works.map Work.workId := by
      rw [same, amendWork, List.map_map]
      exact List.map_congr_left fun work _ => fixed work
    rw [ids]
    exact sound.keys.works
  · intro id old found
    have row := row_map Work.workId _ fixed id before.works
    rw [Store.work?] at found
    simp only [found, Option.map_some] at row
    refine ⟨_, by unfold Store.work?; rw [same]; exact row, ?_⟩
    split
    · exact (stable old).2
    · exact le_rfl

include sound in
theorem same_obligations (same : after.obligations = before.obligations) :
    (after.obligations.map Obligation.obligationId).Nodup ∧ ∀ id old, before.obligation? id = some old →
      ∃ new, after.obligation? id = some new ∧ new.assigneeActor = old.assigneeActor ∧ new.workId = old.workId ∧
        old.generation ≤ new.generation := by
  refine ⟨same ▸ sound.keys.obligations, fun id old found => ⟨old, ?_, rfl, rfl, le_rfl⟩⟩
  unfold Store.obligation?
  rw [same]
  exact found

include sound in
theorem amended_obligations (obligationId : String) (change : Obligation → Obligation)
    (stable : ∀ obligation, (change obligation).obligationId = obligation.obligationId ∧
      (change obligation).assigneeActor = obligation.assigneeActor ∧
      (change obligation).workId = obligation.workId ∧ obligation.generation ≤ (change obligation).generation)
    (same : after.obligations = (amendObligation obligationId change before).obligations) :
    (after.obligations.map Obligation.obligationId).Nodup ∧ ∀ id old, before.obligation? id = some old →
      ∃ new, after.obligation? id = some new ∧ new.assigneeActor = old.assigneeActor ∧ new.workId = old.workId ∧
        old.generation ≤ new.generation := by
  constructor
  · have ids : after.obligations.map Obligation.obligationId = before.obligations.map Obligation.obligationId := by
      rw [same, amendObligation, List.map_map]
      refine List.map_congr_left fun obligation _ => ?_
      by_cases named : obligation.obligationId = obligationId
      · simpa [named] using (stable obligation).1.trans named
      · simp [named]
    rw [ids]
    exact sound.keys.obligations
  · intro id old found
    have row := amend_obligation_row before obligationId id change fun obligation => (stable obligation).1
    simp only [found, Option.map_some] at row
    refine ⟨_, by unfold Store.obligation? at row ⊢; rw [same]; exact row, ?_⟩
    split
    · exact (stable old).2
    · exact ⟨rfl, rfl, le_rfl⟩

include sound in
theorem same_links (requests : after.requests = before.requests)
    (obligations : after.obligations = before.obligations) :
    Linked after := by
  have found : ∀ id, after.obligation? id = before.obligation? id := by
    intro id
    unfold Store.obligation?
    rw [obligations]
  refine sound.links.evolve id (by simpa using requests) (fun _ => ⟨rfl, rfl, rfl, rfl⟩)
    (fun id old row => ⟨old, (found id).trans row, rfl, rfl⟩) fun request listed status id obligation named row => ?_
  exact sound.links.answerable request listed status id obligation named ((found id).symm.trans row)

theorem same_requests (same : after.requests = before.requests) (id : String) (old : Request)
    (found : before.request? id = some old) : ∃ new, after.request? id = some new ∧
    new.obligationId = old.obligationId := by
  refine ⟨old, ?_, rfl⟩
  unfold Store.request?
  rw [same]
  exact found

theorem same_replies (same : after.requests = before.requests) : ∀ request ∈ after.requests, ∀ id,
    request.replyActivationId = some id →
      ∃ old ∈ before.requests, old.requestId = request.requestId ∧ old.replyActivationId = some id :=
  fun request listed _ pointed => ⟨request, same ▸ listed, rfl, pointed⟩

theorem same_checkpoints (same : after.assignmentCheckpoints = before.assignmentCheckpoints) :
    ∀ row ∈ after.assignmentCheckpoints, (∃ old ∈ before.assignmentCheckpoints, old.obligationId = row.obligationId) ∨
      ∃ obligation, before.obligation? row.obligationId = some obligation :=
  fun row listed => .inl ⟨row, same ▸ listed, rfl⟩

theorem amended_requests (requestId : String) (change : Request → Request)
    (stable : ∀ request, (change request).requestId = request.requestId ∧
      (change request).obligationId = request.obligationId)
    (same : after.requests = (amendRequest requestId change before).requests) (id : String) (old : Request)
    (found : before.request? id = some old) : ∃ new, after.request? id = some new ∧
      new.obligationId = old.obligationId := by
  have row := amend_request_row before requestId id change fun request => (stable request).1
  simp only [found, Option.map_some] at row
  refine ⟨_, by unfold Store.request? at row ⊢; rw [same]; exact row, ?_⟩
  split
  · exact (stable old).2
  · rfl

theorem amended_replies (requestId : String) (change : Request → Request)
    (stable : ∀ request, (change request).requestId = request.requestId ∧
      ∀ id, (change request).replyActivationId = some id → request.replyActivationId = some id)
    (same : after.requests = (amendRequest requestId change before).requests) : ∀ request ∈ after.requests, ∀ id,
    request.replyActivationId = some id →
      ∃ old ∈ before.requests, old.requestId = request.requestId ∧ old.replyActivationId = some id := by
  intro request listed id pointed
  rw [same, amendRequest, List.mem_map] at listed
  obtain ⟨old, present, rfl⟩ := listed
  refine ⟨old, present, (amend_request_id old (stable old).1).symm, ?_⟩
  split at pointed
  · exact (stable old).2 id pointed
  · exact pointed

end Same

end OrchestratorEngine.Continuity
