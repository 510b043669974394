import OrchestratorEngine.Continuity.Moves

set_option autoImplicit false

namespace OrchestratorEngine.Continuity

open Foundation

structure Sound (store : Store) : Prop where
  links : Linked store
  keys : Keyed store
  numbered : ∀ activation ∈ store.activations, activation.activationId ≤ store.metadata.activationSequence
  distinct : (store.activations.map Activation.activationId).Nodup
  known : ∀ activation ∈ store.activations, ∃ actor, store.actor? activation.actorId = some actor ∧
    activation.endpointGeneration ≤ actor.generation ∧
    (activation.active = true → activation.endpointGeneration = actor.generation)
  placed : ∀ activation ∈ store.activations, ∃ work, store.work? activation.workId = some work ∧
    activation.workRevision ≤ work.revision
  assigned : ∀ activation ∈ store.activations, ∀ obligationId, Mark.obligation obligationId ∈ activation.manifest →
    ∃ obligation, store.obligation? obligationId = some obligation ∧ activation.actorId = obligation.assigneeActor ∧
      activation.workId = obligation.workId ∧
      ∃ generation, activation.assignmentGeneration = some generation ∧ generation ≤ obligation.generation
  paired : ∀ activation ∈ store.activations, ∀ requestId obligationId, Mark.request requestId ∈ activation.manifest →
    Mark.obligation obligationId ∈ activation.manifest →
    ∃ request, store.request? requestId = some request ∧ request.obligationId = some obligationId
  replies : ∀ request ∈ store.requests, ∀ id, request.replyActivationId = some id →
    id ≤ store.metadata.activationSequence ∧ ∀ activation ∈ store.activations, activation.activationId = id →
      Mark.request request.requestId ∈ activation.manifest
  checkpointed : ∀ row ∈ store.assignmentCheckpoints, ∃ obligation, store.obligation? row.obligationId = some obligation

structure Kept (old new : Activation) : Prop where
  activationId : new.activationId = old.activationId
  workId : new.workId = old.workId
  actorId : new.actorId = old.actorId
  workRevision : new.workRevision = old.workRevision
  controlEpoch : new.controlEpoch = old.controlEpoch
  endpointGeneration : new.endpointGeneration = old.endpointGeneration
  assignmentGeneration : new.assignmentGeneration = old.assignmentGeneration
  reason : new.reason = old.reason
  manifest : new.manifest = old.manifest
  active : new.active = true → old.active = true
  claimed : old.status = .claimed → new.status = .claimed

theorem Kept.refl (activation : Activation) : Kept activation activation :=
  ⟨rfl, rfl, rfl, rfl, rfl, rfl, rfl, rfl, rfl, id, id⟩

theorem Kept.trans {first second third : Activation} (lower : Kept first second) (upper : Kept second third) :
    Kept first third :=
  ⟨upper.activationId.trans lower.activationId, upper.workId.trans lower.workId, upper.actorId.trans lower.actorId,
    upper.workRevision.trans lower.workRevision, upper.controlEpoch.trans lower.controlEpoch,
    upper.endpointGeneration.trans lower.endpointGeneration, upper.assignmentGeneration.trans
    lower.assignmentGeneration,
    upper.reason.trans lower.reason, upper.manifest.trans lower.manifest, fun active =>
    lower.active (upper.active active),
    fun claimed => upper.claimed (lower.claimed claimed)⟩

theorem revoke_kept (chosen : Activation → Bool) (activation : Activation) :
    Kept activation (revoke chosen activation) := by
  rw [revoke]
  split
  · rename_i revoked
    refine ⟨rfl, rfl, rfl, rfl, rfl, rfl, rfl, rfl, rfl, fun active => by simp at active, fun claimed => ?_⟩
    simp [claimed] at revoked
  · exact Kept.refl activation

theorem revoke_active (chosen : Activation → Bool) (activation : Activation)
    (active : (revoke chosen activation).active = true) : activation.active = true ∧ chosen activation = false := by
  rw [revoke] at active
  split at active
  · simp at active
  · rename_i spared
    exact ⟨active, by simpa [active] using spared⟩

-- A change of the tables under which everything stays sound: rows keep their
-- identity, and generations and revisions only rise.
structure Evolved (before after : Store) : Prop where
  sequence : after.metadata.activationSequence = before.metadata.activationSequence
  activations : ∃ change : Activation → Activation, after.activations = before.activations.map change ∧
    ∀ activation ∈ before.activations, Kept activation (change activation)
  actors : ∀ id old, before.actor? id = some old → ∃ new, after.actor? id = some new ∧
    old.generation ≤ new.generation ∧ (new.generation = old.generation ∨
      ∀ activation ∈ after.activations, activation.actorId = id → activation.active = false)
  works : (after.works.map Work.workId).Nodup ∧ ∀ id old, before.work? id = some old →
    ∃ new, after.work? id = some new ∧ old.revision ≤ new.revision
  obligations : (after.obligations.map Obligation.obligationId).Nodup ∧ ∀ id old, before.obligation? id = some old →
    ∃ new, after.obligation? id = some new ∧ new.assigneeActor = old.assigneeActor ∧ new.workId = old.workId ∧
      old.generation ≤ new.generation
  links : Linked after
  requests : ∀ id old, before.request? id = some old →
    ∃ new, after.request? id = some new ∧ new.obligationId = old.obligationId
  replies : ∀ request ∈ after.requests, ∀ id, request.replyActivationId = some id →
    ∃ old ∈ before.requests, old.requestId = request.requestId ∧ old.replyActivationId = some id
  checkpoints : ∀ row ∈ after.assignmentCheckpoints, (∃ old ∈ before.assignmentCheckpoints,
    old.obligationId = row.obligationId) ∨ ∃ obligation, before.obligation? row.obligationId = some obligation

theorem Evolved.sound {before after : Store} (evolved : Evolved before after) (sound : Sound before) : Sound after := by
  obtain ⟨change, same, kept⟩ := evolved.activations
  have listed : ∀ activation ∈ after.activations, ∃ old ∈ before.activations, Kept old activation := by
    intro activation member
    rw [same, List.mem_map] at member
    obtain ⟨old, present, rfl⟩ := member
    exact ⟨old, present, kept old present⟩
  refine ⟨evolved.links, ⟨evolved.works.1, evolved.obligations.1⟩, ?_, ?_, ?_, ?_, ?_, ?_, ?_, ?_⟩
  · intro activation member
    obtain ⟨old, present, row⟩ := listed activation member
    rw [row.activationId, evolved.sequence]
    exact sound.numbered old present
  · have ids : after.activations.map Activation.activationId = before.activations.map Activation.activationId := by
      rw [same, List.map_map]
      exact List.map_congr_left fun old present => (kept old present).activationId
    rw [ids]
    exact sound.distinct
  · intro activation member
    obtain ⟨old, present, row⟩ := listed activation member
    obtain ⟨actor, found, bound, current⟩ := sound.known old present
    obtain ⟨new, newFound, raised, same⟩ := evolved.actors _ actor found
    refine ⟨new, by rw [row.actorId]; exact newFound, by rw [row.endpointGeneration]; exact bound.trans raised,
      fun active => ?_⟩
    rcases same with generation | fenced
    · rw [row.endpointGeneration, generation]
      exact current (row.active active)
    · simp [fenced activation member row.actorId] at active
  · intro activation member
    obtain ⟨old, present, row⟩ := listed activation member
    obtain ⟨work, found, bound⟩ := sound.placed old present
    obtain ⟨new, newFound, raised⟩ := evolved.works.2 _ work found
    rw [row.workId, row.workRevision]
    exact ⟨new, newFound, bound.trans raised⟩
  · intro activation member obligationId marked
    obtain ⟨old, present, row⟩ := listed activation member
    rw [row.manifest] at marked
    obtain ⟨obligation, found, actor, work, generation, stamped, bound⟩ := sound.assigned old present
      obligationId marked
    obtain ⟨new, newFound, assignee, place, raised⟩ := evolved.obligations.2 _ obligation found
    refine ⟨new, newFound, ?_, ?_, generation, ?_, bound.trans raised⟩
    · rw [row.actorId, actor, assignee]
    · rw [row.workId, work, place]
    · rw [row.assignmentGeneration, stamped]
  · intro activation member requestId obligationId marked also
    obtain ⟨old, present, row⟩ := listed activation member
    rw [row.manifest] at marked also
    obtain ⟨request, found, linked⟩ := sound.paired old present requestId obligationId marked also
    obtain ⟨new, newFound, same⟩ := evolved.requests _ request found
    exact ⟨new, newFound, same.trans linked⟩
  · intro request member id pointed
    obtain ⟨old, present, named, also⟩ := evolved.replies request member id pointed
    obtain ⟨bound, marks⟩ := sound.replies old present id also
    refine ⟨evolved.sequence ▸ bound, fun activation placed numbered => ?_⟩
    obtain ⟨before, was, row⟩ := listed activation placed
    rw [row.manifest, ← named]
    exact marks before was (row.activationId ▸ numbered)
  · intro row member
    have known : ∃ obligation, before.obligation? row.obligationId = some obligation := by
      rcases evolved.checkpoints row member with ⟨old, present, named⟩ | found
      · exact named ▸ sound.checkpointed old present
      · exact found
    obtain ⟨obligation, found⟩ := known
    obtain ⟨new, newFound, _⟩ := evolved.obligations.2 _ obligation found
    exact ⟨new, newFound⟩

variable {activation : Activation} {pointer : Pointer}

variable {store : Store} {site : Site} {work : Work}

theorem Cause.addressed
    (cause : Cause site store work activation pointer) {obligationId : String}
    (marked : Mark.obligation obligationId ∈ activation.manifest) :
    ∃ obligation linked assignment, Standing store obligation linked assignment ∧
      obligation.obligationId = obligationId ∧ Addressed obligation activation activation.manifest := by
  cases cause with
  | assigned obligation standing _ _ _ _ addressed =>
      rw [addressed.manifest] at marked
      exact ⟨obligation, _, _, standing, by simpa [eq_comm] using marked, addressed.work, addressed.actor,
        addressed.generation, rfl⟩
  | reminded obligation linked standing _ _ _ addressed =>
      rw [addressed.manifest] at marked
      exact ⟨obligation, _, _, standing, by simpa [linkMarks, eq_comm] using marked, addressed.work, addressed.actor,
        addressed.generation, rfl⟩
  | informed _ _ _ _ _ _ _ _ _ manifest => simp [manifest] at marked
  | requested obligation request standing _ _ _ _ _ addressed =>
      rw [addressed.manifest] at marked
      exact ⟨obligation, _, _, standing, by simpa [eq_comm] using marked, addressed.work, addressed.actor,
        addressed.generation, rfl⟩
  | replied _ _ _ _ _ _ _ _ _ outcome manifest => cases outcome <;> simp [manifest] at marked
  | carried obligation linked _ standing _ _ _ marks shown addressed =>
      rw [addressed.manifest] at marked
      refine ⟨obligation, _, _, standing, ?_, addressed.work, addressed.actor, addressed.generation, rfl⟩
      rcases shown with rfl | rfl <;> simpa [linkMarks, eq_comm] using marked
  | controlled obligation linked _ standing _ _ _ _ _ addressed =>
      rw [addressed.manifest] at marked
      exact ⟨obligation, _, _, standing, by simpa [linkMarks, eq_comm] using marked, addressed.work, addressed.actor,
        addressed.generation, rfl⟩
  | woken obligation linked _ standing _ _ _ _ _ _ outcomes _ addressed =>
      rw [addressed.manifest] at marked
      exact ⟨obligation, _, _, standing, by simpa [eq_comm] using marked, addressed.work, addressed.actor,
        addressed.generation, rfl⟩
  | continued _ _ _ _ _ manifest => simp [manifest] at marked
  | satisfied _ _ _ _ _ _ manifest => simp [manifest] at marked
  | handedOver _ _ _ _ _ manifest => simp [manifest] at marked
  | assignmentRecovered obligation linked _ standing _ _ addressed =>
      rw [addressed.manifest] at marked
      exact ⟨obligation, _, _, standing, by simpa [linkMarks, eq_comm] using marked, addressed.work, addressed.actor,
        addressed.generation, rfl⟩
  | replyRecovered _ _ _ _ _ _ _ _ manifest => simp [manifest] at marked
  | workRecovered _ _ _ _ _ manifest => simp [manifest] at marked

theorem Cause.paired
    (cause : Cause site store work activation pointer) (links : Linked store) {requestId obligationId : String}
    (marked : Mark.request requestId ∈ activation.manifest)
    (also : Mark.obligation obligationId ∈ activation.manifest) :
    ∃ request, store.request? requestId = some request ∧ request.obligationId = some obligationId := by
  have pair : ∀ (obligation : Obligation) (linked : Option Request) (assignment : Option AssignmentCheckpoint),
      Standing store obligation linked assignment → obligation.obligationId = obligationId →
      (∃ request ∈ linked, request.requestId = requestId) →
      ∃ request, store.request? requestId = some request ∧ request.obligationId = some obligationId := by
    rintro obligation _ assignment standing rfl ⟨request, rfl, rfl⟩
    obtain ⟨listed, named⟩ := linked_request standing.linked
    exact ⟨request, links.request listed, named⟩
  cases cause with
  | assigned obligation standing _ _ _ _ addressed => simp [addressed.manifest] at marked
  | reminded obligation linked standing _ _ _ addressed =>
      rw [addressed.manifest] at marked also
      exact pair obligation linked _ standing (by simpa [linkMarks, eq_comm] using also)
        (by simpa [linkMarks] using marked)
  | informed _ _ _ _ _ _ _ _ _ manifest => simp [manifest] at also
  | requested obligation request standing _ _ _ _ _ addressed =>
      rw [addressed.manifest] at marked also
      exact pair obligation _ _ standing (by simpa [eq_comm] using also) ⟨request, rfl, by simpa [eq_comm] using marked⟩
  | replied _ _ _ _ _ _ _ _ _ outcome manifest => cases outcome <;> simp [manifest] at also
  | carried obligation linked _ standing _ _ _ marks shown addressed =>
      rw [addressed.manifest] at marked also
      rcases shown with rfl | rfl
      · simp at marked
      · exact pair obligation linked _ standing (by simpa [linkMarks, eq_comm] using also)
          (by simpa [linkMarks] using marked)
  | controlled obligation linked _ standing _ _ _ _ _ addressed =>
      rw [addressed.manifest] at marked also
      exact pair obligation linked _ standing (by simpa [linkMarks, eq_comm] using also)
        (by simpa [linkMarks] using marked)
  | woken obligation linked _ standing _ _ _ _ _ _ outcomes _ addressed => simp [addressed.manifest] at marked
  | continued _ _ _ _ _ manifest => simp [manifest] at marked
  | satisfied _ _ _ _ _ _ manifest => simp [manifest] at marked
  | handedOver _ _ _ _ _ manifest => simp [manifest] at marked
  | assignmentRecovered obligation linked _ standing _ _ addressed =>
      rw [addressed.manifest] at marked also
      exact pair obligation linked _ standing (by simpa [linkMarks, eq_comm] using also)
        (by simpa [linkMarks] using marked)
  | replyRecovered _ _ _ _ _ _ _ _ manifest => simp [manifest] at also
  | workRecovered _ _ _ _ _ manifest => simp [manifest] at marked

theorem change_reply {activationId : Nat} {request : Request} {id : Nat}
    (pointed : (pointer.change activationId request).replyActivationId = some id) :
    request.replyActivationId = some id ∨ id = activationId ∧ pointer = .replied request.requestId := by
  cases pointer with
  | nothing => exact .inl pointed
  | redelivered requestId =>
      simp only [Pointer.change] at pointed
      split at pointed <;> exact .inl pointed
  | pointed requestId =>
      simp only [Pointer.change] at pointed
      split at pointed <;> exact .inl pointed
  | replied requestId =>
      simp only [Pointer.change] at pointed
      split at pointed
      · rename_i same
        exact .inr ⟨(Option.some.inj pointed).symm, by rw [same]⟩
      · exact .inl pointed

theorem Made.sound {requests : List Request}
    (made : Made store work activation) (sound : Sound store)
    (links : Linked { store.insertActivation activation with requests })
    (marks : ∀ obligationId, Mark.obligation obligationId ∈ activation.manifest →
      ∃ obligation, store.obligation? obligationId = some obligation ∧
        Addressed obligation activation activation.manifest)
    (kept : ∀ id old, store.request? id = some old → ∃ new, row? Request.requestId id requests = some new ∧
      new.obligationId = old.obligationId)
    (paired : ∀ requestId obligationId, Mark.request requestId ∈ activation.manifest →
      Mark.obligation obligationId ∈ activation.manifest →
      ∃ request, store.request? requestId = some request ∧ request.obligationId = some obligationId)
    (replies : ∀ request ∈ requests, ∀ id, request.replyActivationId = some id →
      (∃ old ∈ store.requests, old.requestId = request.requestId ∧ old.replyActivationId = some id) ∨
        id = activation.activationId ∧ Mark.request request.requestId ∈ activation.manifest) :
    Sound { store.insertActivation activation with requests } := by
  have fresh : ∀ old ∈ store.activations, old.activationId < activation.activationId := by
    intro old listed
    rw [made.numbered]
    exact Nat.lt_succ_of_le (sound.numbered old listed)
  refine ⟨links, ⟨sound.keys.works, sound.keys.obligations⟩, ?_, ?_, ?_, ?_, ?_, ?_, ?_, sound.checkpointed⟩
  · intro other listed
    rcases List.mem_append.mp listed with old | new
    · exact (fresh other old).le
    · rw [List.mem_singleton.mp new]
      exact Nat.le_refl _
  · change ((store.activations ++ [activation]).map Activation.activationId).Nodup
    rw [List.map_append, List.nodup_append]
    refine ⟨sound.distinct, by simp, fun id listed other new same => ?_⟩
    obtain ⟨old, present, rfl⟩ := List.mem_map.mp listed
    have lower := fresh old present
    simp only [List.map_cons, List.map_nil, List.mem_singleton] at new
    omega
  · intro other listed
    rcases List.mem_append.mp listed with old | new
    · exact sound.known other old
    · cases List.mem_singleton.mp new
      obtain ⟨actor, found, endpoint⟩ := made.actor
      exact ⟨actor, (require_actor_ok _ _ _ found).1, endpoint.le, fun _ => endpoint⟩
  · intro other listed
    rcases List.mem_append.mp listed with old | new
    · exact sound.placed other old
    · cases List.mem_singleton.mp new
      exact ⟨work, made.row, made.revision.le⟩
  · intro other listed obligationId marked
    rcases List.mem_append.mp listed with old | new
    · exact sound.assigned other old obligationId marked
    · cases List.mem_singleton.mp new
      obtain ⟨obligation, found, addressed⟩ := marks obligationId marked
      exact ⟨obligation, found, addressed.actor, addressed.work, obligation.generation, addressed.generation, le_rfl⟩
  · intro other listed requestId obligationId marked also
    have known : ∃ request, store.request? requestId = some request ∧ request.obligationId = some obligationId := by
      rcases List.mem_append.mp listed with old | new
      · exact sound.paired other old requestId obligationId marked also
      · cases List.mem_singleton.mp new
        exact paired requestId obligationId marked also
    obtain ⟨request, found, linked⟩ := known
    obtain ⟨new, newFound, same⟩ := kept requestId request found
    exact ⟨new, newFound, same.trans linked⟩
  · intro request listed id pointed
    have sequence := made.numbered
    rcases replies request listed id pointed with ⟨old, present, named, also⟩ | ⟨rfl, marked⟩
    · obtain ⟨bound, shown⟩ := sound.replies old present id also
      have raised : store.metadata.activationSequence ≤ activation.activationId := sequence ▸ Nat.le_succ _
      refine ⟨bound.trans raised, fun other listed numbered => ?_⟩
      rcases List.mem_append.mp listed with before | new
      · exact named ▸ shown other before numbered
      · cases List.mem_singleton.mp new
        omega
    · refine ⟨le_rfl, fun other listed numbered => ?_⟩
      rcases List.mem_append.mp listed with before | new
      · exact absurd numbered (fresh other before).ne
      · cases List.mem_singleton.mp new
        exact marked

theorem Growth.sound {start next : Database} (growth : Growth site start next)
    (sound : Sound start.store) : Sound next.store := by
  have links := growth.linked sound.links
  cases growth with
  | beside _ _ _ _ =>
      exact ⟨links, ⟨sound.keys.works, sound.keys.obligations⟩, sound.numbered, sound.distinct,
        sound.known, sound.placed,
        sound.assigned, sound.paired, sound.replies, sound.checkpointed⟩
  | create work activation pointer made cause quiet =>
      refine made.sound sound links (fun obligationId marked => ?_) (fun id old found => ?_)
        (fun requestId obligationId => cause.paired sound.links) (fun request listed id pointed => ?_)
      · obtain ⟨obligation, _, _, standing, rfl, addressed⟩ := cause.addressed marked
        exact ⟨obligation, standing.row, addressed⟩
      · refine ⟨pointer.change activation.activationId old, ?_, change_obligation_id _ _ _⟩
        rw [insert_requests, row_map _ _ fun row => change_request_id _ _ row]
        exact congrArg (Option.map _) found
      · obtain ⟨old, member, rfl⟩ := mem_apply listed
        rcases change_reply pointed with kept | ⟨rfl, written⟩
        · exact .inl ⟨old, member, (change_request_id _ _ _).symm, kept⟩
        · refine .inr ⟨rfl, ?_⟩
          rw [change_request_id]
          generalize old.requestId = requestId at written
          subst written
          cases cause with
          | informed _ _ _ _ _ _ _ _ _ _ _ written => simp at written
          | requested _ _ _ _ _ _ _ _ _ _ written => simp at written
          | replied request row _ _ _ _ _ _ _ outcome manifest => simp [manifest]

end OrchestratorEngine.Continuity
