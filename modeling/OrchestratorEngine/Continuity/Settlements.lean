import OrchestratorEngine.Continuity.Fences

set_option autoImplicit false

namespace OrchestratorEngine.Continuity

open Foundation

def Store.resultsFor (store : Store) (source : SourceKey) : List Result :=
  store.results.filter fun row => decide (row.sourceKey = source)

structure Managed (store : Store) : Prop where
  silent : ∀ id, (∀ obligation, store.obligation? id = some obligation → obligation.status = .opened) →
    store.resultsFor (obligationSource id) = []
  told : ∀ id obligation, store.obligation? id = some obligation → obligation.status ≠ .opened →
    ∃ row, store.resultsFor (obligationSource id) = [row] ∧ row.status = obligation.status.text
  answered : ∀ request ∈ store.requests, ∀ id obligation, request.obligationId = some id →
    store.obligation? id = some obligation →
      ((request.status = .replyReady ∨ request.status = .handled) ↔ obligation.status ≠ .opened) ∧
        (request.terminalResponseId ≠ none ↔ obligation.status ≠ .opened)
  marked : ∀ activation ∈ store.activations, ∀ id, Mark.request id ∈ activation.manifest →
    ∃ request, store.request? id = some request ∧ (activation.reason = .requestMessage →
      ∀ obligationId, request.obligationId = some obligationId → Mark.obligation obligationId ∈ activation.manifest)

variable {before after : Store}

theorem kept_marks
    (activations : ∀ activation ∈ after.activations, ∃ old ∈ before.activations, Kept old activation)
    (requests : ∀ id old, before.request? id = some old →
      ∃ new, after.request? id = some new ∧ new.obligationId = old.obligationId)
    (marked : ∀ activation ∈ before.activations, ∀ id, Mark.request id ∈ activation.manifest →
      ∃ request, before.request? id = some request ∧ (activation.reason = .requestMessage →
        ∀ obligationId, request.obligationId = some obligationId → Mark.obligation obligationId
        ∈ activation.manifest)) :
    ∀ activation ∈ after.activations, ∀ id, Mark.request id ∈ activation.manifest →
      ∃ request, after.request? id = some request ∧ (activation.reason = .requestMessage →
        ∀ obligationId, request.obligationId = some obligationId → Mark.obligation obligationId
        ∈ activation.manifest) := by
  intro activation listed id named
  obtain ⟨old, present, kept⟩ := activations activation listed
  rw [kept.manifest] at named
  obtain ⟨request, found, pair⟩ := marked old present id named
  obtain ⟨new, newFound, same⟩ := requests id request found
  refine ⟨new, newFound, fun reason obligationId linked => ?_⟩
  rw [kept.manifest]
  exact pair (kept.reason ▸ reason) obligationId (same ▸ linked)

theorem Evolved.listed (evolved : Evolved before after) :
    ∀ activation ∈ after.activations, ∃ old ∈ before.activations, Kept old activation := by
  obtain ⟨change, same, kept⟩ := evolved.activations
  intro activation listed
  rw [same] at listed
  obtain ⟨old, present, rfl⟩ := List.mem_map.mp listed
  exact ⟨old, present, kept old present⟩

theorem Managed.still (managed : Managed before) (evolved : Evolved before after)
    (requests : after.requests = before.requests) (results : after.results = before.results)
    (statuses : ∀ id, (after.obligation? id).map Obligation.status = (before.obligation? id).map Obligation.status) :
    Managed after := by
  have same : ∀ source, after.resultsFor source = before.resultsFor source := by
    intro source
    unfold Store.resultsFor
    rw [results]
  have backward : ∀ id new, after.obligation? id = some new →
      ∃ old, before.obligation? id = some old ∧ old.status = new.status := by
    intro id new found
    have status := statuses id
    rw [found] at status
    obtain ⟨old, was, kept⟩ := Option.map_eq_some_iff.mp status.symm
    exact ⟨old, was, kept⟩
  refine ⟨fun id quiet => ?_, fun id new found closed => ?_, fun request listed id new linked found => ?_,
    kept_marks evolved.listed evolved.requests managed.marked⟩
  · rw [same]
    refine managed.silent id fun old was => ?_
    have status := statuses id
    rw [was] at status
    obtain ⟨new, found, kept⟩ := Option.map_eq_some_iff.mp status
    exact kept ▸ quiet new found
  · obtain ⟨old, was, status⟩ := backward id new found
    rw [same, ← status]
    exact managed.told id old was (status ▸ closed)
  · obtain ⟨old, was, status⟩ := backward id new found
    rw [requests] at listed
    rw [← status]
    exact managed.answered request listed id old linked was

theorem same_statuses (same : after.obligations = before.obligations) (id : String) :
    (after.obligation? id).map Obligation.status = (before.obligation? id).map Obligation.status := by
  unfold Store.obligation?
  rw [same]

theorem amended_statuses (obligationId : String) (change : Obligation → Obligation)
    (stable : ∀ other, (change other).obligationId = other.obligationId ∧ (change other).status = other.status)
    (same : after.obligations = (amendObligation obligationId change before).obligations) (id : String) :
    (after.obligation? id).map Obligation.status = (before.obligation? id).map Obligation.status := by
  have changed : after.obligation? id = (before.obligation? id).map fun other =>
      if other.obligationId = obligationId then change other else other := by
    unfold Store.obligation? at *
    rw [same]
    exact amend_obligation_row before obligationId id change fun other => (stable other).1
  rw [changed, Option.map_map]
  congr 1
  funext other
  by_cases own : other.obligationId = obligationId <;> simp [own, (stable other).2]

variable {outcome : Outcome}

theorem recorded_elsewhere {source other : SourceKey} {status : String} {before after : List Result}
    (recorded : Recorded source status before after outcome) (different : source ≠ other) :
    (after.filter fun row => decide (row.sourceKey = other)).map (fun row => (row.sourceKey, row.status)) =
      (before.filter fun row => decide (row.sourceKey = other)).map fun row => (row.sourceKey, row.status) := by
  cases recorded with
  | updated row _ _ digest eventId data =>
      rw [List.filter_map, List.map_map]
      refine congrArg₂ List.map ?_ (congrArg₂ List.filter ?_ rfl) <;> funext old <;>
        simp only [Function.comp_apply, updateResult] <;> split <;> rfl
  | inserted row _ same _ _ =>
      have apart : row.sourceKey ≠ other := same ▸ different
      simp [List.filter_append, apart]

variable {store : Store}

theorem Managed.recorded {source : SourceKey} {status : String} {results : List Result}
    (managed : Managed store) (recorded : Recorded source status store.results results outcome)
    (external : source.kind ≠ .obligation) : Managed { store with results } := by
  have same : ∀ id, (Store.resultsFor { store with results } (obligationSource id)).map
      (fun row => (row.sourceKey, row.status)) =
      (store.resultsFor (obligationSource id)).map fun row => (row.sourceKey, row.status) := by
    intro id
    refine recorded_elsewhere recorded fun here => external ?_
    rw [here]
    rfl
  refine ⟨fun id quiet => ?_, fun id obligation found closed => ?_, managed.answered, managed.marked⟩
  · have none' := same id
    rw [managed.silent id quiet, List.map_nil, List.map_eq_nil_iff] at none'
    exact none'
  · obtain ⟨row, only, kept⟩ := managed.told id obligation found closed
    have one := same id
    rw [only, List.map_singleton, List.map_eq_singleton_iff] at one
    obtain ⟨new, now, facts⟩ := one
    exact ⟨new, now, (Prod.mk.inj facts).2.trans kept⟩

variable {obligation : Obligation} {activationId : Nat} {actorId : String}

theorem Settling.inserted
    {status : ObligationStatus} {results : List Result} (managed : Managed store)
    (settling : Settling store obligation actorId activationId status results outcome) :
    ∃ row : Result, results = store.results ++ [row] ∧ row.sourceKey = obligationSource obligation.obligationId ∧
      row.status = status.text ∧ row.outcomeId = outcome := by
  have quiet : store.resultsFor (obligationSource obligation.obligationId) = [] := by
    refine managed.silent _ fun other found => ?_
    rw [settling.row] at found
    cases found
    exact settling.opened
  have recorded := settling.recorded
  generalize obligationSource obligation.obligationId = source at recorded quiet
  cases recorded with
  | updated row listed same _ _ _ =>
      have present : row ∈ store.resultsFor source := List.mem_filter.mpr ⟨listed, decide_eq_true same⟩
      simp [quiet] at present
  | inserted row _ same kept _ => exact ⟨row, rfl, same, kept, rfl⟩

theorem obligation_source_injective {first second : String} (same : obligationSource first = obligationSource second) :
    first = second := congrArg SourceKey.identity same

theorem Managed.settled
    {status : ObligationStatus} (managed : Managed before) (resultRef : String)
    (settling : Settling before obligation actorId activationId status after.results outcome)
    (obligations : after.obligations =
      (amendObligation obligation.obligationId (fun row => row.settled status resultRef) before).obligations)
    (activations : ∀ activation ∈ after.activations, ∃ old ∈ before.activations, Kept old activation)
    (kept : ∀ id old, before.request? id = some old →
      ∃ new, after.request? id = some new ∧ new.obligationId = old.obligationId)
    (requests : ∀ request ∈ after.requests, ∀ id, request.obligationId = some id →
      id = obligation.obligationId ∧ request.status = .replyReady ∧ request.terminalResponseId ≠ none ∨
      id ≠ obligation.obligationId ∧ ∃ old ∈ before.requests, old.obligationId = some id ∧ old.status = request.status ∧
        old.terminalResponseId = request.terminalResponseId) : Managed after := by
  obtain ⟨row, results, source, rowStatus, _⟩ := settling.inserted managed
  have changed : ∀ id, after.obligation? id = (before.obligation? id).map fun other =>
      if other.obligationId = obligation.obligationId then other.settled status resultRef else other := by
    intro id
    unfold Store.obligation?
    rw [obligations]
    exact amend_obligation_row before obligation.obligationId id _ fun _ => rfl
  have own : after.obligation? obligation.obligationId = some (obligation.settled status resultRef) := by
    rw [changed, settling.row]
    simp
  have other : ∀ id, id ≠ obligation.obligationId → after.obligation? id = before.obligation? id := by
    intro id different
    rw [changed]
    cases found : before.obligation? id with
    | none => rfl
    | some old =>
        have sameId := obligation_row_id found
        simp [sameId, different]
  have filtered : ∀ id, after.resultsFor (obligationSource id) =
      before.resultsFor (obligationSource id) ++ if id = obligation.obligationId then [row] else [] := by
    intro id
    unfold Store.resultsFor
    rw [results, List.filter_append]
    congr 1
    by_cases here : id = obligation.obligationId
    · simp [here, source]
    · have apart : row.sourceKey ≠ obligationSource id := fun same =>
        here (obligation_source_injective (same.symm.trans source))
      simp [here, apart]
  refine ⟨fun id quiet => ?_, fun id current found closed => ?_, fun request listed id current linked found => ?_,
    kept_marks activations kept managed.marked⟩
  · have different : id ≠ obligation.obligationId := by
      rintro rfl
      exact absurd (quiet _ own) settling.ended
    rw [filtered, if_neg different, List.append_nil]
    exact managed.silent id fun old was => quiet old ((other id different).trans was)
  · by_cases here : id = obligation.obligationId
    · subst here
      rw [own] at found
      cases found
      refine ⟨row, ?_, rowStatus⟩
      rw [filtered, if_pos rfl, managed.silent _ fun old was => ?_]
      · rfl
      · rw [settling.row] at was
        cases was
        exact settling.opened
    · rw [filtered, if_neg here, List.append_nil]
      exact managed.told id current ((other id here) ▸ found) closed
  · rcases requests request listed id linked with ⟨rfl, ready, answered⟩ | ⟨different, old, was, same, state, reply⟩
    · rw [own] at found
      cases found
      exact ⟨⟨fun _ => settling.ended, fun _ => .inl ready⟩, ⟨fun _ => settling.ended, fun _ => answered⟩⟩
    · rw [← state, ← reply]
      exact managed.answered old was id current same ((other id different) ▸ found)

theorem managed_open (managed : Managed store) {request : Request}
    (listed : request ∈ store.requests) (linked : request.obligationId = some obligation.obligationId)
    (row : store.obligation? obligation.obligationId = some obligation) (opened : obligation.status = .opened) :
    request.status ≠ .replyReady ∧ request.status ≠ .handled ∧ request.terminalResponseId = none := by
  obtain ⟨status, reply⟩ := managed.answered request listed _ obligation linked row
  refine ⟨fun ready => status.mp (.inl ready) opened, fun handled => status.mp (.inr handled) opened, ?_⟩
  by_contra answered
  exact reply.mp answered opened

variable {activation : Activation}

variable {site : Site}

theorem change_answered {work : Work} {pointer : Pointer}
    {request : Request} (cause : Cause site store work activation pointer) (links : Linked store)
    (managed : Managed store) (listed : request ∈ store.requests) {id : String}
    (linked : request.obligationId = some id) :
    ((pointer.change activationId request).status = .replyReady ∨
    (pointer.change activationId request).status = .handled ↔
      (request.status = .replyReady ∨ request.status = .handled)) := by
  rcases change_status activationId cause links listed with same | ⟨pending, opened⟩
  · rw [same]
  · obtain ⟨obligation, found, _⟩ := links.pinned request listed id linked
    have sameId := obligation_row_id found
    subst sameId
    obtain ⟨ready, handled, _⟩ := managed_open managed listed linked found (opened _ obligation linked found)
    simp [pending, ready, handled]

theorem Cause.marked {work : Work} {pointer : Pointer}
    (cause : Cause site store work activation pointer) (links : Linked store) {id : String}
    (named : Mark.request id ∈ activation.manifest) :
    ∃ request, store.request? id = some request ∧ (activation.reason = .requestMessage →
      ∀ obligationId, request.obligationId = some obligationId → Mark.obligation obligationId
      ∈ activation.manifest) := by
  have shown : ∀ linked : Option Request, ∀ obligationId, store.linkedRequest? obligationId = linked →
      Mark.request id ∈ linkMarks linked → ∃ request, store.request? id = some request := by
    intro linked obligationId found marks
    cases linked with
    | none => simp [linkMarks] at marks
    | some request =>
        have same : id = request.requestId := by simpa [linkMarks] using marks
        subst same
        exact ⟨request, links.request (linked_request found).1⟩
  have plain : activation.reason ≠ .requestMessage → (∃ request, store.request? id = some request) →
      ∃ request, store.request? id = some request ∧ (activation.reason = .requestMessage →
        ∀ obligationId, request.obligationId = some obligationId → Mark.obligation obligationId
        ∈ activation.manifest) :=
    by
      rintro other ⟨request, found⟩
      exact ⟨request, found, fun reason => absurd reason other⟩
  cases cause with
  | assigned _ _ _ _ _ reason addressed => simp [addressed.manifest] at named
  | reminded _ linked standing _ _ reason addressed =>
      rw [addressed.manifest] at named
      exact plain (by simp [reason]) (shown linked _ standing.linked (by simpa using named))
  | informed request row unlinked _ _ _ _ _ _ manifest _ _ =>
      have same : id = request.requestId := by simpa [manifest] using named
      subst same
      exact ⟨request, row, fun _ obligationId linked => by simp [unlinked] at linked⟩
  | requested obligation request standing row _ _ _ _ addressed _ _ =>
      have same : id = request.requestId := by simpa [addressed.manifest] using named
      subst same
      refine ⟨request, row, fun _ obligationId linked => ?_⟩
      rw [(linked_request standing.linked).2] at linked
      cases linked
      simp [addressed.manifest]
  | replied request row _ _ reason _ _ _ _ outcome manifest =>
      have same : id = request.requestId := by
        cases outcome <;> simpa [manifest] using named
      subst same
      exact plain (by simp [reason]) ⟨request, row⟩
  | carried _ linked _ standing _ _ reason marks said addressed =>
      rw [addressed.manifest] at named
      refine plain (by simp [reason]) ?_
      rcases said with rfl | rfl
      · simp at named
      · exact shown linked _ standing.linked (by simpa using named)
  | controlled _ linked _ standing _ _ _ _ reason addressed =>
      rw [addressed.manifest] at named
      exact plain (by simp [reason]) (shown linked _ standing.linked (by simpa using named))
  | woken _ _ _ _ _ _ _ _ _ _ outcomes _ addressed => simp [addressed.manifest] at named
  | continued _ _ _ _ _ manifest => simp [manifest] at named
  | satisfied _ _ _ _ _ _ manifest _ => simp [manifest] at named
  | handedOver _ _ _ _ _ manifest => simp [manifest] at named
  | assignmentRecovered _ linked _ standing _ reason addressed =>
      rw [addressed.manifest] at named
      exact plain (by simp [reason]) (shown linked _ standing.linked (by simpa using named))
  | replyRecovered request row _ _ reason _ _ _ manifest =>
      have same : id = request.requestId := by simpa [manifest] using named
      subst same
      exact plain (by simp [reason]) ⟨request, row⟩
  | workRecovered _ _ _ _ _ manifest => simp [manifest] at named

theorem Growth.managed {start next : Database} (growth : Growth site start next)
    (links : Linked start.store) (managed : Managed start.store) : Managed next.store := by
  cases growth with
  | beside _ _ _ _ => exact ⟨managed.silent, managed.told, managed.answered, managed.marked⟩
  | create work activation pointer made cause quiet =>
      refine ⟨managed.silent, managed.told, fun request listed id obligation linked found => ?_,
        fun other listed id named => ?_⟩
      · obtain ⟨old, member, rfl⟩ := mem_apply listed
        rw [change_obligation_id] at linked
        rw [change_answered cause links managed member linked, change_terminal]
        exact managed.answered old member id obligation linked found
      · have known : ∃ request, start.store.request? id = some request ∧ (other.reason = .requestMessage →
            ∀ obligationId, request.obligationId = some obligationId →
              Mark.obligation obligationId ∈ other.manifest) := by
          rcases List.mem_append.mp listed with old | new
          · exact managed.marked other old id named
          · cases List.mem_singleton.mp new
            exact cause.marked links named
        obtain ⟨request, found, pair⟩ := known
        refine ⟨pointer.change activation.activationId request, ?_, fun reason obligationId linked => ?_⟩
        · rw [apply_request]
          exact congrArg _ found
        · exact pair reason obligationId (change_obligation_id _ _ _ ▸ linked)

theorem Managed.remarked (managed : Managed before) (evolved : Evolved before after)
    (results : after.results = before.results)
    (statuses : ∀ id, (after.obligation? id).map Obligation.status = (before.obligation? id).map Obligation.status)
    (change : Request → Request) (requests : after.requests = before.requests.map change)
    (fixed : ∀ request ∈ before.requests, ∀ id, (change request).obligationId = some id →
      request.obligationId = some id ∧ (change request).terminalResponseId = request.terminalResponseId ∧
        ((change request).status = .replyReady ∨ (change request).status = .handled ↔
          (request.status = .replyReady ∨ request.status = .handled))) : Managed after := by
  have still : Managed { after with requests := before.requests } := by
    refine ⟨fun id quiet => ?_, fun id new found closed => ?_, fun request listed id new linked found => ?_,
      fun activation listed id named => ?_⟩
    · have same := statuses id
      unfold Store.resultsFor
      rw [results]
      refine managed.silent id fun old was => ?_
      rw [was] at same
      obtain ⟨new, found, kept⟩ := Option.map_eq_some_iff.mp same
      exact kept ▸ quiet new found
    · have same := statuses id
      rw [show after.obligation? id = some new from found] at same
      obtain ⟨old, was, kept⟩ := Option.map_eq_some_iff.mp same.symm
      unfold Store.resultsFor
      rw [results, ← kept]
      exact managed.told id old was (kept ▸ closed)
    · have same := statuses id
      rw [show after.obligation? id = some new from found] at same
      obtain ⟨old, was, kept⟩ := Option.map_eq_some_iff.mp same.symm
      rw [← kept]
      exact managed.answered request listed id old linked was
    · obtain ⟨old, present, kept⟩ := evolved.listed activation listed
      rw [kept.manifest] at named ⊢
      rw [kept.reason]
      exact managed.marked old present id named
  refine ⟨still.silent, still.told, fun request listed id new linked found => ?_,
    kept_marks evolved.listed evolved.requests managed.marked⟩
  rw [requests] at listed
  obtain ⟨old, present, rfl⟩ := List.mem_map.mp listed
  obtain ⟨was, terminal, same⟩ := fixed old present id linked
  rw [same, terminal]
  exact still.answered old present id new was found

theorem plain_message_unlinked {expectedEpoch : Nat}
    {claimant : Claimant} {linked : Request} (managed : Managed store) (listed : activation ∈ store.activations)
    (facts : Granted store activation actorId expectedEpoch claimant none (some linked))
    (told : activation.reason = .requestMessage) : linked.obligationId = none := by
  obtain ⟨requestId, chosen, kept⟩ := claimed_request_row facts.request
  have unassigned : claimant.obligationId = none := by
    by_contra assigned
    have assignment : claimant.assignment activation = true := by
      simp [Claimant.assignment, told, Option.isSome_iff_ne_none, assigned]
    obtain ⟨held, _, same, _⟩ := facts.assignment assignment
    simp at same
  have claimed := facts.named
  simp only [Continuity.claimant, bind_ok_iff] at claimed
  obtain ⟨shown, requested, source, _, obligationId, marked, finish⟩ := claimed
  cases finish
  simp only at unassigned chosen
  subst unassigned
  have named : shown = some requestId := by
    cases shown with
    | none => simp at chosen
    | some other => simpa using chosen
  subst named
  obtain ⟨mark, member, isRequest⟩ := manifest_value_some requested
  rw [mark_request_some isRequest] at member
  obtain ⟨current, found, pair⟩ := managed.marked activation listed _ member
  cases found.symm.trans kept
  by_contra answers
  obtain ⟨id, linkedTo⟩ := Option.ne_none_iff_exists'.mp answers
  have there : id ∈ activation.manifest.filterMap Mark.obligation? :=
    List.mem_filterMap.mpr ⟨_, pair told id linkedTo, rfl⟩
  rw [manifestValue] at marked
  split at marked
  · rename_i empty
    simp [empty] at there
  · cases marked
  · cases marked

theorem claim_managed {before : Store} (sound : Sound before) (managed : Managed before) (world : World)
    (activation : Activation) (actorId : String) (expectedEpoch : Nat)
    (row : before.activation? activation.activationId = some activation) (obligation : Option Obligation)
    (request : Option Request) (granted : grant before activation actorId expectedEpoch =
    .ok (.fresh obligation request)) :
    Managed (recordClaim world activation obligation request
      (claimActivation activation.activationId world.now before)) := by
  have evolved := claim_recorded sound world activation actorId expectedEpoch row obligation request granted
  have listed := (row_mem _ _ _ _ row).1
  obtain ⟨claimant, facts⟩ := grant_fresh granted
  unfold recordClaim at evolved ⊢
  split at evolved <;> rename_i recovery
  · rw [if_pos recovery]
    exact managed.still evolved rfl rfl fun _ => rfl
  · rw [if_neg recovery]
    cases obligation with
    | none =>
        cases request with
        | none => exact managed.still evolved rfl rfl fun _ => rfl
        | some linked =>
            simp only at evolved ⊢
            split at evolved <;> rename_i told
            · rw [if_pos told]
              refine managed.remarked evolved rfl (fun _ => rfl)
                (fun other => if other.requestId = linked.requestId then markClosed other else other) rfl ?_
              intro other present id named
              split
              · rename_i own
                rw [if_pos own] at named
                obtain ⟨_, _, kept⟩ := claimed_request_row facts.request
                have sameId := request_row_id kept
                subst sameId
                have twin : other = linked := Option.some.inj ((sound.links.request present).symm.trans (own ▸ kept))
                subst twin
                have alone := plain_message_unlinked managed listed facts told
                rw [show other.obligationId = some id from named] at alone
                cases alone
              · rename_i foreign
                rw [if_neg foreign] at named
                exact ⟨named, rfl, Iff.rfl⟩
            · rw [if_neg told]
              exact managed.still evolved rfl rfl fun _ => rfl
    | some held =>
        let after := amendObligation held.obligationId
          (fun kept => kept.claimedBy activation.activationId held.generation world.now) before
        have statuses : ∀ id, (after.obligation? id).map Obligation.status = (before.obligation? id).map
          Obligation.status :=
          amended_statuses held.obligationId
            (fun kept => kept.claimedBy activation.activationId held.generation world.now) (fun _ => ⟨rfl, rfl⟩) rfl
        cases request with
        | none => exact managed.still evolved rfl rfl statuses
        | some linked =>
            refine managed.remarked evolved rfl statuses
              (fun other => if other.requestId = linked.requestId then markClaimed other else other) rfl ?_
            intro other present id named
            split
            · rename_i own
              rw [if_pos own] at named
              have assignment : claimant.assignment activation = true := by
                by_contra plain
                exact absurd (facts.plain (by simpa using plain)) (by simp)
              obtain ⟨current, resolved, same, opened, _⟩ := facts.assignment assignment
              cases same
              obtain ⟨_, was, linkedId⟩ := claimed_pair sound listed facts.named resolved facts.request
              obtain ⟨_, _, pinned⟩ := claimed_request_row facts.request
              have sameRow := request_row_id pinned
              subst sameRow
              have twin : other = linked := Option.some.inj ((sound.links.request present).symm.trans (own ▸ pinned))
              subst twin
              obtain ⟨ready, handled, _⟩ := managed_open managed present linkedId was opened
              exact ⟨named, rfl, by simp [markClaimed, ready, handled]⟩
            · rename_i foreign
              rw [if_neg foreign] at named
              exact ⟨named, rfl, Iff.rfl⟩

variable {call : Call}

theorem Edit.managed (edit : Edit call before after) (sound : Sound before)
    (managed : Managed before) : Managed after := by
  have evolved := edit.evolved sound
  cases edit with
  | enlist _ _ _ _ _ => exact managed.still evolved rfl rfl fun _ => rfl
  | rebind _ _ _ _ _ _ _ _ => exact managed.still evolved rfl rfl fun _ => rfl
  | renew _ _ obligation _ _ _ _ =>
      exact managed.still evolved rfl rfl
        (amended_statuses obligation.obligationId Obligation.renewed (fun _ => ⟨rfl, rfl⟩) rfl)
  | begin _ _ _ => exact managed.still evolved rfl rfl fun _ => rfl
  | opening obligation fresh opened _ _ _ _ _ _ =>
      have row (id : String) : (insertObligation obligation before).obligation? id =
          (before.obligation? id).or (if obligation.obligationId = id then some obligation else none) := inserted_row id
      have kept : ∀ id old, (insertObligation obligation before).obligation? id = some old →
          before.obligation? id = some old ∨ old.status = .opened := by
        intro id old found
        rw [row, Option.or_eq_some_iff] at found
        rcases found with was | ⟨_, new⟩
        · exact .inl was
        · split at new
          · cases new
            exact .inr opened
          · cases new
      refine ⟨fun id quiet => managed.silent id fun old was => quiet old ?_, fun id old found closed => ?_,
        fun request listed id old linked found => ?_, managed.marked⟩
      · rw [row, was, Option.some_or]
      · exact managed.told id old ((kept id old found).resolve_right closed) closed
      · obtain ⟨current, was, _⟩ := sound.links.pinned request listed id linked
        rw [row, was, Option.some_or] at found
        cases found
        exact managed.answered request listed id old linked was
  | sending request obligation fresh status _ unanswered _ asked linked facts _ _ _ _ =>
      have row : ∀ id, (insertRequest request obligation before).obligation? id =
          (before.obligation? id).or ((obligation.filter fun new => decide (new.obligationId = id))) := by
        intro id
        change row? _ _ (before.obligations ++ obligation.toList) = _
        unfold row?
        rw [List.find?_append]
        cases obligation with
        | none => rfl
        | some new =>
            change _ = Option.or (List.find? _ _) _
            congr 1
            by_cases same : new.obligationId = id <;> simp [same, Option.filter]
      have kept : ∀ id old, (insertRequest request obligation before).obligation? id = some old →
          before.obligation? id = some old ∨ old.status = .opened := by
        intro id old found
        rw [row, Option.or_eq_some_iff] at found
        rcases found with was | ⟨_, new⟩
        · exact .inl was
        · obtain ⟨same, _⟩ := Option.filter_eq_some_iff.mp new
          exact .inr (facts old same).2.1
      refine ⟨fun id quiet => managed.silent id fun old was => quiet old ?_, fun id old found closed => ?_,
        fun other listed id old linkedTo found => ?_, kept_marks evolved.listed evolved.requests managed.marked⟩
      · rw [row, was, Option.some_or]
      · exact managed.told id old ((kept id old found).resolve_right closed) closed
      · rcases List.mem_append.mp listed with present | new
        · obtain ⟨current, was, _⟩ := sound.links.pinned other present id linkedTo
          rw [row, was, Option.some_or] at found
          cases found
          exact managed.answered other present id old linkedTo was
        · cases List.mem_singleton.mp new
          have open' : old.status = .opened := by
            rcases kept id old found with was | opened
            · rw [← linked] at linkedTo
              obtain ⟨own, same, ownId⟩ := Option.map_eq_some_iff.mp linkedTo
              have missing := (facts own same).1
              rw [ownId, was] at missing
              cases missing
            · exact opened
          simp [status, unanswered, open']
  | settle resolving _ obligation results outcome resultRef settling _ unlinked _ _ _ =>
      refine managed.settled resultRef settling rfl evolved.listed evolved.requests fun request listed id linked => ?_
      refine .inr ⟨?_, request, listed, linked, rfl, rfl⟩
      rintro rfl
      have found := sound.links.linked listed linked
      rw [unlinked] at found
      cases found
  | progress _ _ request row obligation linked found opened _ _ =>
      refine managed.remarked evolved rfl (fun _ => rfl)
        (fun other => if other.requestId = request.requestId then markClaimed other else other) rfl ?_
      intro other present id named
      split
      · rename_i own
        rw [if_pos own] at named
        have twin : other = request := Option.some.inj ((sound.links.request present).symm.trans (own ▸ row))
        subst twin
        obtain ⟨ready, handled, _⟩ := managed_open managed present linked found opened
        exact ⟨named, rfl, by simp [markClaimed, ready, handled]⟩
      · rename_i foreign
        rw [if_neg foreign] at named
        exact ⟨named, rfl, Iff.rfl⟩
  | handle request row status =>
      refine managed.remarked evolved rfl (fun _ => rfl)
        (fun other => if other.requestId = request.requestId then markHandled other else other) rfl ?_
      intro other present id named
      split
      · rename_i own
        rw [if_pos own] at named
        have twin : other = request := Option.some.inj ((sound.links.request present).symm.trans (own ▸ row))
        subst twin
        exact ⟨named, rfl, by simp [markHandled, status]⟩
      · rename_i foreign
        rw [if_neg foreign] at named
        exact ⟨named, rfl, Iff.rfl⟩
  | noted _ => exact managed.still evolved rfl rfl fun _ => rfl
  | step _ _ obligation row _ _ _ _ _ _ _ =>
      have requests : (before.step obligation row).requests = before.requests := by
        unfold Store.step
        split <;> rfl
      have results : (before.step obligation row).results = before.results := by
        unfold Store.step
        split <;> rfl
      refine managed.still evolved requests results ?_
      by_cases paused : row.mode = .paused
      · refine same_statuses ?_
        simp only [Store.step, paused, if_true]
        rfl
      · refine amended_statuses obligation.obligationId Obligation.renewed (fun _ => ⟨rfl, rfl⟩) ?_
        simp only [Store.step, paused, if_false]
        rfl
  | stop _ _ _ _ _ _ _ => exact managed.still evolved rfl rfl fun _ => rfl
  | arm _ _ _ _ => exact managed.still evolved rfl rfl fun _ => rfl
  | advance _ _ _ _ _ _ _ _ _ _ _ _ _ _ _ _ => exact managed.still evolved rfl rfl fun _ => rfl
  | hand _ _ _ _ _ _ _ => exact managed.still evolved rfl rfl fun _ => rfl
  | claim world activation actorId epoch _ row obligation request granted =>
      exact claim_managed sound managed world activation actorId epoch row obligation request granted
  | published _ => exact managed.still evolved rfl rfl fun _ => rfl
  | failed _ _ => exact managed.still evolved rfl rfl fun _ => rfl

theorem Move.managed {start next : Database} (move : Move call start next) (sound : Sound start.store)
    (managed : Managed start.store) : Managed next.store := by
  have answered : ∀ (request : Request) (obligation : Obligation) (reply : Option Nat) (responseId : String)
      (after : Store), start.store.request? request.requestId = some request →
      request.obligationId = some obligation.obligationId →
      after.requests = start.store.requests.map (fun other =>
        if other.requestId = request.requestId then replyReady responseId reply other else other) →
      ∀ other ∈ after.requests, ∀ id, other.obligationId = some id →
        id = obligation.obligationId ∧ other.status = .replyReady ∧ other.terminalResponseId ≠ none ∨
        id ≠ obligation.obligationId ∧ ∃ old ∈ start.store.requests, old.obligationId = some id ∧
          old.status = other.status ∧ old.terminalResponseId = other.terminalResponseId := by
    intro request obligation reply responseId after row linked same other listed id named
    rw [same] at listed
    obtain ⟨old, present, rfl⟩ := List.mem_map.mp listed
    by_cases own : old.requestId = request.requestId
    · rw [if_pos own] at named ⊢
      have twin : old = request := Option.some.inj ((sound.links.request present).symm.trans (own ▸ row))
      subst twin
      have sameId : obligation.obligationId = id := Option.some.inj (linked.symm.trans named)
      exact .inl ⟨sameId.symm, rfl, by simp [replyReady]⟩
    · rw [if_neg own] at named ⊢
      refine .inr ⟨fun sameId => own ?_, old, present, named, rfl, rfl⟩
      subst sameId
      exact congrArg Request.requestId (sound.links.only present (row_mem _ _ _ _ row).1 named linked)
  cases move with
  | restore restored =>
      cases restored with
      | grow growth => exact growth.managed sound.links managed
      | record source status results outcome recorded external => exact managed.recorded recorded external
  | edit edited => exact edited.managed sound managed
  | respond _ _ request row obligation linked _ status results _ resultRef settling _ responseId _ =>
      have evolved := responded sound request row obligation linked status resultRef results responseId
      exact managed.settled resultRef settling rfl evolved.listed evolved.requests
        (answered request obligation none responseId _ row linked rfl)
  | reply _ _ request row obligation linked _ status results outcome resultRef settling _ responseId
    work activation made
      _ reason _ _ _ manifest =>
      have evolved := responded sound request row obligation linked status resultRef results responseId
      have before : Managed (amendRequest request.requestId (replyReady responseId none)
          (start.store.answered request obligation status resultRef results)) :=
        managed.settled resultRef settling rfl evolved.listed evolved.requests
          (answered request obligation none responseId _ row linked rfl)
      have kept : ∀ id old, start.store.request? id = some old → ∃ new, (amendRequest request.requestId
          (replyReady responseId (some activation.activationId)) ((start.store.answered request obligation status
            resultRef results).insertActivation activation)).request? id = some new ∧
          new.obligationId = old.obligationId :=
        amended_requests request.requestId (replyReady responseId (some activation.activationId))
          (fun _ => ⟨rfl, rfl⟩) rfl
      refine ⟨before.silent, before.told, fun other listed id current named found => ?_,
        fun other listed id named => ?_⟩
      · rcases answered request obligation (some activation.activationId) responseId
            (amendRequest request.requestId (replyReady responseId (some activation.activationId))
              ((start.store.answered request obligation status resultRef results).insertActivation activation))
            row linked rfl other listed id named with ⟨rfl, ready, said⟩ | ⟨different, old, present, was, state, reply⟩
        · have ended := (before.told obligation.obligationId current found)
          have closed : current.status ≠ .opened := by
            have own : (start.store.answered request obligation status resultRef results).obligation?
                obligation.obligationId = some (obligation.settled status resultRef) := by
              have changed := amend_obligation_row start.store obligation.obligationId obligation.obligationId
                (fun row => row.settled status resultRef) fun _ => rfl
              exact changed.trans (by simp [settling.row])
            cases own.symm.trans found
            exact settling.ended
          exact ⟨⟨fun _ => closed, fun _ => .inl ready⟩, ⟨fun _ => closed, fun _ => said⟩⟩
        · have twin : old ∈ (amendRequest request.requestId (replyReady responseId none)
              (start.store.answered request obligation status resultRef results)).requests := by
            refine List.mem_map.mpr ⟨old, present, if_neg fun own => ?_⟩
            have same : old = request := Option.some.inj ((sound.links.request present).symm.trans (own ▸ row))
            subst same
            exact different (Option.some.inj (was.symm.trans linked))
          rw [← state, ← reply]
          exact before.answered old twin id current was found
      · rcases List.mem_append.mp listed with old | new
        · obtain ⟨origin, present, same⟩ := evolved.listed other (by exact old)
          rw [same.manifest] at named
          obtain ⟨first, found, pair⟩ := managed.marked origin present id named
          obtain ⟨again, now, linkedSame⟩ := kept id first found
          refine ⟨again, now, fun told obligationId asked => ?_⟩
          rw [same.manifest]
          exact pair (same.reason ▸ told) obligationId (linkedSame ▸ asked)
        · cases List.mem_singleton.mp new
          have same : id = request.requestId := by simpa [manifest] using named
          subst same
          obtain ⟨found, now, _⟩ := kept _ request row
          exact ⟨found, now, fun told => by simp [reason] at told⟩
  | report _ _ => exact ⟨managed.silent, managed.told, managed.answered, managed.marked⟩

theorem Moves.managed {start final : Database} (moves : Moves call start final) (sound : Sound start.store)
    (managed : Managed start.store) : Managed final.store := by
  have both : Sound final.store ∧ Managed final.store := by
    induction moves with
    | refl => exact ⟨sound, managed⟩
    | tail _ move before => exact ⟨move.sound before.1, move.managed before.1 before.2⟩
  exact both.2

end OrchestratorEngine.Continuity
