import OrchestratorEngine.Continuity.Repairs

set_option autoImplicit false

namespace OrchestratorEngine.Continuity

open Foundation

structure Linked (store : Store) : Prop where
  distinct : (store.requests.map Request.requestId).Nodup
  apart : ∀ first ∈ store.requests, ∀ second ∈ store.requests, ∀ obligationId, first.obligationId = some obligationId →
    second.obligationId = some obligationId → first.requestId = second.requestId
  pinned : ∀ request ∈ store.requests, ∀ obligationId, request.obligationId = some obligationId →
    ∃ obligation, store.obligation? obligationId = some obligation ∧
      obligation.assigneeActor = request.recipientActor ∧ obligation.workId = request.workId
  answerable : ∀ request ∈ store.requests, request.status = .deliveryPending ∨ request.status = .claimed →
    ∀ obligationId obligation, request.obligationId = some obligationId →
      store.obligation? obligationId = some obligation → obligation.status = .opened

theorem Linked.only {store : Store} (links : Linked store) {first second : Request} {obligationId : String}
    (listed : first ∈ store.requests) (also : second ∈ store.requests)
    (one : first.obligationId = some obligationId) (other : second.obligationId = some obligationId) : first = second :=
  row_unique Request.requestId store.requests links.distinct first second listed also
    (links.apart first listed second also obligationId one other)

theorem Linked.request {store : Store} (links : Linked store) {request : Request} (listed : request ∈ store.requests) :
    store.request? request.requestId = some request :=
  row_of_mem Request.requestId store.requests links.distinct request listed

theorem Linked.linked {store : Store} (links : Linked store) {request : Request} {obligationId : String}
    (listed : request ∈ store.requests) (named : request.obligationId = some obligationId) :
    store.linkedRequest? obligationId = some request := by
  cases found : store.linkedRequest? obligationId with
  | none =>
      have absent := List.find?_eq_none.mp found request listed
      simp [named] at absent
  | some other =>
      obtain ⟨also, same⟩ := linked_request found
      rw [links.only listed also named same]

theorem Linked.obligation {store : Store} (links : Linked store) {request : Request} {obligation : Obligation}
    (linked : store.linkedRequest? obligation.obligationId = some request)
    (row : store.obligation? obligation.obligationId = some obligation) :
    obligation.assigneeActor = request.recipientActor ∧ obligation.workId = request.workId := by
  obtain ⟨listed, named⟩ := linked_request linked
  obtain ⟨other, found, recipient, work⟩ := links.pinned request listed _ named
  cases row.symm.trans found
  exact ⟨recipient, work⟩

theorem mem_apply {activationId : Nat} {pointer : Pointer} {store : Store} {request : Request}
    (listed : request ∈ (pointer.apply activationId store).requests) :
    ∃ old ∈ store.requests, request = pointer.change activationId old := by
  obtain ⟨old, member, same⟩ := List.mem_map.mp listed
  exact ⟨old, member, same.symm⟩

theorem change_status {site : Site} {store : Store} {work : Work} {activation : Activation} {pointer : Pointer}
    (activationId : Nat) {request : Request} (cause : Cause site store work activation pointer)
    (links : Linked store) (listed : request ∈ store.requests) :
    (pointer.change activationId request).status = request.status ∨
      (pointer.change activationId request).status = .deliveryPending ∧
        ∀ obligationId obligation, request.obligationId = some obligationId →
          store.obligation? obligationId = some obligation → obligation.status = .opened := by
  cases pointer with
  | nothing => exact .inl rfl
  | pointed requestId =>
      left
      simp only [Pointer.change]
      split <;> rfl
  | replied requestId =>
      left
      simp only [Pointer.change]
      split <;> rfl
  | redelivered requestId =>
      by_cases same : request.requestId = requestId
      · right
        refine ⟨by simp [Pointer.change, same, redeliver], fun obligationId obligation named row => ?_⟩
        cases cause with
        | informed other found unlinked _ _ _ _ _ _ _ _ written =>
            have agree : requestId = other.requestId := by simpa using written.symm
            have identical := (links.request listed).symm.trans ((same.trans agree) ▸ found)
            cases identical
            simp [unlinked] at named
        | requested other asked standing found _ _ _ _ _ _ written =>
            have agree : requestId = asked.requestId := by simpa using written.symm
            have identical := (links.request listed).symm.trans ((same.trans agree) ▸ found)
            cases identical
            obtain ⟨_, linked⟩ := linked_request standing.linked
            cases linked.symm.trans named
            cases row.symm.trans standing.row
            exact standing.status
      · left
        simp [Pointer.change, same]

theorem Growth.linked {site : Site} {start next : Database} (growth : Growth site start next)
    (links : Linked start.store) : Linked next.store := by
  cases growth with
  | beside _ _ _ _ => exact ⟨links.distinct, links.apart, links.pinned, links.answerable⟩
  | create work activation pointer made cause quiet =>
      refine ⟨?_, ?_, ?_, ?_⟩
      · simpa [Pointer.apply, Function.comp_def] using links.distinct
      · intro first listed second also obligationId one other
        obtain ⟨old, member, rfl⟩ := mem_apply listed
        obtain ⟨older, present, rfl⟩ := mem_apply also
        simpa using links.apart old member older present obligationId (by simpa using one) (by simpa using other)
      · intro request listed obligationId named
        obtain ⟨old, member, rfl⟩ := mem_apply listed
        simpa using links.pinned old member obligationId (by simpa using named)
      · intro request listed status obligationId obligation named row
        obtain ⟨old, member, rfl⟩ := mem_apply listed
        rw [change_obligation_id] at named
        rcases change_status _ cause links member with same | ⟨_, opened⟩
        · exact links.answerable old member (same ▸ status) obligationId obligation named row
        · exact opened obligationId obligation named row

theorem Grows.linked {site : Site} {start final : Database} (grows : Grows site start final)
    (links : Linked start.store) : Linked final.store := by
  induction grows with
  | refl => exact links
  | tail _ last ih => exact last.linked ih

def Others (requestId : String) (before after : Store) : Prop :=
  ∀ id, id ≠ requestId → after.request? id = before.request? id

theorem apply_others {store : Store} {activationId : Nat} {pointer : Pointer} {requestId : String}
    (written : pointer = .redelivered requestId ∨ pointer = .pointed requestId ∨ pointer = .replied requestId) :
    Others requestId store (pointer.apply activationId store) := by
  intro id different
  rw [apply_request]
  cases found : store.request? id with
  | none => rfl
  | some request =>
      have same := request_row_id found
      rcases written with rfl | rfl | rfl <;> simp [Pointer.change, same, different]

theorem deliver_message_grows (site : Site) (world : World) (work : Work) (request : Request) (start final : Database)
    (created : List Nat) (links : Linked start.store) (row : start.store.request? request.requestId = some request)
    (status : request.status = .deliveryPending ∨ request.status = .claimed)
    (idle : activeCurrentActivation start.store request.requestActivationId request.recipientActor .requestMessage =
      .ok none)
    (owner : start.store.work? request.workId = some work)
    (quiet : effectiveExplicitStop start.store work.workId request.recipientActor = none)
    (run : deliverMessage world work request start = .ok (created, final)) :
    Grows site start final ∧ Others request.requestId start.store final.store := by
  have workId := work_row_id owner
  have listed := (row_mem _ _ _ _ row).1
  simp only [deliverMessage, Tx.bind_done, Tx.ask_done] at run
  obtain ⟨settled, start, ⟨rfl, rfl⟩, run⟩ := run
  split at run
  · obtain ⟨_, rfl⟩ := (Tx.pure_done _).mp run
    exact ⟨.refl, fun _ _ => rfl⟩
  · rename_i unsettled
    cases named : request.obligationId with
    | none =>
        simp only [named, Tx.bind_done, Tx.edit_done, Tx.pure_done] at run
        obtain ⟨id, middle, made, _, _, rfl, _, rfl⟩ := run
        have grown := point_grows site world work _ _ _ _ _ start middle id (.redelivered request.requestId)
          (workId ▸ owner) made (fun activation sameWork actor generation reason manifest _ =>
            .informed request row named status idle reason (sameWork.trans workId) actor generation
            manifest _ (.inl rfl))
          (.inr quiet)
        refine ⟨.one grown, fun other different => ?_⟩
        obtain ⟨_, _, _, same⟩ := create_activation_done _ _ _ _ _ _ _ _ _ _ made
        subst same
        exact apply_others (.inl rfl) other different
    | some obligationId =>
        simp only [named, Tx.bind_done, Tx.ask_done] at run
        obtain ⟨found, start, ⟨rfl, rfl⟩, run⟩ := run
        cases kept : start.store.obligation? obligationId with
        | none =>
            simp only [kept, Tx.pure_done] at run
            obtain ⟨_, rfl⟩ := run
            exact ⟨.refl, fun _ _ => rfl⟩
        | some obligation =>
            simp only [kept, Tx.bind_done, Tx.edit_done, Tx.pure_done] at run
            obtain ⟨id, middle, made, _, _, rfl, _, rfl⟩ := run
            have sameId := obligation_row_id kept
            subst sameId
            have unset : start.store.checkpoint? obligation.obligationId = none := by
              simpa [named, Option.isSome_iff_ne_none] using unsettled
            have standing : Standing start.store obligation (some request) none :=
              ⟨kept, links.answerable request listed status _ _ named kept, links.linked listed named, unset⟩
            obtain ⟨recipient, place⟩ := links.obligation standing.linked kept
            have grown := point_grows site world work _ _ _ _ _ start middle id (.redelivered request.requestId)
              (workId ▸ owner) made (fun activation sameWork actor generation reason manifest _ =>
                .requested obligation request standing row none idle (by simp) reason
                  ⟨sameWork.trans (workId.trans place.symm), actor.trans recipient.symm, generation,
                  manifest⟩ _ (.inl rfl))
              (.inr quiet)
            refine ⟨.one grown, fun other different => ?_⟩
            obtain ⟨_, _, _, same⟩ := create_activation_done _ _ _ _ _ _ _ _ _ _ made
            subst same
            exact apply_others (.inl rfl) other different

theorem deliver_reply_grows (site : Site) (world : World) (work : Work) (request : Request) (start final : Database)
    (created : List Nat) (row : start.store.request? request.requestId = some request)
    (status : request.status = .replyReady)
    (idle : activeCurrentActivation start.store request.replyActivationId request.returnActor .requestReply = .ok none)
    (owner : start.store.work? request.workId = some work)
    (quiet : effectiveExplicitStop start.store work.workId request.returnActor = none)
    (run : deliverReply world work request start = .ok (created, final)) :
    Grows site start final ∧ Others request.requestId start.store final.store := by
  have workId := work_row_id owner
  rw [deliverReply] at run
  cases terminal : request.terminalResponseId with
  | none =>
      simp only [terminal, Tx.pure_done] at run
      obtain ⟨_, rfl⟩ := run
      exact ⟨.refl, fun _ _ => rfl⟩
  | some responseId =>
      simp only [terminal, Tx.bind_done, Tx.ask_done, Tx.edit_done, Tx.pure_done] at run
      obtain ⟨result, start, ⟨rfl, rfl⟩, id, middle, made, _, _, rfl, _, rfl⟩ := run
      have grown := point_grows site world work _ _ _ _ _ start middle id (.replied request.requestId)
        (workId ▸ owner) made (fun activation sameWork actor generation reason manifest _ =>
          .replied request row status idle reason (sameWork.trans workId) actor generation responseId _ manifest)
        (.inr quiet)
      refine ⟨.one grown, fun other different => ?_⟩
      obtain ⟨_, _, _, same⟩ := create_activation_done _ _ _ _ _ _ _ _ _ _ made
      subst same
      exact apply_others (.inr (.inr rfl)) other different

theorem reconcile_delivery_grows (site : Site) (world : World) (request : Request) (start final : Database)
    (created : List Nat) (links : Linked start.store) (row : start.store.request? request.requestId = some request)
    (outstanding : request.outstanding = true)
    (run : reconcileRequestDelivery world request start = .ok (created, final)) :
    Grows site start final ∧ Others request.requestId start.store final.store := by
  simp only [reconcileRequestDelivery, Tx.bind_done, Tx.read_done, Tx.ask_done] at run
  obtain ⟨work, _, ⟨found, rfl⟩, stopped, start, ⟨rfl, rfl⟩, run⟩ := run
  have owner := require_work_ok _ _ _ found
  by_cases replying : request.status = .replyReady
  · simp only [replying, decide_true, if_true] at run
    by_cases quiet : effectiveExplicitStop start.store work.workId request.returnActor = none
    · simp only [quiet, ne_eq, not_true_eq_false, if_false, Tx.bind_done, Tx.read_done] at run
      obtain ⟨active, start, ⟨idle, rfl⟩, run⟩ := run
      cases active with
      | some other => exact (Tx.pure_done _).mp run |>.2 ▸ ⟨.refl, fun _ _ => rfl⟩
      | none => exact deliver_reply_grows site world work request start final created row replying idle owner quiet run
    · rw [if_pos quiet] at run
      exact (Tx.pure_done _).mp run |>.2 ▸ ⟨.refl, fun _ _ => rfl⟩
  · have status : request.status = .deliveryPending ∨ request.status = .claimed := by
      simpa [Request.outstanding, replying] using outstanding
    simp only [replying, decide_false, Bool.false_eq_true, if_false] at run
    by_cases quiet : effectiveExplicitStop start.store work.workId request.recipientActor = none
    · simp only [quiet, ne_eq, not_true_eq_false, if_false, Tx.bind_done, Tx.read_done] at run
      obtain ⟨active, start, ⟨idle, rfl⟩, run⟩ := run
      cases active with
      | some other => exact (Tx.pure_done _).mp run |>.2 ▸ ⟨.refl, fun _ _ => rfl⟩
      | none =>
          exact deliver_message_grows site world work request start final created links row status idle owner quiet run
    · rw [if_pos quiet] at run
      exact (Tx.pure_done _).mp run |>.2 ▸ ⟨.refl, fun _ _ => rfl⟩

theorem reconcile_deliveries_grows (site : Site) (world : World) (workId : Option String) (start final : Database)
    (created : List Nat) (links : Linked start.store)
    (run : reconcileRequestDeliveries world workId start = .ok (created, final)) : Grows site start final := by
  simp only [reconcileRequestDeliveries, Tx.bind_done, Tx.ask_done] at run
  obtain ⟨rows, start, ⟨rfl, rfl⟩, run⟩ := run
  have distinct := links.distinct
  -- The rows were read before the loop: those still ahead are as they were.
  have walked := Tx.gather_rule (reconcileRequestDelivery world)
    (fun visited _ now => Grows site start now ∧
      ∀ id, id ∉ visited.map Request.requestId → now.store.request? id = start.store.request? id)
    _ start final created ⟨.refl, fun _ _ => rfl⟩ ?_ run
  · exact walked.1
  · rintro front row back before next yielded here split ⟨grown, ahead⟩ round
    have chosen : row ∈ start.store.requests.filter fun request =>
        request.outstanding && workId.all fun id => decide (request.workId = id) := by simp [split]
    obtain ⟨listed, passed⟩ := List.mem_filter.mp chosen
    have unvisited := key_unvisited Request.requestId _ _ _ _ _ distinct split
    have current : before.store.request? row.requestId = some row := by
      rw [ahead row.requestId unvisited]
      exact links.request listed
    obtain ⟨further, others⟩ := reconcile_delivery_grows site world row before next here (grown.linked links) current
      (by simpa using (Bool.and_eq_true_iff.mp passed).1) round
    refine ⟨grown.trans further, fun id fresh => ?_⟩
    rw [List.map_append, List.mem_append, not_or] at fresh
    rw [others id (by simpa [eq_comm] using fresh.2), ahead id fresh.1]

end OrchestratorEngine.Continuity
