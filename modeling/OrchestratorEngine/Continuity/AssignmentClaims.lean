import OrchestratorEngine.Continuity.Fences
import OrchestratorEngine.Continuity.Settlements

set_option autoImplicit false

namespace OrchestratorEngine.Continuity

open Foundation

theorem initialized_managed : Managed initialized := by
  refine ⟨?_, ?_, ?_, ?_⟩ <;> simp [initialized, Store.resultsFor, Store.obligation?, row?]

theorem performed_managed (world : World) (call : Call) (store : Store) (sound : Sound store)
    (managed : Managed store) :
    Managed (perform world call store).store := (performed_moves world call store sound).managed sound managed

theorem run_managed (calls : Run) : Sound (run calls initialized) ∧ Managed (run calls initialized) :=
  run_invariant (fun store => Sound store ∧ Managed store) (fun _ _ _ => True) initialized
    ⟨initialized_sound, initialized_managed⟩
    (fun world call store held _ => ⟨performed_sound world call store held.1,
      performed_managed world call store held.1 held.2⟩) calls fun _ _ _ _ _ => trivial

-- The calls by which an assignee acts on its assignment, with the actor and
-- the activation each of them names.
def Call.bearer : Call → Option (String × Nat)
  | .requestRespond responding => some (responding.actorId, responding.activationId)
  | .resolveObligation resolving => some (resolving.actorId, resolving.activationId)
  | .assignmentCheckpoint step => some (step.actorId, step.activationId)
  | _ => none

structure Steady (before after : Store) : Prop where
  actors : after.actors = before.actors
  claims : ∀ new ∈ after.activations, new.status = .claimed → ∃ old ∈ before.activations, Kept old new ∧
    old.status = .claimed

variable {before after : Store}

theorem steady_same (actors : after.actors = before.actors)
    (activations : after.activations = before.activations) : Steady before after :=
  ⟨actors, fun new listed claimed => ⟨new, activations ▸ listed, .refl new, claimed⟩⟩

theorem Steady.refl (store : Store) : Steady store store := steady_same rfl rfl

theorem Steady.trans {first second third : Store} (lower : Steady first second) (upper : Steady second third) :
    Steady first third := by
  refine ⟨upper.actors.trans lower.actors, fun new listed claimed => ?_⟩
  obtain ⟨middle, between, later, held⟩ := upper.claims new listed claimed
  obtain ⟨old, present, earlier, was⟩ := lower.claims middle between held
  exact ⟨old, present, earlier.trans later, was⟩

theorem steady_revoked (chosen : Activation → Bool) (actors : after.actors = before.actors)
    (activations : after.activations = before.activations.map (revoke chosen)) : Steady before after := by
  refine ⟨actors, fun new listed claimed => ?_⟩
  rw [activations] at listed
  obtain ⟨old, present, rfl⟩ := List.mem_map.mp listed
  refine ⟨old, present, revoke_kept chosen old, ?_⟩
  rw [revoke] at claimed
  split at claimed
  · simp at claimed
  · exact claimed

theorem steady_created {activation : Activation} (actors : after.actors = before.actors)
    (activations : after.activations = before.activations ++ [activation]) (pending : activation.status = .pending) :
    Steady before after := by
  refine ⟨actors, fun new listed claimed => ?_⟩
  rw [activations] at listed
  rcases List.mem_append.mp listed with old | fresh
  · exact ⟨new, old, .refl new, claimed⟩
  · cases List.mem_singleton.mp fresh
    simp [pending] at claimed

theorem published_steady (activationId : Nat) (before : Store) : Steady before (markPublished activationId before) := by
  refine ⟨rfl, fun new listed claimed => ?_⟩
  obtain ⟨old, present, rfl⟩ := List.mem_map.mp listed
  split at claimed
  · simp at claimed
  · rename_i unmoved
    exact ⟨old, present, by rw [if_neg unmoved]; exact .refl old, claimed⟩

variable {start next : Database}

theorem Restore.steady {site : Site} (restored : Restore site start next) :
    Steady start.store next.store := by
  have actors := restored.framed.actors
  cases restored with
  | grow growth =>
      cases growth with
      | beside _ _ _ _ => exact steady_same rfl rfl
      | create work activation pointer made cause quiet => exact steady_created actors rfl made.status
  | record _ _ _ _ _ _ => exact steady_same rfl rfl

variable {activationId : Nat} {actorId : String} {call : Call}

theorem Edit.steady
    (bearer : call.bearer = some (actorId, activationId)) (edit : Edit call before after) : Steady before after := by
  cases edit with
  | enlist _ called _ _ _ => simp [called, Call.bearer] at bearer
  | rebind _ called _ _ _ _ _ _ => simp [called, Call.bearer] at bearer
  | renew _ called _ _ _ _ _ => simp [called, Call.bearer] at bearer
  | begin _ _ _ => exact steady_same rfl rfl
  | opening _ _ _ _ _ _ _ _ _ => exact steady_same rfl rfl
  | sending _ _ _ _ _ _ _ _ _ _ _ _ _ _ => exact steady_same rfl rfl
  | settle _ _ _ _ _ _ _ _ _ _ _ _ => exact steady_revoked _ rfl rfl
  | progress _ _ _ _ _ _ _ _ _ _ => exact steady_same rfl rfl
  | handle _ _ _ => exact steady_revoked _ rfl rfl
  | noted _ => exact steady_same rfl rfl
  | step _ _ obligation row _ _ _ _ _ _ _ =>
      by_cases paused : row.mode = .paused
      · simp only [Store.step, paused, if_true]
        exact steady_revoked _ rfl rfl
      · simp only [Store.step, paused, if_false]
        exact steady_revoked _ rfl rfl
  | stop _ _ _ called _ _ _ => simp [called, Call.bearer] at bearer
  | arm _ _ _ called => simp [called, Call.bearer] at bearer
  | advance _ called _ _ _ _ _ _ _ _ _ _ _ _ _ _ => simp [called, Call.bearer] at bearer
  | hand _ called _ _ _ _ _ => simp [called, Call.bearer] at bearer
  | claim _ _ _ _ called _ _ _ _ => simp [called, Call.bearer] at bearer
  | published activationId => exact published_steady activationId before
  | failed _ _ => exact steady_same rfl rfl

theorem Fenced.earlier {obligation : Obligation}
    (fence : Fenced after obligation actorId activationId) (steady : Steady before after) (sound : Sound before) :
    Fenced before obligation actorId activationId := by
  obtain ⟨assignee, claimed, generation, actor, activation, known, row, status, holder, current⟩ := fence
  obtain ⟨listed, sameId⟩ := row_mem _ _ _ _ row
  obtain ⟨old, present, kept, held⟩ := steady.claims activation listed status
  have found : before.activation? activationId = some old := by
    rw [← sameId, kept.activationId]
    exact row_of_mem Activation.activationId before.activations sound.distinct old present
  refine ⟨assignee, claimed, generation, actor, old, ?_, found, held, kept.actorId ▸ holder,
    kept.endpointGeneration ▸ current⟩
  rw [← known]
  unfold requireActor Store.actor?
  rw [steady.actors]

def Guarded (actorId : String) (activationId : Nat) (before after : Store) : Prop :=
  ∀ id old, before.obligation? id = some old → after.obligation? id = some old ∨ Fenced before old actorId activationId

theorem guarded_same
    (same : after.obligations = before.obligations) : Guarded actorId activationId before after := by
  intro id old found
  unfold Store.obligation? at found ⊢
  exact .inl (same ▸ found)

theorem guarded_inserted (obligation : Option Obligation)
    (same : after.obligations = before.obligations ++ obligation.toList) :
    Guarded actorId activationId before after := by
  intro id old found
  refine .inl ?_
  unfold Store.obligation? at found ⊢
  rw [same, row?, List.find?_append]
  exact Option.or_eq_some_iff.mpr (.inl found)

theorem guarded_amended (obligation : Obligation)
    (change : Obligation → Obligation) (row : before.obligation? obligation.obligationId = some obligation)
    (stable : ∀ other, (change other).obligationId = other.obligationId)
    (fence : Fenced before obligation actorId activationId)
    (same : after.obligations = (amendObligation obligation.obligationId change before).obligations) :
    Guarded actorId activationId before after := by
  intro id old found
  by_cases own : id = obligation.obligationId
  · subst own
    cases row.symm.trans found
    exact .inr fence
  · refine .inl ?_
    have changed : after.obligation? id = (before.obligation? id).map fun other =>
        if other.obligationId = obligation.obligationId then change other else other := by
      unfold Store.obligation? at *
      rw [same]
      exact amend_obligation_row before obligation.obligationId id change stable
    rw [changed, found, Option.map_some, if_neg fun named => own ((obligation_row_id found).symm.trans named)]

theorem Edit.guarded
    (bearer : call.bearer = some (actorId, activationId)) (edit : Edit call before after) :
    Guarded actorId activationId before after := by
  cases edit with
  | enlist _ _ _ _ _ => exact guarded_same rfl
  | rebind _ _ _ _ _ _ _ _ => exact guarded_same rfl
  | renew _ called _ _ _ _ _ => simp [called, Call.bearer] at bearer
  | begin _ _ _ => exact guarded_same rfl
  | opening obligation _ _ _ _ _ _ _ _ => exact guarded_inserted (some obligation) rfl
  | sending _ obligation _ _ _ _ _ _ _ _ _ _ _ _ => exact guarded_inserted obligation rfl
  | settle resolving called obligation _ _ resultRef settling _ _ _ _ _ =>
      simp only [called, Call.bearer, Option.some.injEq, Prod.mk.injEq] at bearer
      obtain ⟨rfl, rfl⟩ := bearer
      exact guarded_amended obligation (fun row => row.settled resolving.statusValue resultRef) settling.row
        (fun _ => rfl) settling.fence rfl
  | progress _ _ _ _ _ _ _ _ _ _ => exact guarded_same rfl
  | handle _ _ _ => exact guarded_same rfl
  | noted _ => exact guarded_same rfl
  | step taken called obligation row found _ fence _ _ _ _ =>
      simp only [called, Call.bearer, Option.some.injEq, Prod.mk.injEq] at bearer
      obtain ⟨rfl, rfl⟩ := bearer
      by_cases paused : row.mode = .paused
      · refine guarded_same ?_
        simp only [Store.step, paused, if_true]
        rfl
      · refine guarded_amended obligation Obligation.renewed found (fun _ => rfl) fence ?_
        simp only [Store.step, paused, if_false]
        rfl
  | stop _ _ _ _ _ _ _ => exact guarded_same rfl
  | arm _ _ _ _ => exact guarded_same rfl
  | advance _ _ _ _ _ _ _ _ _ _ _ _ _ _ _ _ => exact guarded_same rfl
  | hand _ _ _ _ _ _ _ => exact guarded_same rfl
  | claim _ _ _ _ called _ _ _ _ => simp [called, Call.bearer] at bearer
  | published _ => exact guarded_same rfl
  | failed _ _ => exact guarded_same rfl

theorem Settling.guarded {store : Store} {obligation : Obligation}
    {status : ObligationStatus} {results : List Result} {outcome : Outcome} {after : Store} {resultRef : String}
    (settling : Settling store obligation actorId activationId status results outcome) (request : Request)
    (same : after.obligations = (store.answered request obligation status resultRef results).obligations) :
    Guarded actorId activationId store after :=
  guarded_amended obligation (fun row => row.settled status resultRef) settling.row (fun _ => rfl) settling.fence same

theorem Move.guarded
    (bearer : call.bearer = some (actorId, activationId)) (move : Move call start next) :
    Guarded actorId activationId start.store next.store := by
  cases move with
  | restore restored => exact guarded_same restored.framed.obligations
  | edit edited => exact edited.guarded bearer
  | respond responding called request _ _ _ _ _ _ _ _ settling _ _ _ =>
      simp only [called, Call.bearer, Option.some.injEq, Prod.mk.injEq] at bearer
      obtain ⟨rfl, rfl⟩ := bearer
      exact settling.guarded request rfl
  | reply responding called request _ _ _ _ _ _ _ _ settling _ _ _ _ _ _ _ _ _ _ _ =>
      simp only [called, Call.bearer, Option.some.injEq, Prod.mk.injEq] at bearer
      obtain ⟨rfl, rfl⟩ := bearer
      exact settling.guarded request rfl
  | report _ _ => exact guarded_same rfl

theorem Move.steady
    (bearer : call.bearer = some (actorId, activationId)) (move : Move call start next) :
    Steady start.store next.store := by
  cases move with
  | restore restored => exact restored.steady
  | edit edited => exact edited.steady bearer
  | respond _ _ _ _ _ _ _ _ _ _ _ _ _ _ _ => exact steady_revoked _ rfl rfl
  | reply _ _ request _ obligation _ _ status results _ resultRef _ _ _ _ _ made _ _ _ _ _ _ =>
      have settled : Steady start.store (start.store.answered request obligation status resultRef results) :=
        steady_revoked _ rfl rfl
      exact settled.trans (steady_created rfl rfl made.status)
  | report _ _ => exact steady_same rfl rfl

theorem Moves.guarded {start final : Database}
    (bearer : call.bearer = some (actorId, activationId)) (moves : Moves call start final) (sound : Sound start.store) :
    Guarded actorId activationId start.store final.store := by
  have both : Steady start.store final.store ∧ Guarded actorId activationId start.store final.store := by
    induction moves with
    | refl => exact ⟨.refl _, guarded_same rfl⟩
    | tail _ move before =>
        obtain ⟨steady, guarded⟩ := before
        refine ⟨steady.trans (move.steady bearer), fun id old found => ?_⟩
        rcases guarded id old found with same | fence
        · exact (move.guarded bearer id old same).imp_right fun fence => fence.earlier steady sound
        · exact .inr fence
  exact both.2

theorem performed_guarded
    (bearer : call.bearer = some (actorId, activationId)) (world : World) (store : Store) (sound : Sound store) :
    Guarded actorId activationId store (perform world call store).store :=
  (performed_moves world call store sound).guarded bearer sound

theorem assignment_claims_fence (front : Run) :
    (∀ back id old new, (run front initialized).obligation? id = some old →
      (run (front ++ back) initialized).obligation? id = some new → old.generation ≤ new.generation ∧
        (new.generation = old.generation → ∀ activationId, old.claimedActivationId = some activationId →
          new.claimedActivationId = some activationId) ∧ (old.status ≠ .opened → new = old)) ∧
    (∀ world call actorId activationId, call.bearer = some (actorId, activationId) →
      ∀ id old, (run front initialized).obligation? id = some old →
        (perform world call (run front initialized)).store.obligation? id ≠ some old →
          Fenced (run front initialized) old actorId activationId) ∧
    (∀ world call id old new, (run front initialized).obligation? id = some old →
      (perform world call (run front initialized)).store.obligation? id = some new →
        old.status = .opened → new.status ≠ .opened →
          (run front initialized).resultsFor (obligationSource id) = [] ∧
          ∃ result, (perform world call (run front initialized)).store.resultsFor (obligationSource id) = [result] ∧
            result.status = new.status.text) ∧
    (∀ request ∈ (run front initialized).requests, ∀ id, request.obligationId = some id →
      ∃ obligation, (run front initialized).obligation? id = some obligation ∧
        ((request.status = .replyReady ∨ request.status = .handled) ↔ request.terminalResponseId ≠ none) ∧
        (request.terminalResponseId ≠ none ↔ obligation.status ≠ .opened)) := by
  obtain ⟨sound, managed⟩ := run_managed front
  refine ⟨fun back id old new found after => ?_, fun world call actorId activationId bearer id old found changed => ?_,
    fun world call id old new found after opened ended => ⟨?_, ?_⟩, fun request listed id linked => ?_⟩
  · obtain ⟨next, later, succeeds⟩ := run_follows front back id old found
    cases after.symm.trans later
    exact ⟨succeeds.generation, succeeds.claim, succeeds.closed⟩
  · exact (performed_guarded bearer world _ sound id old found).resolve_left changed
  · refine managed.silent id fun obligation row => ?_
    cases row.symm.trans found
    exact opened
  · exact (performed_managed world call _ sound managed).told id new after ended
  · obtain ⟨obligation, row, _, _⟩ := sound.links.pinned request listed id linked
    obtain ⟨answered, responded⟩ := managed.answered request listed id obligation linked row
    exact ⟨obligation, row, answered.trans responded.symm, responded⟩

end OrchestratorEngine.Continuity
