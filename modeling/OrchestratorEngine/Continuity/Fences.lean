import OrchestratorEngine.Continuity.Performed

set_option autoImplicit false

namespace OrchestratorEngine.Continuity

open Foundation

-- What may become of an obligation: its generations rise, the claim of a
-- generation stays what it is, and what is settled never changes again.
structure Succeeds (old new : Obligation) : Prop where
  generation : old.generation ≤ new.generation
  assignee : new.assigneeActor = old.assigneeActor
  claim : new.generation = old.generation → ∀ id, old.claimedActivationId = some id → new.claimedActivationId = some id
  closed : old.status ≠ .opened → new = old

theorem Succeeds.refl (obligation : Obligation) : Succeeds obligation obligation :=
  ⟨le_rfl, rfl, fun _ _ same => same, fun _ => rfl⟩

theorem Succeeds.trans {first second third : Obligation} (lower : Succeeds first second)
    (upper : Succeeds second third) :
    Succeeds first third := by
  refine ⟨lower.generation.trans upper.generation, upper.assignee.trans lower.assignee, fun same id claimed => ?_,
    fun closed => ?_⟩
  · have rises := lower.generation
    have goes := upper.generation
    exact upper.claim (by omega) id (lower.claim (by omega) id claimed)
  · have kept := lower.closed closed
    rw [upper.closed (kept ▸ closed), kept]

def Follows (before after : Store) : Prop :=
  ∀ id old, before.obligation? id = some old → ∃ new, after.obligation? id = some new ∧ Succeeds old new

theorem Follows.refl (store : Store) : Follows store store := fun _ old found => ⟨old, found, .refl old⟩

theorem Follows.trans {first second third : Store} (lower : Follows first second) (upper : Follows second third) :
    Follows first third := by
  intro id old found
  obtain ⟨middle, between, here⟩ := lower id old found
  obtain ⟨new, last, there⟩ := upper id middle between
  exact ⟨new, last, here.trans there⟩

variable {before after : Store}

theorem follows_same (same : after.obligations = before.obligations) : Follows before after := by
  intro id old found
  refine ⟨old, ?_, .refl old⟩
  unfold Store.obligation? at found ⊢
  rw [same]
  exact found

theorem follows_amended (obligation : Obligation) (change : Obligation → Obligation)
    (row : before.obligation? obligation.obligationId = some obligation)
    (stable : ∀ other, (change other).obligationId = other.obligationId)
    (moved : Succeeds obligation (change obligation))
    (same : after.obligations = (amendObligation obligation.obligationId change before).obligations) :
    Follows before after := by
  intro id old found
  have changed : after.obligation? id = (before.obligation? id).map fun other =>
      if other.obligationId = obligation.obligationId then change other else other := by
    unfold Store.obligation? at *
    rw [same]
    exact amend_obligation_row before obligation.obligationId id change stable
  refine ⟨_, changed.trans (congrArg _ found), ?_⟩
  dsimp only
  split
  · rename_i own
    have sameId := obligation_row_id found
    rw [← sameId, own, row] at found
    cases found
    exact moved
  · exact .refl old

theorem follows_inserted (obligation : Option Obligation)
    (same : after.obligations = before.obligations ++ obligation.toList) : Follows before after := by
  intro id old found
  refine ⟨old, ?_, .refl old⟩
  unfold Store.obligation? at found ⊢
  rw [same, row?, List.find?_append]
  exact Option.or_eq_some_iff.mpr (.inl found)

theorem claim_follows {before : Store} (world : World) (activation : Activation) (actorId : String)
    (expectedEpoch : Nat) (obligation : Option Obligation) (request : Option Request)
    (granted : grant before activation actorId expectedEpoch = .ok (.fresh obligation request)) :
    Follows before (recordClaim world activation obligation request
      (claimActivation activation.activationId world.now before)) := by
  obtain ⟨claimant, facts⟩ := grant_fresh granted
  unfold recordClaim
  split
  · exact follows_same rfl
  · rename_i claims
    cases obligation with
    | none =>
        cases request with
        | none => exact follows_same rfl
        | some linked =>
            simp only
            split <;> exact follows_same rfl
    | some held =>
        have assignment : claimant.assignment activation = true := by
          by_contra plain
          exact absurd (facts.plain (by simpa using plain)) (by simp)
        obtain ⟨current, resolved, same, opened, _, fence⟩ := facts.assignment assignment
        cases same
        have found : before.obligation? held.obligationId = some held := by
          have named := facts.named
          simp only [Continuity.claimant, bind_ok_iff] at named
          obtain ⟨_, _, _, _, obligationId, _, finish⟩ := named
          cases finish
          obtain ⟨id, _, was⟩ := Option.bind_eq_some_iff.mp resolved
          exact obligation_row_id was ▸ was
        have moved (generation : Nat) : Succeeds held (held.claimedBy activation.activationId generation
          world.now) := by
          refine ⟨le_rfl, rfl, fun _ id claimed => ?_, fun closed => absurd opened closed⟩
          rcases fence id claimed with rfl | recovery
          · rfl
          · exact absurd recovery claims
        cases request <;> exact follows_amended held
          (fun kept => kept.claimedBy activation.activationId held.generation world.now) found
          (fun _ => rfl) (moved _) rfl

theorem Edit.follows {call : Call} (edit : Edit call before after) :
    Follows before after := by
  cases edit with
  | enlist _ _ _ _ _ => exact follows_same rfl
  | rebind _ _ _ _ _ _ _ _ => exact follows_same rfl
  | renew _ _ obligation row opened _ _ =>
      exact follows_amended obligation Obligation.renewed row (fun _ => rfl)
        ⟨Nat.le_succ _, rfl, fun same => absurd same (Nat.succ_ne_self _), fun closed => absurd opened closed⟩ rfl
  | begin _ _ _ => exact follows_same rfl
  | opening obligation _ _ _ _ _ _ _ _ => exact follows_inserted (some obligation) rfl
  | sending _ obligation _ _ _ _ _ _ _ _ _ _ _ _ => exact follows_inserted obligation rfl
  | settle resolving _ obligation _ _ resultRef settling _ _ _ _ _ =>
      exact follows_amended obligation (fun row => row.settled resolving.statusValue resultRef)
        settling.row (fun _ => rfl)
        ⟨le_rfl, rfl, fun _ _ same => same, fun closed => absurd settling.opened closed⟩ rfl
  | progress _ _ _ _ _ _ _ _ _ _ => exact follows_same rfl
  | handle _ _ _ => exact follows_same rfl
  | noted _ => exact follows_same rfl
  | step _ _ obligation row found opened _ _ _ _ _ =>
      by_cases paused : row.mode = .paused
      · refine follows_same ?_
        simp only [Store.step, paused, if_true]
        rfl
      · refine follows_amended obligation Obligation.renewed found (fun _ => rfl)
          ⟨Nat.le_succ _, rfl, fun same => absurd same (Nat.succ_ne_self _), fun closed => absurd opened closed⟩ ?_
        simp only [Store.step, paused, if_false]
        rfl
  | stop _ _ _ _ _ _ _ => exact follows_same rfl
  | arm _ _ _ _ => exact follows_same rfl
  | advance _ _ _ _ _ _ _ _ _ _ _ _ _ _ _ _ => exact follows_same rfl
  | hand _ _ _ _ _ _ _ => exact follows_same rfl
  | claim world activation actorId epoch _ _ obligation request granted =>
      exact claim_follows world activation actorId epoch obligation request granted
  | published _ => exact follows_same rfl
  | failed _ _ => exact follows_same rfl

theorem settle_follows {store : Store} {obligation : Obligation} {actorId : String} {activationId : Nat}
    {status : ObligationStatus} {results : List Result} {outcome : Outcome}
    (settling : Settling store obligation actorId activationId status results outcome) (request : Request)
    (resultRef : String) : Follows store (store.answered request obligation status resultRef results) :=
  follows_amended obligation (fun row => row.settled status resultRef) settling.row (fun _ => rfl)
    ⟨le_rfl, rfl, fun _ _ same => same, fun closed => absurd settling.opened closed⟩ rfl

theorem Move.follows {call : Call} {start next : Database} (move : Move call start next) :
    Follows start.store next.store := by
  cases move with
  | restore restored => exact follows_same restored.framed.obligations
  | edit edited => exact edited.follows
  | respond _ _ request _ _ _ _ _ _ _ resultRef settling _ _ _ =>
      exact (settle_follows settling request resultRef).trans (follows_same rfl)
  | reply _ _ request _ _ _ _ _ _ _ resultRef settling _ _ _ _ _ _ _ _ _ _ _ =>
      exact (settle_follows settling request resultRef).trans (follows_same rfl)
  | report _ _ => exact follows_same rfl

theorem follows_endures : Enduring Follows :=
  ⟨.refl, fun _ _ _ => .trans, fun _ _ _ move _ => move.follows⟩

theorem run_follows (front back : Run) :
    Follows (run front initialized) (run (front ++ back) initialized) := by
  rw [run_append]
  exact follows_endures.run back _ (reachable_sound ⟨front, rfl⟩)

end OrchestratorEngine.Continuity
