import OrchestratorEngine.Continuity.Acknowledgements

set_option autoImplicit false

namespace OrchestratorEngine.Continuity

open Foundation

theorem product_fenced (work : Work) (start final : Database) (done : Unit)
    (distinct : (start.store.activations.map Activation.activationId).Nodup)
    (run : revokeProductActivationsOnComplete work.workId start = .ok (done, final)) :
    ∃ chosen, final = ⟨start.store.revokeWhere chosen, start.log⟩ ∧ Fencing start.store work .complete chosen := by
  simp only [revokeProductActivationsOnComplete, Tx.bind_done, Tx.read_done, Tx.edit_done] at run
  obtain ⟨fenced, start, ⟨filtered, rfl⟩, rfl⟩ := run
  obtain ⟨total, members⟩ := filter_ok_inv _ _ _ filtered
  have single : ∀ activation ∈ start.store.activations,
      activation.activationId ∈ fenced.map Activation.activationId ↔ activation ∈ fenced := by
    intro activation listed
    refine ⟨fun named => ?_, fun member => List.mem_map_of_mem member⟩
    obtain ⟨other, member, same⟩ := List.mem_map.mp named
    have also := (List.mem_filter.mp ((members other).mp member).1).1
    exact row_unique Activation.activationId _ distinct other activation also listed same ▸ member
  refine ⟨_, rfl, fun activation listed chosen => ?_, fun _ activation listed own active => ?_, fun ongoing =>
    absurd rfl ongoing⟩
  · have member := (single activation listed).mp (of_decide_eq_true chosen)
    have facts := (List.mem_filter.mp ((members activation).mp member).1).2
    simp only [Bool.and_eq_true, decide_eq_true_eq] at facts
    exact facts.1
  · have input : activation ∈ start.store.activations.filter
        fun activation => decide (activation.workId = work.workId) && activation.active :=
      List.mem_filter.mpr ⟨listed, by simp [own, active]⟩
    obtain ⟨verdict, answered⟩ := total activation input
    obtain ⟨talk, communicated, flipped⟩ := (bind_ok_iff _ _ _).mp answered
    rw [decide_eq_true_eq, single activation listed, members activation]
    have tested : (do return !(← communication start.store activation) : Except Error Bool) = .ok (!talk) := by
      rw [communicated]
      rfl
    rw [tested]
    refine ⟨?_, talk, communicated⟩
    rw [communicated]
    cases talk <;> simp [input]

theorem control_fenced (store : Store) (work : Work) (mode : WorkMode) (ongoing : mode ≠ .complete) :
    Fencing store work mode fun activation =>
      decide (activation.workId = work.workId ∧ activation.actorId = work.ownerActor) &&
      activation.reason.ownerControl &&
        !(decide (activation.reason = .workRecovery) && names Mark.request? activation.manifest) := by
  refine ⟨fun activation _ chosen => ?_, fun complete => absurd complete ongoing, fun _ activation _ => ?_⟩
  · simp only [Bool.and_eq_true, decide_eq_true_eq] at chosen
    exact chosen.1.1.1
  · simp only [Bool.and_eq_true, decide_eq_true_eq, Bool.not_eq_true', Bool.and_eq_false_iff, decide_eq_false_iff_not,
      not_and, Bool.not_eq_true]
    tauto

variable (world : World)

theorem transfer_moves (handover : Transfer) (start final : Database) (created : Option Nat)
    (run : transfer world handover start = .ok (created, final)) : Moves (.transfer handover) start final := by
  simp only [transfer, Tx.bind_done, Tx.lift_done, Tx.read_done, Tx.ask_done, Tx.edit_done] at run
  obtain ⟨_, _, ⟨_, rfl⟩, work, _, ⟨owner, rfl⟩, _, _, ⟨authority, rfl⟩, _, _, ⟨mutable, rfl⟩, toActor, start, ⟨_, rfl⟩,
    _, _, rfl, _, _, rfl, updated, _, ⟨moved, rfl⟩, stopped, _, ⟨rfl, rfl⟩, run⟩ := run
  have row := require_work_ok _ _ _ owner
  have workId := work_row_id row
  have ongoing : work.mode ≠ .complete := by simpa [assertMutableWork] using mutable
  simp only [assertOwnerRevision, bind_ok_iff, refuse_ok_iff, ne_eq, not_not] at authority
  obtain ⟨_, owned, _⟩ := authority
  have handed : Edit (.transfer handover) start.store
      (start.store.hand handover.workId handover.fromActor handover.toActor) := by
    rw [← workId]
    exact .hand handover rfl work (workId ▸ row) owned workId ongoing
  have changed : (start.store.hand handover.workId handover.fromActor handover.toActor).work? handover.workId =
      some (work.transferred handover.toActor) := by
    change row? _ _ (amendWork handover.workId _ start.store).works = _
    rw [amendWork, row_map Work.workId _ (fun other => by split <;> rfl)]
    rw [show row? Work.workId handover.workId start.store.works = some work from row]
    simp [workId]
  have same := Option.some.inj ((require_work_ok _ _ _ moved).symm.trans changed)
  subst same
  split at run
  · exact (Tx.pure_done _).mp run |>.2 ▸ .single (.edit handed)
  · rename_i quiet
    simp only [Tx.bind_done, Tx.pure_done] at run
    obtain ⟨id, _, made, _, rfl⟩ := run
    have grown := create_grows .ordinary world (work.transferred handover.toActor) _ _ _ _ _ _ _ id
      (changed ▸ congrArg _ workId) made
      (fun activation _ actor generation reason manifest _ => .handedOver rfl ongoing reason actor generation manifest)
      (.inr (not_not.mp quiet))
    exact .tail (.single (.edit handed)) (.restore (.grow grown))

theorem claim_moves (activationId : Nat) (actorId : String) (expectedEpoch : Nat)
    (start final : Database) (reply : ClaimReply)
    (run : claim world activationId actorId expectedEpoch start = .ok (reply, final)) :
    Moves (.claim activationId actorId expectedEpoch) start final := by
  simp only [claim, Tx.bind_done, Tx.lift_done, Tx.ask_done] at run
  obtain ⟨_, _, ⟨_, rfl⟩, _, start, ⟨rfl, rfl⟩, run⟩ := run
  cases row : start.store.activation? activationId with
  | none => simp [row] at run
  | some activation =>
      have named : activation.activationId = activationId := (row_mem _ _ _ _ row).2
      subst named
      simp only [row, Tx.bind_done, Tx.read_done] at run
      obtain ⟨granted, start, ⟨allowed, rfl⟩, run⟩ := run
      cases granted with
      | alreadyClaimed existing => exact (Tx.pure_done _).mp run |>.2 ▸ .refl
      | again => exact (Tx.pure_done _).mp run |>.2 ▸ .refl
      | fresh obligation request =>
          simp only [Tx.bind_done, Tx.edit_done] at run
          obtain ⟨_, _, rfl, _, _, rfl, run⟩ := run
          have claimed : Move (.claim activation.activationId actorId expectedEpoch) start _ :=
            .edit (.claim world activation actorId expectedEpoch rfl row obligation request allowed)
          refine .head claimed ?_
          generalize (⟨recordClaim world activation obligation request
            (claimActivation activation.activationId world.now start.store), start.log⟩ : Database) = now at run
          split at run
          · simp only [claimIncident, Tx.bind_done, Tx.ask_done] at run
            obtain ⟨_, _, ⟨_, now, ⟨rfl, rfl⟩, noted⟩, finish⟩ := run
            obtain ⟨rfl, rfl⟩ := (Tx.pure_done _).mp finish
            cases queued : now.store.recoveryIncidents.find? fun incident =>
                decide (incident.activationId = some activation.activationId) with
            | none => simp [queued] at noted
            | some incident =>
                simp only [queued, Tx.bind_done, Tx.require_done, Tx.ask_done] at noted
                obtain ⟨_, _, ⟨_, rfl⟩, _, now, ⟨rfl, rfl⟩, noted⟩ := noted
                cases armed : now.store.policy? activation.workId with
                | none => simp [armed] at noted
                | some policy =>
                    simp only [armed, Tx.edit_done] at noted
                    subst noted
                    exact .single (.restore (.grow (.beside now.store.recoveryPolicies
                      (putIncident (incident.claimed policy world.now) now.store).recoveryIncidents
                      now.store.responses now.store.metadata)))
          · exact (Tx.pure_done _).mp run |>.2 ▸ .refl

def Store.moved (store : Store) (step : WorkStep) (chosen : Activation → Bool) : Store :=
  (resolveOwnerIncidents step.workId (amendWork step.workId (fun row => row.advanced step.mode) store)).revokeWhere
  chosen

theorem moved_reckoned (store : Store) (step : WorkStep) (chosen : Activation → Bool) :
    Reckoned store (store.moved step chosen) := by
  refine ⟨rfl, rfl, rfl, rfl, rfl, fun activation listed claimed => ?_⟩
  obtain ⟨old, present, rfl⟩ := List.mem_map.mp listed
  rw [revoke] at claimed ⊢
  split at claimed
  · cases claimed
  · rename_i spared
    rw [if_neg spared]
    exact present

theorem moved_work {store : Store} {step : WorkStep} {work : Work} (chosen : Activation → Bool)
    (row : store.work? step.workId = some work) :
    (store.moved step chosen).work? step.workId = some (work.advanced step.mode) := by
  change row? _ _ (amendWork step.workId _ store).works = _
  rw [amendWork, row_map Work.workId _ (fun other => by split <;> rfl)]
  rw [show row? Work.workId step.workId store.works = some work from row]
  simp [work_row_id row]

def Store.reckoned (store : Store) (step : WorkStep) (chosen : Activation → Bool) (handledResults : List HandledResult)
    (waits : List Wait) (replays : Dict String (Dict Outcome Nat)) : Store :=
  let moved := store.moved step chosen
  { moved with handledResults, waits, metadata := { moved.metadata with pendingReplays := replays } }

variable (step : WorkStep)

theorem wait_work_restores (sources : List SourceKey) (before : Store) (work : Work)
    (chosen : Activation → Bool) (log : List Creation) (final : Database) (created : Option Nat)
    (row : before.work? step.workId = some work) (owner : work.ownerActor = step.actorId) (mode : step.mode = .waiting)
    (run : waitWork world step sources (work.revision + 1) ⟨before.moved step chosen, log⟩ = .ok (created, final)) :
    ∃ handledResults waits replays, Acknowledging before step work handledResults waits replays ∧
      (∃ wait : Wait, wait.workId = step.workId ∧ waits = put Wait.workId wait before.waits) ∧
      Restores .ordinary ⟨before.reckoned step chosen handledResults waits replays, log⟩ final := by
  simp only [waitWork, Tx.bind_done, Tx.ask_done, Tx.edit_done] at run
  obtain ⟨_, _, ⟨rfl, rfl⟩, acknowledged, _, ledger, _, _, decisions, _, _, rfl, _, middle, recorded,
    stopped, _, ⟨rfl, rfl⟩,
    run⟩ := run
  obtain ⟨named, again, rows, resolved, decided, rfl, reckoning, covered⟩ := next_handled_reckoning _ _
    _ _ _ _ _ _ ledger
  have decisions := replay_decisions_done step.workId (work.revision + 1) step.handledResults
    step.reprocessResults named
    again _ _ _ (by exact resolved) (by exact decided) decisions
  subst decisions
  refine ⟨rows, put Wait.workId ⟨step.workId, ((before.wait? step.workId).map Wait.generation).getD
    0 + 1, step.waitMode,
    sources, acknowledged⟩ before.waits, before.metadata.pendingReplays.set step.workId
    (duly (pendingReplays before step.workId) named again (work.revision + 1)), ?_, ⟨_, rfl, rfl⟩, ?_⟩
  · refine reckoning.acknowledging (moved_reckoned before step chosen) decided (fun wait listed same => ?_)
      (fun workId foreign => ?_) (fun complete => by simp [mode] at complete) (fun _ => ?_)
    · rcases (mem_put _ _ _ _).mp listed with rfl | ⟨_, different⟩
      · exact covered
      · exact absurd same different
    · rw [Dict.get_set, if_neg foreign]
      rfl
    · rw [Dict.get_set, if_pos rfl, Option.getD_some]
      rfl
  · have restored := reconcile_sources_restores .ordinary world sources _ _ _ recorded
    split at run
    · rename_i quiet
      refine restored.trans (Grows.restores (evaluate_wait_grows .ordinary world _ _ final created (.inr ?_) run))
      intro other found
      have kept := (restored.framed.work step.workId).symm.trans found
      have same := Option.some.inj ((moved_work chosen row).symm.trans kept)
      subst same
      change effectiveExplicitStop _ work.workId work.ownerActor = none
      rw [work_row_id row, owner]
      exact quiet
    · exact (Tx.pure_done _).mp run |>.2 ▸ restored

theorem continue_work_grows (work : Work) (start final : Database)
    (created : Option Nat) (row : start.store.work? step.workId = some (work.advanced step.mode))
    (owner : work.ownerActor = step.actorId)
    (placed : ∀ old ∈ start.store.activations, old.workId = step.workId → old.workRevision ≤ work.revision)
    (run : (do
      let stopped ← Tx.ask fun store => effectiveExplicitStop store step.workId step.actorId
      if step.mode = .continues ∧ stopped = none then do
        let created ← createActivation world (work.advanced step.mode) step.actorId .continueCheckpoint []
          (some (world.now + step.delaySeconds)) none
        return some created
      else return none : Transaction (Option Nat)) start = .ok (created, final)) : Grows .ordinary start final := by
  have named : (work.advanced step.mode).workId = step.workId := work_row_id row
  have workId : work.workId = step.workId := named
  simp only [Tx.bind_done, Tx.ask_done] at run
  obtain ⟨stopped, start, ⟨rfl, rfl⟩, run⟩ := run
  split at run
  · rename_i going
    simp only [Tx.bind_done, Tx.pure_done] at run
    obtain ⟨id, _, made, _, rfl⟩ := run
    refine .one (create_grows .ordinary world (work.advanced step.mode) _ _ _ _ _ _ _ id (named ▸ row) made
      (fun activation _ actor generation reason manifest _ => ?_) (.inr (named ▸ going.2)))
    refine .continued going.1 (.renewed fun old listed place _ revision _ => ?_) reason
      (actor.trans owner.symm) generation
      manifest
    have bound := placed old listed (place.trans workId)
    simp only [Work.advanced] at revision
    omega
  · exact (Tx.pure_done _).mp run |>.2 ▸ .refl

theorem leave_wait_grows (before : Store) (work : Work) (chosen : Activation → Bool)
    (log : List Creation) (final : Database) (created : Option Nat) (sound : Sound before)
    (row : before.work? step.workId = some work) (owner : work.ownerActor = step.actorId)
    (only : step.reprocessResults = [])
    (run : leaveWait world step (work.advanced step.mode) (work.revision + 1) ⟨before.moved step chosen, log⟩ =
      .ok (created, final)) :
    ∃ handledResults replays,
      Acknowledging before step work handledResults
        (before.waits.filter fun wait => decide (wait.workId ≠ step.workId)) replays ∧
      Grows .ordinary ⟨before.reckoned step chosen handledResults
        (before.waits.filter fun wait => decide (wait.workId ≠ step.workId)) replays, log⟩ final := by
  simp only [leaveWait, Tx.bind_done] at run
  obtain ⟨_, _, ledger, _, _, decisions, run⟩ := run
  obtain ⟨named, rows, resolved, rfl, reckoning⟩ := persist_handled_reckoning _ _ _ _ _ _ ledger
  have decisions := replay_decisions_done step.workId (work.revision + 1) step.handledResults [] named
    [] _ _ _ (by exact resolved) rfl decisions
  subst decisions
  have placed : ∀ old ∈ (before.moved step chosen).activations, old.workId = step.workId →
      old.workRevision ≤ work.revision := by
    intro old listed place
    obtain ⟨origin, present, rfl⟩ := List.mem_map.mp listed
    have kept := revoke_kept chosen origin
    obtain ⟨other, found, bound⟩ := sound.placed origin present
    rw [← kept.workId, place, row] at found
    cases found
    exact kept.workRevision ▸ bound
  have decided : resolveOutcomeAliases (before.moved step chosen) step.reprocessResults = .ok [] := by
    rw [only]
    rfl
  have apart : ∀ wait ∈ before.waits.filter (fun wait => decide (wait.workId ≠ step.workId)),
    wait.workId ≠ step.workId :=
    fun wait listed => of_decide_eq_true (List.mem_filter.mp listed).2
  split at run
  · rename_i complete
    simp only [Tx.bind_done, Tx.edit_done] at run
    obtain ⟨_, _, rfl, _, _, rfl, run⟩ := run
    refine ⟨rows, (before.metadata.pendingReplays.set step.workId (duly (pendingReplays before step.workId) named []
      (work.revision + 1))).without [step.workId], ?_, ?_⟩
    · refine reckoning.acknowledging (moved_reckoned before step chosen) decided
        (fun wait listed same => absurd same (apart wait listed)) (fun workId foreign => ?_) (fun _ => rfl)
        (fun ongoing => absurd complete ongoing)
      simp only [Dict.get_without, Dict.get_set, List.mem_singleton, foreign, if_false]
      rfl
    · exact continue_work_grows world step work _ final created (moved_work chosen row) owner placed
        ((Tx.bind_done _ _).mpr run)
  · rename_i ongoing
    simp only [Tx.bind_done, Tx.edit_done] at run
    obtain ⟨_, _, rfl, run⟩ := run
    refine ⟨rows, before.metadata.pendingReplays.set step.workId (duly (pendingReplays before step.workId) named []
      (work.revision + 1)), ?_, ?_⟩
    · refine reckoning.acknowledging (moved_reckoned before step chosen) decided
        (fun wait listed same => absurd same (apart wait listed)) (fun workId foreign => ?_)
        (fun complete => absurd complete ongoing) (fun _ => ?_)
      · simp only [Dict.get_set, foreign, if_false]
        rfl
      · rw [Dict.get_set, if_pos rfl, Option.getD_some]
        rfl
    · exact continue_work_grows world step work _ final created (moved_work chosen row) owner placed
        ((Tx.bind_done _ _).mpr run)

def Advancing (step : WorkStep) (start final : Database) : Prop :=
  ∃ work chosen handledResults waits replays, start.store.work? step.workId = some work ∧
    work.mode ≠ .complete ∧ Acknowledging start.store step work handledResults waits replays ∧
    Edit (.checkpoint step) start.store (start.store.advance step.workId step.mode chosen handledResults
    waits replays) ∧
    Restores .ordinary ⟨start.store.advance step.workId step.mode chosen handledResults waits replays, start.log⟩ final

theorem fenced_advances (sources : List SourceKey) (work : Work)
    (chosen : Activation → Bool) (start final : Database) (created : Option Nat) (sound : Sound start.store)
    (checked : step.check = .ok sources) (row : start.store.work? step.workId = some work)
    (owner : work.ownerActor = step.actorId) (ongoing : work.mode ≠ .complete)
    (required : step.mode = .complete → openRequired start.store step.workId = [])
    (fencing : Fencing start.store work step.mode chosen)
    (run : (do
      let updated ← Tx.read fun store => requireWork store step.workId
      let activation ← if step.mode = .waiting then waitWork world step sources (work.revision + 1)
        else leaveWait world step updated (work.revision + 1)
      let _ ← reconcileRequestDeliveries world (some step.workId)
      return activation : Transaction (Option Nat)) ⟨start.store.moved step chosen, start.log⟩ = .ok (created, final)) :
    Advancing step start final := by
  have workId := work_row_id row
  simp only [Tx.bind_done, Tx.read_done] at run
  obtain ⟨updated, _, ⟨found, rfl⟩, run⟩ := run
  have phases : ∃ activation middle delivered, (if step.mode = .waiting then
      waitWork world step sources (work.revision + 1) else leaveWait world step updated (work.revision + 1))
      ⟨start.store.moved step chosen, start.log⟩ = .ok (activation, middle) ∧
      reconcileRequestDeliveries world (some step.workId) middle = .ok (delivered, final) := by
    by_cases mode : step.mode = .waiting
    · simp only [if_pos mode] at run ⊢
      obtain ⟨activation, middle, reckoned, rest⟩ := (Tx.bind_done _ _).mp run
      obtain ⟨delivered, last, reconciled, finish⟩ := (Tx.bind_done _ _).mp rest
      obtain ⟨_, rfl⟩ := (Tx.pure_done _).mp finish
      exact ⟨activation, middle, delivered, reckoned, reconciled⟩
    · simp only [if_neg mode] at run ⊢
      obtain ⟨activation, middle, reckoned, rest⟩ := (Tx.bind_done _ _).mp run
      obtain ⟨delivered, last, reconciled, finish⟩ := (Tx.bind_done _ _).mp rest
      obtain ⟨_, rfl⟩ := (Tx.pure_done _).mp finish
      exact ⟨activation, middle, delivered, reckoned, reconciled⟩
  obtain ⟨activation, middle, delivered, reckoned, reconciled⟩ := phases
  have same := Option.some.inj ((require_work_ok _ _ _ found).symm.trans (moved_work chosen row))
  subst same
  have advancing : ∃ handledResults waits replays, Acknowledging start.store step work handledResults waits replays ∧
      (step.mode = .waiting → ∃ wait : Wait, wait.workId = work.workId ∧ waits = put Wait.workId wait
      start.store.waits) ∧
      (step.mode ≠ .waiting → waits = start.store.waits.filter fun wait => decide (wait.workId ≠ work.workId)) ∧
      Restores .ordinary ⟨start.store.reckoned step chosen handledResults waits replays, start.log⟩ middle := by
    split at reckoned
    · rename_i mode
      obtain ⟨rows, waits, replays, acknowledging, written, restored⟩ :=
        wait_work_restores world step sources start.store work chosen start.log middle activation row
        owner mode reckoned
      exact ⟨rows, waits, replays, acknowledging, fun _ => workId ▸ written, fun other => absurd mode other, restored⟩
    · rename_i mode
      have only : step.reprocessResults = [] := by
        simp only [WorkStep.check, bind_ok_iff, refuse_ok_iff] at checked
        obtain ⟨_, _, _, _, _, _, _, _, _, _, _, _, _, _, _, only, _⟩ := checked
        by_contra present
        exact only ⟨mode, present⟩
      obtain ⟨rows, replays, acknowledging, grown⟩ :=
        leave_wait_grows world step start.store work chosen start.log middle activation sound row owner only reckoned
      exact ⟨rows, _, replays, acknowledging, fun other => absurd other mode, fun _ => by rw [workId], grown.restores⟩
  obtain ⟨rows, waits, replays, acknowledging, written, left, restored⟩ := advancing
  have edit : Edit (.checkpoint step) start.store
      (start.store.advance work.workId step.mode chosen rows waits replays) :=
    .advance step rfl work (workId ▸ row) owner workId ongoing (workId ▸ required) chosen fencing rows
      waits written left
      replays acknowledging
  rw [workId] at edit
  have beside : Growth .ordinary ⟨start.store.advance step.workId step.mode chosen rows waits replays, start.log⟩
      ⟨start.store.reckoned step chosen rows waits replays, start.log⟩ :=
    .beside start.store.recoveryPolicies (resolveOwnerIncidents step.workId start.store).recoveryIncidents
      start.store.responses start.store.metadata
  have rest := restored.head (.grow beside)
  have moved : Moves (.checkpoint step) start middle := .head (.edit edit) (Restores.moves rest)
  have grown := reconcile_deliveries_grows .ordinary world _ middle final _ (moved.sound sound).links reconciled
  exact ⟨work, chosen, rows, waits, replays, row, ongoing, acknowledging, edit, rest.trans grown.restores⟩

theorem checkpoint_advances (start final : Database) (created : Option Nat)
    (sound : Sound start.store) (run : checkpoint world step start = .ok (created, final)) :
    Advancing step start final := by
  simp only [checkpoint, Tx.bind_done, Tx.lift_done, Tx.read_done, Tx.ask_done, Tx.require_done, Tx.edit_done] at run
  obtain ⟨sources, _, ⟨checked, rfl⟩, work, _, ⟨owner, rfl⟩, _, _, ⟨authority, rfl⟩, _, _, ⟨mutable, rfl⟩,
    _, _, ⟨rfl, rfl⟩,
    _, start, ⟨required, rfl⟩, _, _, rfl, _, _, rfl, run⟩ := run
  have row := require_work_ok _ _ _ owner
  have workId := work_row_id row
  have ongoing : work.mode ≠ .complete := by simpa [assertMutableWork] using mutable
  simp only [assertOwnerRevision, bind_ok_iff, refuse_ok_iff, ne_eq, not_not] at authority
  obtain ⟨_, owned, _⟩ := authority
  have closed : step.mode = .complete → openRequired start.store step.workId = [] := by
    intro complete
    by_contra open'
    exact required ⟨complete, open'⟩
  split at run
  · rename_i complete
    obtain ⟨_, middle, fenced, run⟩ := (Tx.bind_done _ _).mp run
    rw [← workId] at fenced
    obtain ⟨chosen, rfl, fencing⟩ := product_fenced work _ middle _ (by exact sound.distinct) fenced
    have fencing : Fencing start.store work step.mode chosen :=
      ⟨fencing.own, fun _ => fencing.product rfl, fun other => absurd complete other⟩
    exact fenced_advances world step sources work chosen start final created sound checked row owned
      ongoing closed fencing
      (by rw [workId] at run; exact run)
  · rename_i other
    obtain ⟨_, middle, fenced, run⟩ := (Tx.bind_done _ _).mp run
    rw [(Tx.edit_done _ _).mp fenced, revokeOwnerControlActivations] at run
    have fencing := control_fenced start.store work step.mode other
    rw [workId, owned] at fencing
    exact fenced_advances world step sources work _ start final created sound checked row owned ongoing
      closed fencing run

theorem Advancing.moves {step : WorkStep} {start final : Database} (advancing : Advancing step start final) :
    Moves (.checkpoint step) start final := by
  obtain ⟨_, _, _, _, _, _, _, _, edit, restored⟩ := advancing
  exact .head (.edit edit) (Restores.moves restored)

end OrchestratorEngine.Continuity
