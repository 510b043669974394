import OrchestratorEngine.Continuity.Advances

set_option autoImplicit false

namespace OrchestratorEngine.Continuity

open Foundation

theorem each_restores {ρ : Type} (site : Site) (step : ρ → Transaction Unit) (rows : List ρ) (start final : Database)
    (done : Unit) (rounds : ∀ row ∈ rows, ∀ one value two, Restores site start one → step row one = .ok (value, two) →
      Restores site one two)
    (run : Tx.each step rows start = .ok (done, final)) : Restores site start final := by
  refine Tx.each_rule step (fun _ now => Restores site start now) rows start final done .refl ?_ run
  intro front row back now next split restored round
  exact restored.trans (rounds row (by simp [split]) now _ next restored round)

theorem gather_restores {ρ β : Type} (site : Site) (step : ρ → Transaction (List β)) (rows : List ρ)
    (start final : Database) (yield : List β)
    (rounds : ∀ row ∈ rows, ∀ one value two, Restores site start one → step row one = .ok (value, two) →
      Restores site one two)
    (run : Tx.gather step rows start = .ok (yield, final)) : Restores site start final := by
  refine Tx.gather_rule step (fun _ _ now => Restores site start now) rows start final yield .refl ?_ run
  intro front row back now next yielded here split restored round
  exact restored.trans (rounds row (by simp [split]) now _ next restored round)

theorem signal_source_external {signal : Signal} {source : SourceKey}
    (named : signalSourceKey signal = .ok (some source)) : source.kind ≠ .obligation := by
  have mapped : ∀ kind known, sourceKindMap kind = some known → known ≠ .obligation := by
    intro kind known found
    unfold sourceKindMap at found
    split_ifs at found <;> cases found <;> simp
  rw [signalSourceKey] at named
  split at named
  · split at named
    · cases named
    · obtain ⟨_, _, finish⟩ := (bind_ok_iff _ _ _).mp named
      cases finish
      simp
  · split at named
    · rename_i kind identity found _
      obtain ⟨known, _, same⟩ := Option.bind_eq_some_iff.mp found
      obtain ⟨_, _, finish⟩ := (bind_ok_iff _ _ _).mp named
      cases finish
      exact mapped known kind same
    · cases named

theorem observe_signal_restores (world : World) (signal : Signal) (start final : Database) (changed : Bool)
    (run : observeSignal world signal start = .ok (changed, final)) : Restores .ordinary start final := by
  simp only [observeSignal, Tx.bind_done, Tx.lift_done] at run
  obtain ⟨found, start, ⟨named, rfl⟩, run⟩ := run
  cases found with
  | none => exact (Tx.pure_done _).mp run |>.2 ▸ .refl
  | some source =>
      simp only [Tx.bind_done] at run
      obtain ⟨answer, middle, recording, run⟩ := run
      obtain ⟨results, recorded, rfl⟩ := record_result_recorded world _ _ _ _ _ middle answer recording
      have external := signal_source_external named
      refine .head (.record source _ results answer.2 recorded external) ?_
      generalize (⟨{ start.store with results }, start.log⟩ : Database) = now at run
      obtain ⟨changed', outcome⟩ := answer
      simp only at run
      split at run
      · simp only [Tx.bind_done, Tx.ask_done, Tx.pure_done] at run
        obtain ⟨_, now, ⟨rfl, rfl⟩, _, _, works, _, waited, ⟨rfl, rfl⟩, _, _, assignments, _, rfl⟩ := run
        refine (each_restores .ordinary _ _ now waited _ (fun wait _ one _ two _ round =>
          (wake_work_grows .ordinary world wait one two _ round).restores) works).trans ?_
        exact each_restores .ordinary _ _ waited _ _ (fun row _ one _ two _ round =>
          (wake_assignment_grows .ordinary world row one two _ round).restores) assignments
      · exact (Tx.pure_done _).mp run |>.2 ▸ .refl

theorem reconcile_restores (world : World) (start final : Database) (reply : Reconciliation) (sound : Sound start.store)
    (run : reconcile world start = .ok (reply, final)) : Restores .ordinary start final := by
  simp only [reconcile, Tx.bind_done, Tx.ask_done] at run
  obtain ⟨_, _, ⟨rfl, rfl⟩, _, start, ⟨rfl, rfl⟩, recorded, one, recording, _, two, works, _, three,
    assignments, _, four,
    deliveries, recovery, five, recovering, finish⟩ := run
  obtain ⟨_, rfl⟩ := (Tx.pure_done _).mp finish
  have first := reconcile_sources_restores .ordinary world _ start one recorded recording
  have second : Restores .ordinary one two := each_restores .ordinary _ _ one two _
    (fun wait _ before _ after _ round =>
    (wake_work_grows .ordinary world wait before after _ round).restores) works
  have third : Restores .ordinary two three := each_restores .ordinary _ _ two three _
    (fun row _ before _ after _ round =>
    (wake_assignment_grows .ordinary world row before after _ round).restores) assignments
  have woken : Restores .ordinary start three := (first.trans second).trans third
  have fourth := reconcile_deliveries_grows .ordinary world none three four _ (woken.sound sound).links deliveries
  have delivered : Restores .ordinary start four := woken.trans fourth.restores
  have deliveredSound := delivered.sound sound
  exact delivered.trans (reconcile_recovery_grows .ordinary world four _ recovery deliveredSound.links
    deliveredSound.keys recovering).restores

section Repair

variable (world : World) (repair : Bool) (start final : Database) (findings : List Finding)

theorem check_request_restores (request : Request) (sound : Sound start.store)
    (run : checkRequest world repair request start = .ok (findings, final)) : Restores .repairing start final := by
  dsimp only [checkRequest] at run
  generalize (if decide (request.status ≠ .deliveryPending) = true then request.returnActor
    else request.recipientActor) = actorId at run
  generalize (if decide (request.status ≠ .deliveryPending) = true then Finding.requestReplyDeliveryMissing
    request.requestId
    else .requestMessageDeliveryMissing request.requestId) = finding at run
  simp only [Tx.bind_done, Tx.read_done, Tx.ask_done] at run
  obtain ⟨work, _, ⟨_, rfl⟩, stopped, start, ⟨rfl, rfl⟩, run⟩ := run
  split at run
  · exact (Tx.pure_done _).mp run |>.2 ▸ .refl
  · simp only [Tx.bind_done, Tx.read_done] at run
    obtain ⟨route, start, ⟨_, rfl⟩, run⟩ := run
    cases route with
    | some active => exact (Tx.pure_done _).mp run |>.2 ▸ .refl
    | none =>
        cases repair with
        | false => exact (Tx.pure_done _).mp run |>.2 ▸ .refl
        | true =>
            simp only [if_true, Tx.bind_done, Tx.pure_done] at run
            obtain ⟨created, _, delivered, _, rfl⟩ := run
            exact (reconcile_deliveries_grows .repairing world _ start _ created sound.links delivered).restores

theorem check_obligation_restores (obligation : Obligation) (sound : Sound start.store)
    (row : start.store.obligation? obligation.obligationId = some obligation) (opened : obligation.status = .opened)
    (unlinked : start.store.linkedRequest? obligation.obligationId = none)
    (unset : start.store.checkpoint? obligation.obligationId = none)
    (run : checkObligation world repair obligation start = .ok (findings, final)) :
    Restores .repairing start final := by
  simp only [checkObligation, Tx.bind_done, Tx.read_done, Tx.ask_done] at run
  obtain ⟨work, _, ⟨owner, rfl⟩, stopped, start, ⟨rfl, rfl⟩, run⟩ := run
  split at run
  · exact (Tx.pure_done _).mp run |>.2 ▸ .refl
  · simp only [Tx.bind_done, Tx.ask_done] at run
    obtain ⟨_, start, ⟨rfl, rfl⟩, run⟩ := run
    split at run
    · exact (Tx.pure_done _).mp run |>.2 ▸ .refl
    · simp only [Tx.bind_done, Tx.read_done] at run
      obtain ⟨route, start, ⟨idle, rfl⟩, run⟩ := run
      cases route with
      | some active => exact (Tx.pure_done _).mp run |>.2 ▸ .refl
      | none =>
          cases repair with
          | false => exact (Tx.pure_done _).mp run |>.2 ▸ .refl
          | true =>
              simp only [if_true, Tx.bind_done, Tx.pure_done] at run
              obtain ⟨created, _, rearmed, _, rfl⟩ := run
              have workRow := require_work_ok _ _ _ owner
              have workId := work_row_id workRow
              exact (rearm_route_grows .repairing world work obligation none none start _ created sound.links
                (workId ▸ workRow) ⟨row, opened, unlinked, unset⟩ workId.symm (fun _ _ _ => .inr idle) rearmed).restores

theorem check_wait_source_restores (wait : Wait) (source : SourceKey)
    (run : checkWaitSource world repair wait source start = .ok (findings, final)) :
    Restores .repairing start final := by
  rw [checkWaitSource] at run
  split at run
  · simp only [Tx.bind_done, Tx.ask_done, Tx.pure_done] at run
    obtain ⟨_, _, ⟨rfl, rfl⟩, _, rfl⟩ := run
    exact .refl
  · rename_i external
    cases retained : world.retained source with
    | terminal status data =>
        simp only [retained, Tx.bind_done, Tx.ask_done] at run
        obtain ⟨_, start, ⟨rfl, rfl⟩, run⟩ := run
        split at run
        · exact (Tx.pure_done _).mp run |>.2 ▸ .refl
        · cases repair with
          | false => exact (Tx.pure_done _).mp run |>.2 ▸ .refl
          | true =>
              simp only [if_true, Tx.bind_done, Tx.pure_done] at run
              obtain ⟨answer, _, recording, _, rfl⟩ := run
              obtain ⟨results, recorded, rfl⟩ := record_result_recorded world _ _ _ _ start _ answer recording
              exact .single (.record source _ results answer.2 recorded external)
    | pending =>
        simp only [retained, unavailable] at run
        exact (Tx.pure_done _).mp run |>.2 ▸ .refl
    | missing path =>
        simp only [retained, unavailable] at run
        exact (Tx.pure_done _).mp run |>.2 ▸ .refl
    | invalid reason =>
        simp only [retained, unavailable] at run
        exact (Tx.pure_done _).mp run |>.2 ▸ .refl
    | unsupported reason =>
        simp only [retained, unavailable] at run
        exact (Tx.pure_done _).mp run |>.2 ▸ .refl

theorem check_wait_restores (wait : Wait)
    (run : checkWait world repair wait start = .ok (findings, final)) : Restores .repairing start final := by
  simp only [checkWait, Tx.bind_done, Tx.read_done, Tx.ask_done] at run
  obtain ⟨sourceFindings, middle, gathered, work, _, ⟨owner, rfl⟩, satisfied, _, ⟨rfl, rfl⟩, manifest, _, ⟨rfl, rfl⟩,
    route, _, ⟨_, rfl⟩, routes, middle, ⟨rfl, rfl⟩, run⟩ := run
  have restored : Restores .repairing start middle := gather_restores .repairing _ _ start middle _
    (fun source _ one _ two _ round => check_wait_source_restores world repair one two _ wait source round) gathered
  split at run
  · exact (Tx.pure_done _).mp run |>.2 ▸ restored
  · simp only [Tx.bind_done, Tx.ask_done] at run
    obtain ⟨stopped, middle, ⟨rfl, rfl⟩, run⟩ := run
    split at run
    · exact (Tx.pure_done _).mp run |>.2 ▸ restored
    · rename_i quiet
      cases repair with
      | false => exact (Tx.pure_done _).mp run |>.2 ▸ restored
      | true =>
          simp only [if_true, Tx.bind_done, Tx.pure_done] at run
          obtain ⟨created, _, woken, _, rfl⟩ := run
          refine restored.trans (evaluate_wait_grows .repairing world _ middle _ created (.inr ?_) woken).restores
          intro other found
          cases (require_work_ok _ _ _ owner).symm.trans found
          exact not_not.mp (not_or.mp quiet).1

theorem check_assignment_restores (row : AssignmentCheckpoint)
    (run : checkAssignment world repair row start = .ok (findings, final)) : Restores .repairing start final := by
  simp only [checkAssignment, Tx.bind_done, Tx.ask_done] at run
  obtain ⟨found, start, ⟨rfl, rfl⟩, run⟩ := run
  cases kept : start.store.obligation? row.obligationId with
  | none =>
      simp only [kept] at run
      exact (Tx.pure_done _).mp run |>.2 ▸ .refl
  | some obligation =>
      simp only [kept, Tx.bind_done, Tx.read_done] at run
      obtain ⟨allowed, start, ⟨_, rfl⟩, run⟩ := run
      split at run
      · exact (Tx.pure_done _).mp run |>.2 ▸ .refl
      · simp only [Tx.bind_done, Tx.ask_done] at run
        obtain ⟨_, _, ⟨rfl, rfl⟩, satisfied, start, ⟨rfl, rfl⟩, run⟩ := run
        split at run
        · exact (Tx.pure_done _).mp run |>.2 ▸ .refl
        · simp only [Tx.bind_done, Tx.read_done, Tx.ask_done] at run
          obtain ⟨work, _, ⟨owner, rfl⟩, stopped, start, ⟨rfl, rfl⟩, run⟩ := run
          split at run
          · exact (Tx.pure_done _).mp run |>.2 ▸ .refl
          · rename_i quiet
            simp only [Tx.bind_done, Tx.read_done] at run
            obtain ⟨route, start, ⟨_, rfl⟩, run⟩ := run
            cases route with
            | some active => exact (Tx.pure_done _).mp run |>.2 ▸ .refl
            | none =>
                cases repair with
                | false => exact (Tx.pure_done _).mp run |>.2 ▸ .refl
                | true =>
                    simp only [if_true, Tx.bind_done, Tx.pure_done] at run
                    obtain ⟨created, _, woken, _, rfl⟩ := run
                    refine (evaluate_assignment_grows .repairing world _ start _ created ?_ woken).restores
                    intro other listed
                    cases kept.symm.trans listed
                    rw [← work_row_id (require_work_ok _ _ _ owner)]
                    exact not_not.mp quiet

theorem no_pending_continuation {store : Store} {work : Work} {activation : Activation}
    (missing : pendingContinuation store work = false) : Unrouted store work activation .repairing := by
  refine .repairing fun old listed place owner reason => ?_
  have silent := List.any_eq_false.mp missing old listed
  simp only [place, owner, reason, and_self, decide_true, Bool.true_and] at silent
  exact (Bool.not_eq_true _).mp silent

theorem check_continuation_restores (row : Work) (current : start.store.work? row.workId = some row)
    (mode : row.mode = .waiting ∨ row.mode = .continues)
    (run : checkContinuation world repair row start = .ok (findings, final)) : Restores .repairing start final := by
  rw [checkContinuation] at run
  split at run
  · simp only [Tx.bind_done, Tx.ask_done, Tx.pure_done] at run
    obtain ⟨_, _, ⟨rfl, rfl⟩, _, rfl⟩ := run
    exact .refl
  · rename_i other
    simp only [Tx.bind_done, Tx.read_done, Tx.ask_done] at run
    obtain ⟨work, _, ⟨owner, rfl⟩, stopped, start, ⟨rfl, rfl⟩, run⟩ := run
    cases (require_work_ok _ _ _ owner).symm.trans current
    split at run
    · exact (Tx.pure_done _).mp run |>.2 ▸ .refl
    · rename_i quiet
      simp only [Tx.bind_done, Tx.ask_done] at run
      obtain ⟨routed, start, ⟨rfl, rfl⟩, run⟩ := run
      split at run
      · exact (Tx.pure_done _).mp run |>.2 ▸ .refl
      · rename_i missing
        cases repair with
        | false => exact (Tx.pure_done _).mp run |>.2 ▸ .refl
        | true =>
            simp only [if_true, Tx.bind_done, Tx.pure_done] at run
            obtain ⟨id, _, made, _, rfl⟩ := run
            refine (Grows.one (create_grows .repairing world row _ _ _ _ _ _ _ id current made
              (fun activation _ actor generation reason manifest _ => ?_) (.inr (not_not.mp quiet)))).restores
            exact .continued (mode.resolve_left other)
              (no_pending_continuation ((Bool.not_eq_true _).mp missing)) reason
              actor generation manifest

end Repair

end OrchestratorEngine.Continuity
