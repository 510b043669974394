import OrchestratorEngine.Continuity.Scans

set_option autoImplicit false

namespace OrchestratorEngine.Continuity

open Foundation

variable (world : World)

theorem scan_restores (repair : Bool) (start final : Database) (observed : List Finding)
    (sound : Sound start.store) (run : scan world repair start = .ok (observed, final)) :
    Restores .repairing start final := by
  simp only [scan, Tx.bind_done, Tx.ask_done] at run
  obtain ⟨endpoints, _, ⟨rfl, rfl⟩, requests, start, ⟨rfl, rfl⟩, deliveries, one, requested, cycles, _, ⟨rfl, rfl⟩,
    obligations, one, ⟨rfl, rfl⟩, assigned, two, unassigned', waits, two, ⟨rfl, rfl⟩, waiting, three, waited,
    rows, three, ⟨rfl, rfl⟩, assignments, four, stepped, works, four, ⟨rfl, rfl⟩, continuations, five, continued,
    outbox, five, ⟨rfl, rfl⟩, finish⟩ := run
  obtain ⟨_, rfl⟩ := (Tx.pure_done _).mp finish
  have first : Restores .repairing start one := gather_restores .repairing _ _ start one _
    (fun request _ before _ after restored round =>
      check_request_restores world repair before after _ request (restored.sound sound) round) requested
  have firstSound := first.sound sound
  have second : Restores .repairing one two := by
    refine gather_restores .repairing _ _ one two _ (fun obligation listed before _ after restored
      round => ?_) unassigned'
    simp only [unassigned, List.mem_filter, Bool.and_eq_true, decide_eq_true_eq, Option.isNone_iff_eq_none] at listed
    obtain ⟨member, ⟨⟨opened, _⟩, unlinked⟩, unset⟩ := listed
    have framed := restored.framed
    have linked : before.store.linkedRequest? obligation.obligationId = none := by
      have same := restored.linked_id obligation.obligationId
      rw [unlinked] at same
      exact Option.map_eq_none_iff.mp same
    refine check_obligation_restores world repair before after _ obligation (restored.sound firstSound) ?_
      opened linked ?_
      round
    · exact (framed.obligation obligation.obligationId).trans (firstSound.keys.obligation member)
    · unfold Store.checkpoint? at unset ⊢
      rw [framed.assignmentCheckpoints]
      exact unset
  have third : Restores .repairing two three := gather_restores .repairing _ _ two three _
    (fun wait _ before _ after _ round => check_wait_restores world repair before after _ wait round) waited
  have fourth : Restores .repairing three four := gather_restores .repairing _ _ three four _
    (fun row _ before _ after _ round => check_assignment_restores world repair before after _ row round) stepped
  have before : Restores .repairing start four := ((first.trans second).trans third).trans fourth
  have fourthSound := before.sound sound
  refine before.trans (gather_restores .repairing _ _ four _ _
    (fun row listed now _ after restored round => ?_) continued)
  obtain ⟨member, mode⟩ := List.mem_filter.mp listed
  exact check_continuation_restores world repair now after _ row
    ((restored.framed.work row.workId).trans (fourthSound.keys.work member)) (of_decide_eq_true mode) round

theorem record_findings_frame (observed actionable : List Finding) (store : Store) :
    ∃ diagnostics, recordFindings observed actionable store = { store with diagnostics } := by
  have folded : ∀ kept : Store, ∃ diagnostics,
      actionable.foldl (fun kept finding => putDiagnostic finding kept) kept = { kept with diagnostics } := by
    induction actionable with
    | nil => exact fun kept => ⟨kept.diagnostics, rfl⟩
    | cons finding rest ih =>
        intro kept
        obtain ⟨diagnostics, same⟩ := ih (putDiagnostic finding kept)
        exact ⟨diagnostics, same⟩
  obtain ⟨diagnostics, same⟩ := folded store
  exact ⟨_, by rw [recordFindings, same]; rfl⟩

theorem self_check_moves (repair : Bool) (start final : Database) (report : CheckReport)
    (sound : Sound start.store) (run : selfCheck world repair start = .ok (report, final)) :
    Moves (.selfCheck repair) start final := by
  simp only [selfCheck, Tx.bind_done, Tx.ask_done] at run
  obtain ⟨observed, middle, scanned, resolved, _, ⟨rfl, rfl⟩, actionable, middle, ⟨rfl, rfl⟩, run⟩ := run
  have restored : Restores (Call.selfCheck repair).site start middle :=
    scan_restores world repair start middle observed sound scanned
  cases repair with
  | false => exact (Tx.pure_done _).mp run |>.2 ▸ restored.moves
  | true =>
      simp only [if_true, Tx.bind_done, Tx.edit_done, Tx.pure_done] at run
      obtain ⟨_, _, rfl, _, rfl⟩ := run
      obtain ⟨diagnostics, same⟩ := record_findings_frame observed
        (observed.filter fun finding => !hidden middle.store finding) middle.store
      rw [same]
      exact (Restores.moves restored).tail (.report (.inl rfl) diagnostics)

variable (call : Call)

theorem publish_one_moves (state : Published) (log : List Creation) (activationId : Nat) :
    Moves call ⟨state.store, log⟩ ⟨(publishOne world state activationId).store, log⟩ := by
  unfold publishOne
  split
  · exact .refl
  · split
    · exact .one (.edit (.published activationId))
    · exact .one (.edit (.failed activationId _))
    · exact .refl

variable (store : Store)

theorem publish_moves (log : List Creation) :
    Moves call ⟨store, log⟩ ⟨(publishPending world store).store, log⟩ := by
  suffices folded : ∀ (ids : List Nat) (state : Published),
      Moves call ⟨state.store, log⟩ ⟨(ids.foldl (publishOne world) state).store, log⟩ from folded _ { store }
  intro ids
  induction ids with
  | nil => exact fun _ => .refl
  | cons id rest ih => exact fun state => (publish_one_moves world call state log id).trans (ih _)

theorem conclude_moves (session : Database) (reply : Reply) (afterwards : Afterwards) :
    Moves call session ⟨(conclude world session reply afterwards).store,
      (conclude world session reply afterwards).created⟩ := by
  cases afterwards with
  | settle => exact .refl
  | publish => exact publish_moves world call session.store session.log
  | publishOrRaise => exact publish_moves world call session.store session.log

theorem publication_frame :
    ∃ activations outbox, (publishPending world store).store = { store with activations, outbox } := by
  suffices folded : ∀ (ids : List Nat) (state : Published), ∃ activations outbox,
      (ids.foldl (publishOne world) state).store = { state.store with activations, outbox } from folded _ { store }
  intro ids
  induction ids with
  | nil => exact fun state => ⟨state.store.activations, state.store.outbox, rfl⟩
  | cons id rest ih =>
      intro state
      obtain ⟨activations, outbox, same⟩ := ih (publishOne world state id)
      refine ⟨activations, outbox, same.trans ?_⟩
      unfold publishOne
      split
      · rfl
      · split <;> rfl

theorem conclude_frame (session : Database) (reply : Reply) (afterwards : Afterwards) :
    ∃ activations outbox, (conclude world session reply afterwards).store =
      { session.store with activations, outbox } := by
  cases afterwards with
  | settle => exact ⟨session.store.activations, session.store.outbox, rfl⟩
  | publish => exact publication_frame world session.store
  | publishOrRaise => exact publication_frame world session.store

theorem answered {α : Type} {body : Transaction α} {reply : α → Reply × Afterwards} {start final : Database}
    {result : Reply × Afterwards} (run : (body >>= fun value => pure (reply value)) start = .ok (result, final)) :
    ∃ value, body start = .ok (value, final) := by
  obtain ⟨value, _, done, finish⟩ := (Tx.bind_done _ _).mp run
  obtain ⟨_, rfl⟩ := (Tx.pure_done _).mp finish
  exact ⟨value, done⟩

theorem transact_moves (start final : Database) (reply : Reply × Afterwards)
    (sound : Sound start.store) (run : transact world call start = .ok (reply, final)) : Moves call start final := by
  cases call with
  | registerActor registration =>
      obtain ⟨_, done⟩ := answered run
      exact register_actor_moves world registration start _ _ sound done
  | startWork beginning =>
      obtain ⟨_, done⟩ := answered run
      exact start_work_moves beginning start _ _ done
  | resolveDiagnostic diagnosticId actorId correction =>
      obtain ⟨_, done⟩ := answered run
      exact resolve_diagnostic_moves world diagnosticId actorId correction start _ _ done
  | openObligation opening =>
      obtain ⟨_, done⟩ := answered run
      exact open_obligation_moves world opening start _ _ sound done
  | requestSend sending =>
      obtain ⟨_, done⟩ := answered run
      exact request_send_moves world sending start _ _ sound done
  | requestRespond responding =>
      obtain ⟨_, done⟩ := answered run
      exact request_respond_moves world responding start _ _ done
  | requestHandle requestId actorId activationId =>
      obtain ⟨_, done⟩ := answered run
      exact request_handle_moves requestId actorId activationId start _ _ done
  | assignmentCheckpoint step =>
      obtain ⟨_, done⟩ := answered run
      exact assignment_checkpoint_moves world step start _ _ sound done
  | configureRecovery enabled interval maximum =>
      obtain ⟨_, done⟩ := answered run
      exact configure_recovery_moves enabled interval maximum start _ _ done
  | adoptRecovery workIds actorId interval maximum =>
      obtain ⟨_, done⟩ := answered run
      exact adopt_recovery_moves workIds actorId interval maximum start _ _ done
  | setRecoveryControl steering =>
      obtain ⟨_, done⟩ := answered run
      exact set_recovery_control_moves world steering start _ _ sound done
  | resolveObligation resolving =>
      obtain ⟨_, done⟩ := answered run
      exact resolve_obligation_moves world resolving start _ _ done
  | checkpoint step =>
      obtain ⟨_, done⟩ := answered run
      exact (checkpoint_advances world step start _ _ sound done).moves
  | transfer handover =>
      obtain ⟨_, done⟩ := answered run
      exact transfer_moves world handover start _ _ done
  | claim activationId actorId expectedEpoch =>
      obtain ⟨_, done⟩ := answered run
      exact claim_moves world activationId actorId expectedEpoch start _ _ done
  | observeSignal signal =>
      obtain ⟨_, done⟩ := answered run
      exact Restores.moves (observe_signal_restores world signal start _ _ done)
  | publishPending => exact (Tx.pure_done _).mp run |>.2 ▸ .refl
  | reconcile =>
      obtain ⟨_, done⟩ := answered run
      exact Restores.moves (reconcile_restores world start _ _ sound done)
  | selfCheck repair =>
      obtain ⟨_, done⟩ := answered run
      exact self_check_moves world repair start _ _ sound done

theorem performed_moves (sound : Sound store) :
    Moves call ⟨store, []⟩ ⟨(perform world call store).store, (perform world call store).created⟩ := by
  unfold perform
  split
  · exact .refl
  · rename_i reply afterwards session done
    exact (transact_moves world call ⟨store, []⟩ session _ sound done).trans
      (conclude_moves world call session reply afterwards)

theorem performed_sound (sound : Sound store) :
    Sound (perform world call store).store := (performed_moves world call store sound).sound sound

theorem reachable_sound {store : Store} (reached : Reachable store) : Sound store := by
  obtain ⟨calls, rfl⟩ := reached
  exact run_invariant Sound (fun _ _ _ => True) initialized initialized_sound
    (fun world call store sound _ => performed_sound world call store sound) calls fun _ _ _ _ _ => trivial

structure Enduring (relation : Store → Store → Prop) : Prop where
  refl : ∀ store, relation store store
  trans : ∀ first second third, relation first second → relation second third → relation first third
  moved : ∀ call start next, Move call start next → Sound start.store → relation start.store next.store

theorem Enduring.run {relation : Store → Store → Prop} (enduring : Enduring relation) (calls : Run) (start : Store)
    (sound : Sound start) : relation start (run calls start) := by
  have performed : ∀ world call store, Sound store → relation store (perform world call store).store := by
    intro world call store sound
    suffices moved : ∀ {final : Database}, Moves call ⟨store, []⟩ final → relation store final.store from
      moved (performed_moves world call store sound)
    intro final moves
    induction moves with
    | refl => exact enduring.refl store
    | tail moves last ih => exact enduring.trans _ _ _ ih (enduring.moved call _ _ last (Moves.sound moves sound))
  exact (run_invariant (fun reached => Sound reached ∧ relation start reached) (fun _ _ _ => True) start
    ⟨sound, enduring.refl start⟩ (fun world call store held _ =>
      ⟨performed_sound world call store held.1, enduring.trans _ _ _ held.2 (performed world call store held.1)⟩)
    calls fun _ _ _ _ _ => trivial).2

end OrchestratorEngine.Continuity
