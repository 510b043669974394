import OrchestratorEngine.Continuity.Rebinding

set_option autoImplicit false

namespace OrchestratorEngine.Continuity

open Foundation

theorem recorded_row_listed {store : Store} {source : SourceKey} {status : String} {eventId : Option String}
    {data : Data} {row : Result} (found : recordedRow store source status eventId data = some row) :
    row ∈ store.results ∧ row.sourceKey = source := by
  rw [recordedRow] at found
  split at found
  · rename_i first rest split
    cases found
    have listed : row ∈ byRecording _ := split ▸ List.mem_cons_self
    obtain ⟨member, facts⟩ := List.mem_filter.mp ((List.mem_insertionSort _).mp listed)
    exact ⟨member, (of_decide_eq_true facts).1⟩
  · split at found
    · rename_i only split
      split at found
      · cases found
      · cases found
        have listed : row ∈ store.results.filter fun row => decide (row.sourceKey = source ∧ row.status = status) :=
          split ▸ List.mem_cons_self
        obtain ⟨member, facts⟩ := List.mem_filter.mp listed
        exact ⟨member, (of_decide_eq_true facts).1⟩
    · cases found

theorem record_result_recorded (world : World) (source : SourceKey) (status : String) (eventId : Option String)
    (data : Data) (start final : Database) (answer : Bool × Outcome)
    (run : recordResult world source status eventId data start = .ok (answer, final)) :
    ∃ results, Recorded source status start.store.results results answer.2 ∧
      final = ⟨{ start.store with results }, start.log⟩ := by
  simp only [recordResult, Tx.bind_done, Tx.ask_done] at run
  obtain ⟨_, start, ⟨rfl, rfl⟩, run⟩ := run
  cases found : recordedRow start.store source status eventId data with
  | some row =>
      simp only [found, Tx.bind_done, Tx.ask_done, Tx.require_done, Tx.edit_done, Tx.pure_done] at run
      obtain ⟨_, _, ⟨rfl, rfl⟩, _, _, ⟨_, rfl⟩, _, _, rfl, rfl, rfl⟩ := run
      obtain ⟨listed, same⟩ := recorded_row_listed found
      exact ⟨_, .updated row listed same _ eventId data, rfl⟩
  | none =>
      simp only [found, Tx.bind_done, Tx.ask_done, Tx.require_done, Tx.edit_done, Tx.pure_done] at run
      obtain ⟨_, _, ⟨rfl, rfl⟩, _, start, ⟨fresh, rfl⟩, _, _, rfl, rfl, rfl⟩ := run
      refine ⟨_, .inserted ⟨outcomeIdentity source status data eventId, source, status, eventId,
        .current (outcomeIdentity source status data eventId), data, world.recorded start.store.results.length⟩
        (fun old listed same => fresh ?_) rfl rfl rfl, rfl⟩
      exact List.any_eq_true.mpr ⟨old, listed, by simpa using same⟩

theorem reconcile_source_restores (site : Site) (world : World) (source : SourceKey) (start final : Database)
    (outcomes : List Outcome) (external : source.kind ≠ .obligation)
    (run : reconcileSource world source start = .ok (outcomes, final)) : Restores site start final := by
  rw [reconcileSource] at run
  cases retained : world.retained source with
  | terminal status data =>
      simp only [retained, Tx.bind_done, Tx.pure_done] at run
      obtain ⟨answer, middle, made, _, rfl⟩ := run
      obtain ⟨results, recorded, rfl⟩ := record_result_recorded world source status none data start _ answer made
      exact .single (.record source status results answer.2 recorded external)
  | pending =>
      simp only [retained, Tx.pure_done] at run
      exact run.2 ▸ .refl
  | missing path =>
      simp only [retained, Tx.pure_done] at run
      exact run.2 ▸ .refl
  | invalid reason =>
      simp only [retained, Tx.pure_done] at run
      exact run.2 ▸ .refl
  | unsupported reason =>
      simp only [retained, Tx.pure_done] at run
      exact run.2 ▸ .refl

theorem reconcile_sources_restores (site : Site) (world : World) (sources : List SourceKey) (start final : Database)
    (outcomes : List Outcome) (run : reconcileSources world sources start = .ok (outcomes, final)) :
    Restores site start final := by
  refine Tx.gather_rule (reconcileSource world) (fun _ _ now => Restores site start now) _ start final
    outcomes .refl ?_ run
  intro front source back now next yielded here split restored round
  have chosen : source ∈ sources.eraseDups.filter fun source => decide (source.kind ≠ .obligation) := by
    rw [split]
    simp
  exact restored.trans (reconcile_source_restores site world source now next here
    (of_decide_eq_true (List.mem_filter.mp chosen).2) round)

theorem Grows.restores {site : Site} {start final : Database} (grows : Grows site start final) :
    Restores site start final := by
  induction grows with
  | refl => exact .refl
  | tail _ last ih => exact ih.tail (.grow last)

theorem start_work_moves (beginning : Beginning) (start final : Database) (done : Unit)
    (run : startWork beginning start = .ok (done, final)) : Moves (.startWork beginning) start final := by
  simp only [startWork, Tx.bind_done, Tx.lift_done, Tx.read_done, Tx.ask_done, Tx.require_done, Tx.edit_done] at run
  obtain ⟨_, _, ⟨_, rfl⟩, _, _, ⟨_, rfl⟩, _, _, ⟨_, rfl⟩, _, _, ⟨_, rfl⟩, _, _, ⟨_, rfl⟩, _, _, ⟨rfl, rfl⟩,
    _, start, ⟨fresh, rfl⟩, _, _, rfl, rfl⟩ := run
  have begun : Move (.startWork beginning) start ⟨insertWork beginning start.store, start.log⟩ :=
    .edit (.begin _ (by simpa using fresh) rfl)
  refine .tail (.single begun) ?_
  unfold armByDefault
  split
  · exact .restore (.grow (.beside _ (insertWork beginning start.store).recoveryIncidents
      (insertWork beginning start.store).responses (insertWork beginning start.store).metadata))
  · exact .restore (.grow (.beside (insertWork beginning start.store).recoveryPolicies
      (insertWork beginning start.store).recoveryIncidents
      (insertWork beginning start.store).responses (insertWork beginning start.store).metadata))

theorem resolve_diagnostic_moves (world : World) (diagnosticId : Finding) (actorId correction : String)
    (start final : Database) (done : Unit)
    (run : resolveDiagnostic world diagnosticId actorId correction start = .ok (done, final)) :
    Moves (.resolveDiagnostic diagnosticId actorId correction) start final := by
  simp only [resolveDiagnostic, Tx.bind_done, Tx.lift_done, Tx.read_done, Tx.ask_done, Tx.require_done,
    Tx.edit_done] at run
  obtain ⟨_, _, ⟨_, rfl⟩, _, _, ⟨_, rfl⟩, _, _, ⟨_, rfl⟩, _, _, ⟨rfl, rfl⟩, _, start, ⟨_, rfl⟩, rfl⟩ := run
  exact .one (.report (.inr ⟨_, _, _, rfl⟩) _)

theorem configure_recovery_moves (enabled : Bool) (interval maximum : Int) (start final : Database) (done : Unit)
    (run : configureRecovery enabled interval maximum start = .ok (done, final)) :
    Moves (.configureRecovery enabled interval maximum) start final := by
  simp only [configureRecovery, Tx.bind_done, Tx.lift_done, Tx.edit_done] at run
  obtain ⟨_, start, ⟨_, rfl⟩, rfl⟩ := run
  exact .one (.restore (.grow (.beside start.store.recoveryPolicies start.store.recoveryIncidents start.store.responses
    { start.store.metadata with
      defaultRecoveryObservation := enabled
      defaultRecoveryIntervalSeconds := interval
      defaultRecoveryMaxIntervalSeconds := maximum })))

theorem adopt_recovery_moves (workIds : List String) (actorId : String) (interval maximum : Option Int)
    (start final : Database) (done : Unit)
    (run : adoptRecovery workIds actorId interval maximum start = .ok (done, final)) :
    Moves (.adoptRecovery workIds actorId interval maximum) start final := by
  simp only [adoptRecovery, Tx.bind_done, Tx.lift_done, Tx.read_done, Tx.ask_done, Tx.require_done] at run
  obtain ⟨_, _, ⟨_, rfl⟩, _, _, ⟨_, rfl⟩, _, _, ⟨_, rfl⟩, _, _, ⟨_, rfl⟩, _, _, ⟨rfl, rfl⟩, _, _, ⟨rfl, rfl⟩,
    _, start, ⟨_, rfl⟩, run⟩ := run
  refine Tx.each_rule _ (fun _ now => Moves (.adoptRecovery workIds actorId interval maximum) start now) workIds start
    final done .refl ?_ run
  intro front workId back now next split moves round
  simp only [adoptWork, Tx.bind_done, Tx.lift_done, Tx.read_done, Tx.require_done, Tx.edit_done] at round
  obtain ⟨work, _, ⟨_, rfl⟩, _, _, ⟨_, rfl⟩, _, now, ⟨_, rfl⟩, rfl⟩ := round
  exact moves.tail (.restore (.grow (.beside _ now.store.recoveryIncidents now.store.responses now.store.metadata)))

theorem sound_unmarked {store : Store} (sound : Sound store) {obligationId : String}
    (missing : store.obligation? obligationId = none) :
    (∀ activation ∈ store.activations, Mark.obligation obligationId ∉ activation.manifest) ∧
      store.linkedRequest? obligationId = none ∧ store.checkpoint? obligationId = none := by
  refine ⟨fun activation listed marked => ?_, ?_, ?_⟩
  · obtain ⟨_, found, _⟩ := sound.assigned activation listed obligationId marked
    simp [missing] at found
  · by_contra linked
    obtain ⟨request, found⟩ := Option.ne_none_iff_exists'.mp linked
    obtain ⟨listed, named⟩ := linked_request found
    obtain ⟨_, row, _⟩ := sound.links.pinned request listed obligationId named
    simp [missing] at row
  · by_contra kept
    obtain ⟨row, found⟩ := Option.ne_none_iff_exists'.mp kept
    obtain ⟨listed, same⟩ := row_mem _ _ _ _ found
    obtain ⟨_, was⟩ := sound.checkpointed row listed
    simp [same, missing] at was

theorem open_obligation_moves (world : World) (opening : Opening) (start final : Database) (created : Option Nat)
    (sound : Sound start.store) (run : openObligation world opening start = .ok (created, final)) :
    Moves (.openObligation opening) start final := by
  simp only [openObligation, Tx.bind_done, Tx.lift_done, Tx.read_done, Tx.ask_done, Tx.require_done,
    Tx.edit_done] at run
  obtain ⟨_, _, ⟨_, rfl⟩, work, _, ⟨owner, rfl⟩, _, _, ⟨mutable, rfl⟩, _, _, ⟨_, rfl⟩, assignee, _, ⟨found, rfl⟩,
    _, _, ⟨_, rfl⟩, _, _, ⟨_, rfl⟩, _, _, ⟨_, rfl⟩, _, _, ⟨rfl, rfl⟩, _, start, ⟨existing, rfl⟩, _, _, rfl, run⟩ := run
  have row := require_work_ok _ _ _ owner
  have workId := work_row_id row
  have ongoing : work.mode ≠ .complete := by simpa [assertMutableWork] using mutable
  have fresh : start.store.obligation? opening.obligation.obligationId = none := not_not.mp existing
  have opened : Edit (.openObligation opening) start.store (insertObligation opening.obligation start.store) :=
    .opening opening.obligation fresh rfl rfl rfl rfl work row ongoing
  obtain ⟨unmarked, unlinked, unset⟩ := sound_unmarked sound fresh
  have standing : Standing (insertObligation opening.obligation start.store) opening.obligation none none := by
    refine ⟨?_, rfl, unlinked, unset⟩
    rw [inserted_row, fresh]
    simp
  have idle : activeObligationActivation (insertObligation opening.obligation start.store) opening.obligation
      [.obligationAssigned, .obligationReminder] = .ok none :=
    no_active_obligation _ found fun activation listed marked => absurd marked (unmarked activation listed)
  have grown : Grows (Call.openObligation opening).site
      ⟨insertObligation opening.obligation start.store, start.log⟩ final :=
    schedule_grows .ordinary world work opening.obligation _ final created (workId ▸ row) standing
      workId.symm rfl ongoing
      (.inr idle) run
  exact .head (.edit opened) grown.moves

end OrchestratorEngine.Continuity
