import OrchestratorEngine.Continuity.Performed

set_option autoImplicit false

namespace OrchestratorEngine.Continuity

open Foundation

-- The ledgers name recorded results, and a wait knows what its work has
-- acknowledged of its sources.
structure Booked (store : Store) : Prop where
  distinct : (store.results.map Result.outcomeId).Nodup
  known : ∀ row ∈ store.handledResults, (store.source? row.outcomeId).isSome = true
  covered : ∀ wait ∈ store.waits, ∀ outcome ∈ store.ledger wait.workId, ∀ source,
    store.source? outcome = some source → source ∈ wait.sources → outcome ∈ wait.handled

variable {before after : Store}

theorem Booked.same (booked : Booked before) (results : after.results = before.results)
    (handled : after.handledResults = before.handledResults) (waits : after.waits = before.waits) : Booked after := by
  have ledgers : ∀ workId, after.ledger workId = before.ledger workId := fun workId => by
    unfold Store.ledger
    rw [handled]
  have sources : ∀ outcome, after.source? outcome = before.source? outcome := fun outcome => by
    unfold Store.source?
    rw [results]
  refine ⟨results ▸ booked.distinct, fun row listed => ?_, fun wait listed outcome acknowledged source known => ?_⟩
  · rw [sources]
    exact booked.known row (handled ▸ listed)
  · exact booked.covered wait (waits ▸ listed) outcome (ledgers _ ▸ acknowledged) source (sources _ ▸ known)

theorem update_result_source (id : Outcome) (digest : Digest) (eventId : Option String) (data : Data) (row : Result) :
    (updateResult id digest eventId data row).outcomeId = row.outcomeId ∧
      (updateResult id digest eventId data row).sourceKey = row.sourceKey := by
  unfold updateResult
  split <;> exact ⟨rfl, rfl⟩

variable {outcome : Outcome}

theorem recorded_sources {source : SourceKey} {status : String} {before after : List Result}
    (recorded : Recorded source status before after outcome) (distinct : (before.map Result.outcomeId).Nodup) :
    (after.map Result.outcomeId).Nodup ∧ ∀ id kept, (row? Result.outcomeId id before).map Result.sourceKey = some kept →
      (row? Result.outcomeId id after).map Result.sourceKey = some kept := by
  cases recorded with
  | updated row listed same digest eventId data =>
      have keys : (before.map (updateResult row.outcomeId digest eventId data)).map Result.outcomeId =
          before.map Result.outcomeId := by
        rw [List.map_map]
        exact List.map_congr_left fun other _ => (update_result_source _ _ _ _ other).1
      refine ⟨keys ▸ distinct, fun id kept found => ?_⟩
      rw [row_map Result.outcomeId _ fun other => (update_result_source _ _ _ _ other).1, Option.map_map, ← found]
      exact Option.map_congr fun other _ => (update_result_source _ _ _ _ other).2
  | inserted row fresh same kept named =>
      refine ⟨?_, fun id kept found => ?_⟩
      · rw [List.map_append]
        refine List.Nodup.append distinct (by simp) ?_
        simpa [eq_comm] using fresh
      · obtain ⟨old, present, source⟩ := Option.map_eq_some_iff.mp found
        rw [row_append, present]
        exact congrArg some source

theorem Booked.recorded (booked : Booked before) {source : SourceKey} {status : String}
    (recorded : Recorded source status before.results after.results outcome)
    (handled : after.handledResults = before.handledResults) (waits : after.waits = before.waits) : Booked after := by
  obtain ⟨distinct, kept⟩ := recorded_sources recorded booked.distinct
  have ledgers : ∀ workId, after.ledger workId = before.ledger workId := fun workId => by
    unfold Store.ledger
    rw [handled]
  have rows : ∀ row ∈ before.handledResults, after.source? row.outcomeId = before.source? row.outcomeId := by
    intro row listed
    obtain ⟨source, found⟩ := Option.isSome_iff_exists.mp (booked.known row listed)
    exact (kept row.outcomeId source found).trans found.symm
  refine ⟨distinct, fun row listed => ?_, fun wait listed outcome acknowledged source known => ?_⟩
  · rw [rows row (handled ▸ listed)]
    exact booked.known row (handled ▸ listed)
  · rw [ledgers] at acknowledged
    obtain ⟨row, present, work, rfl⟩ := (mem_ledger _ _ _).mp acknowledged
    exact booked.covered wait (waits ▸ listed) _ acknowledged source (rows row present ▸ known)

variable {taken : WorkStep}

theorem Booked.advanced {before : Store} (booked : Booked before) {work : Work} (mode : WorkMode)
    (chosen : Activation → Bool) {handledResults : List HandledResult} {waits : List Wait}
    {replays : Dict String (Dict Outcome Nat)}
    (acknowledging : Acknowledging before taken work handledResults waits replays)
    (elsewhere : ∀ wait ∈ waits, wait.workId ≠ taken.workId → wait ∈ before.waits) :
    Booked (before.advance work.workId mode chosen handledResults waits replays) := by
  have sources : ∀ outcome, (before.advance work.workId mode chosen handledResults waits replays).source? outcome =
      before.source? outcome := fun _ => rfl
  have ledgers : ∀ workId, (before.advance work.workId mode chosen handledResults waits replays).ledger workId =
      Store.ledger { before with handledResults } workId := fun _ => rfl
  refine ⟨booked.distinct, fun row listed => ?_, fun wait listed outcome acknowledged source known chosen' => ?_⟩
  · rw [sources]
    by_cases own : row.workId = taken.workId
    · by_cases old : row.outcomeId ∈ before.ledger taken.workId
      · obtain ⟨kept, present, -, same⟩ := (mem_ledger _ _ _).mp old
        exact same ▸ booked.known kept present
      · exact (acknowledging.gained row.outcomeId ((mem_ledger _ _ _).mpr ⟨row, listed, own, rfl⟩) old).1
    · exact booked.known row ((acknowledging.others row own).mp listed)
  · rw [ledgers] at acknowledged
    by_cases own : wait.workId = taken.workId
    · exact acknowledging.covered wait listed own outcome (own ▸ acknowledged) source known chosen'
    · obtain ⟨row, present, place, same⟩ := (mem_ledger _ _ _).mp acknowledged
      have kept := (acknowledging.others row (place ▸ own)).mp present
      exact booked.covered wait (elsewhere wait listed own) outcome ((mem_ledger _ _ _).mpr ⟨row, kept, place, same⟩)
        source known chosen'

variable {call : Call}

theorem Edit.booked (edit : Edit call before after) (booked : Booked before) :
    Booked after := by
  cases edit with
  | settle _ _ _ _ _ _ settling _ _ _ _ _ => exact booked.recorded settling.recorded rfl rfl
  | step _ _ _ _ _ _ _ _ _ _ _ =>
      dsimp only [Store.step]
      split <;> exact booked.same rfl rfl rfl
  | claim world activation _ _ _ _ obligation request _ =>
      refine booked.same ?_ ?_ ?_ <;>
      · unfold recordClaim
        repeat' split
        all_goals rfl
  | advance taken _ work _ _ named _ _ chosen _ handledResults waits waiting left replays acknowledging =>
      refine booked.advanced taken.mode chosen acknowledging fun wait listed other => ?_
      by_cases mode : taken.mode = .waiting
      · obtain ⟨fresh, same, rfl⟩ := waiting mode
        rcases (mem_put _ _ _ _).mp listed with rfl | ⟨old, -⟩
        · exact absurd (same.trans named) other
        · exact old
      · rw [left mode] at listed
        exact List.mem_of_mem_filter listed
  | _ => exact booked.same rfl rfl rfl

theorem Move.booked {start next : Database} (move : Move call start next) (booked : Booked start.store) :
    Booked next.store := by
  cases move with
  | restore restored =>
      cases restored with
      | grow growth => exact booked.same growth.framed.results growth.framed.handledResults growth.framed.waits
      | record _ _ _ _ recorded _ => exact booked.recorded recorded rfl rfl
  | edit edited => exact edited.booked booked
  | respond _ _ _ _ _ _ _ _ _ _ _ settling _ _ _ => exact booked.recorded settling.recorded rfl rfl
  | reply _ _ _ _ _ _ _ _ _ _ _ settling _ _ _ _ _ _ _ _ _ _ => exact booked.recorded settling.recorded rfl rfl
  | report _ _ => exact booked.same rfl rfl rfl

variable {start final : Database}

theorem Moves.booked (moves : Moves call start final)
    (booked : Booked start.store) : Booked final.store := by
  induction moves with
  | refl => exact booked
  | tail _ move ih => exact move.booked ih

theorem initialized_booked : Booked initialized := ⟨by simp [initialized], by simp [initialized], by simp [initialized]⟩

theorem run_booked (calls : Run) : Booked (run calls initialized) :=
  (run_invariant (fun store => Sound store ∧ Booked store) (fun _ _ _ => True) initialized
    ⟨initialized_sound, initialized_booked⟩
    (fun world call store held _ => ⟨performed_sound world call store held.1,
      (performed_moves world call store held.1).booked held.2⟩) calls fun _ _ _ _ _ => trivial).2

theorem first_of_each_listed (included : List SourceKey) (rows : List Result) (outcome : Outcome)
    (chosen : outcome ∈ firstOfEach included rows) : ∃ row ∈ rows, row.outcomeId = outcome := by
  induction rows generalizing included with
  | nil => simp [firstOfEach] at chosen
  | cons row rest ih =>
      rw [firstOfEach] at chosen
      split at chosen
      · obtain ⟨other, listed, same⟩ := ih _ chosen
        exact ⟨other, List.mem_cons_of_mem _ listed, same⟩
      · rcases List.mem_cons.mp chosen with rfl | later
        · exact ⟨row, List.mem_cons_self, rfl⟩
        · obtain ⟨other, listed, same⟩ := ih _ later
          exact ⟨other, List.mem_cons_of_mem _ listed, same⟩

theorem Booked.manifest {store : Store} (booked : Booked store) (world : World) (workId : String) (outcome : Outcome)
    (chosen : outcome ∈ waitResultManifest world store workId) : outcome ∉ store.ledger workId := by
  intro acknowledged
  unfold waitResultManifest at chosen
  cases found : store.wait? workId with
  | none => simp [found] at chosen
  | some wait =>
      obtain ⟨listed, same⟩ := row_mem _ _ _ _ found
      have available : outcome ∈ firstOfEach [] ((bySource world (store.resultsOf wait.sources)).filter fun row =>
          decide (row.outcomeId ∉ wait.handled)) := by
        simp only [found] at chosen
        split at chosen
        · exact List.mem_of_mem_take chosen
        · exact chosen
      obtain ⟨row, kept, rfl⟩ := first_of_each_listed _ _ _ available
      obtain ⟨sorted, unhandled⟩ := List.mem_filter.mp kept
      obtain ⟨recorded, source⟩ := List.mem_filter.mp ((List.mem_insertionSort _).mp sorted)
      have known : store.source? row.outcomeId = some row.sourceKey := by
        unfold Store.source?
        rw [row_of_mem Result.outcomeId store.results booked.distinct row recorded]
        rfl
      exact of_decide_eq_true unhandled
        (booked.covered wait listed row.outcomeId (same ▸ acknowledged) row.sourceKey known (of_decide_eq_true source))

def Fresh (creation : Creation) : Prop :=
  creation.activation.reason = .waitSatisfied → ∀ outcome, Mark.outcome outcome ∈ creation.activation.manifest →
    outcome ∉ creation.before.ledger creation.activation.workId

theorem Cause.fresh {site : Site} {store : Store} {work : Work} {activation : Activation} {pointer : Pointer}
    (cause : Cause site store work activation pointer) (booked : Booked store)
    (made : Made store work activation) : Fresh ⟨store, activation⟩ := by
  intro woken outcome marked
  have reason : activation.reason = .waitSatisfied := woken
  cases cause with
  | satisfied world _ _ _ _ _ manifest _ =>
      have chosen : Mark.outcome outcome ∈ (waitResultManifest world store work.workId).map Mark.outcome :=
        manifest ▸ marked
      have place : work.workId = activation.workId := work_row_id made.row
      rw [← place]
      exact booked.manifest world work.workId outcome (by simpa using chosen)
  | _ => simp_all

theorem Moves.fresh (moves : Moves call start final) (booked : Booked start.store)
    (clean : ∀ creation ∈ start.log, Fresh creation) : ∀ creation ∈ final.log, Fresh creation := by
  induction moves with
  | refl => exact clean
  | tail before move ih =>
      have held := Moves.booked before booked
      cases move with
      | restore restored =>
          cases restored with
          | grow growth =>
              cases growth with
              | create work activation pointer made cause quiet =>
                  intro creation listed
                  rcases List.mem_append.mp listed with old | new
                  · exact ih creation old
                  · exact List.mem_singleton.mp new ▸ cause.fresh held made
              | beside _ _ _ _ => exact ih
          | record _ _ _ _ _ _ => exact ih
      | edit _ => exact ih
      | respond _ _ _ _ _ _ _ _ _ _ _ _ _ _ _ => exact ih
      | reply _ _ _ _ _ _ _ _ _ _ _ _ _ _ _ activation _ _ reason _ _ _ _ =>
          intro creation listed
          rcases List.mem_append.mp listed with old | new
          · exact ih creation old
          · intro woken
            rw [List.mem_singleton.mp new, reason] at woken
            cases woken
      | report _ _ => exact ih

structure Unreckoned (before after : Store) : Prop where
  ledger : after.handledResults = before.handledResults
  replays : after.metadata.pendingReplays = before.metadata.pendingReplays
  works : ∀ id old, before.work? id = some old → ∃ new, after.work? id = some new ∧ old.revision ≤ new.revision ∧
    new.mode = old.mode

theorem unreckoned_same (ledger : after.handledResults = before.handledResults)
    (replays : after.metadata.pendingReplays = before.metadata.pendingReplays) (works : after.works = before.works) :
    Unreckoned before after := by
  refine ⟨ledger, replays, fun id old found => ⟨old, ?_, le_rfl, rfl⟩⟩
  unfold Store.work?
  rw [works]
  exact found

theorem Unreckoned.trans {first second third : Store} (lower : Unreckoned first second)
    (upper : Unreckoned second third) : Unreckoned first third := by
  refine ⟨upper.ledger.trans lower.ledger, upper.replays.trans lower.replays, fun id old found => ?_⟩
  obtain ⟨middle, between, raised, mode⟩ := lower.works id old found
  obtain ⟨new, last, higher, same⟩ := upper.works id middle between
  exact ⟨new, last, raised.trans higher, same.trans mode⟩

theorem Edit.unreckoned (edit : Edit call before after)
    (other : ∀ taken, call ≠ .checkpoint taken) : Unreckoned before after := by
  cases edit with
  | begin work _ _ =>
      refine ⟨rfl, rfl, fun id old found => ⟨old, ?_, le_rfl, rfl⟩⟩
      unfold Store.work? at found ⊢
      rw [row_append, found]
      rfl
  | step _ _ _ _ _ _ _ _ _ _ _ =>
      dsimp only [Store.step]
      split <;> exact unreckoned_same rfl rfl rfl
  | advance taken called _ _ _ _ _ _ _ _ _ _ _ _ _ _ => exact absurd called (other taken)
  | hand handover _ work _ _ _ _ =>
      refine ⟨rfl, rfl, fun id old found => ?_⟩
      have changed : (before.hand work.workId handover.fromActor handover.toActor).work? id =
          (before.work? id).map fun row => if row.workId = work.workId then row.transferred handover.toActor else row :=
        row_map Work.workId _ (fun row => by split <;> rfl) id before.works
      rw [changed, found]
      refine ⟨_, rfl, ?_⟩
      dsimp only
      split
      · exact ⟨Nat.le_succ _, rfl⟩
      · exact ⟨le_rfl, rfl⟩
  | claim world activation _ _ _ _ obligation request _ =>
      refine unreckoned_same ?_ ?_ ?_ <;>
      · unfold recordClaim
        repeat' split
        all_goals rfl
  | _ => exact unreckoned_same rfl rfl rfl

theorem Restore.unreckoned {site : Site} {start next : Database} (restored : Restore site start next) :
    Unreckoned start.store next.store :=
  unreckoned_same restored.framed.handledResults restored.framed.pendingReplays restored.framed.works

theorem Moves.unreckoned (moves : Moves call start final)
    (other : ∀ taken, call ≠ .checkpoint taken) : Unreckoned start.store final.store := by
  induction moves with
  | refl => exact unreckoned_same rfl rfl rfl
  | tail _ move ih =>
      refine ih.trans ?_
      cases move with
      | restore restored => exact restored.unreckoned
      | edit edited => exact edited.unreckoned other
      | respond _ _ _ _ _ _ _ _ _ _ _ _ _ _ _ => exact unreckoned_same rfl rfl rfl
      | reply _ _ _ _ _ _ _ _ _ _ _ _ _ _ _ _ _ _ _ _ _ _ => exact unreckoned_same rfl rfl rfl
      | report _ _ => exact unreckoned_same rfl rfl rfl

structure Reckoner (before : Store) (taken : WorkStep) (after : Store) : Prop where
  moved : ∃ work handledResults waits replays, before.work? taken.workId = some work ∧ work.mode ≠ .complete ∧
    Acknowledging before taken work handledResults waits replays ∧ after.handledResults = handledResults ∧
    after.metadata.pendingReplays = replays ∧ ∀ id, after.work? id = (before.work? id).map fun row =>
      if row.workId = taken.workId then row.advanced taken.mode else row

theorem Advancing.reckoner (advancing : Advancing taken start final)
    {after : Store} (ledger : after.handledResults = final.store.handledResults)
    (metadata : after.metadata = final.store.metadata) (works : after.works = final.store.works) :
    Reckoner start.store taken after := by
  obtain ⟨work, chosen, handledResults, waits, replays, row, ongoing, acknowledging, edit, restored⟩ := advancing
  have framed := restored.framed
  refine ⟨work, handledResults, waits, replays, row, ongoing, acknowledging, ledger.trans framed.handledResults, ?_,
    fun id => ?_⟩
  · rw [metadata]
    exact framed.pendingReplays
  · unfold Store.work?
    rw [works, framed.works]
    exact row_map Work.workId _ (fun row => by split <;> rfl) id start.store.works

variable (world : World)

theorem accepted_reckons (taken : WorkStep) (store : Store) (sound : Sound store)
    (created : Option Nat) (session : Database)
    (accepted : checkpoint world taken ⟨store, []⟩ = .ok (created, session)) :
    Reckoner store taken (perform world (.checkpoint taken) store).store := by
  have body : transact world (.checkpoint taken) ⟨store, []⟩ = .ok ((.activation created, .publishOrRaise), session) :=
    (Tx.bind_done _ _).mpr ⟨created, session, accepted, rfl⟩
  unfold perform
  rw [body]
  obtain ⟨activations, outbox, same⟩ := conclude_frame world session (.activation created) .publishOrRaise
  exact (checkpoint_advances world taken ⟨store, []⟩ _ created sound accepted).reckoner (by rw [same]) (by rw [same])
    (by rw [same])

theorem performed_reckons (call : Call) (store : Store) (sound : Sound store) :
    (∃ taken, call = .checkpoint taken ∧ Reckoner store taken (perform world call store).store) ∨
      Unreckoned store (perform world call store).store := by
  by_cases checks : ∃ taken, call = .checkpoint taken
  · obtain ⟨taken, rfl⟩ := checks
    cases accepted : checkpoint world taken ⟨store, []⟩ with
    | ok result => exact .inl ⟨taken, rfl, accepted_reckons world taken store sound result.1 result.2 accepted⟩
    | error error =>
        have body : transact world (.checkpoint taken) ⟨store, []⟩ = checkpoint world taken ⟨store, []⟩ >>= fun done =>
          .ok ((.activation done.1, .publishOrRaise), done.2) := rfl
        unfold perform
        rw [body, accepted]
        exact .inr (unreckoned_same rfl rfl rfl)
  · exact .inr ((performed_moves world call store sound).unreckoned fun taken same => checks ⟨taken, same⟩)

-- A replay of an outcome was decided at a revision of its work, and the outcome
-- is back in the ledger, or due at that revision or a later one.
def Due (store : Store) (workId : String) (outcome : Outcome) (revision : Nat) : Prop :=
  ∃ work, store.work? workId = some work ∧ revision ≤ work.revision ∧
    (work.mode = .complete ∨ outcome ∈ store.ledger workId ∨
      ∃ requested, revision ≤ requested ∧ (pendingReplays store workId).get? outcome = some requested)

variable {workId : String} {revision : Nat}

theorem Unreckoned.due (kept : Unreckoned before after)
    (due : Due before workId outcome revision) : Due after workId outcome revision := by
  obtain ⟨work, row, reached, held⟩ := due
  obtain ⟨new, found, raised, mode⟩ := kept.works workId work row
  refine ⟨new, found, reached.trans raised, ?_⟩
  unfold Store.ledger pendingReplays
  rw [mode, kept.ledger, kept.replays]
  exact held

theorem Reckoner.elsewhere (reckoner : Reckoner before taken after)
    (other : workId ≠ taken.workId) :
    (∀ outcome, outcome ∈ after.ledger workId ↔ outcome ∈ before.ledger workId) ∧
      pendingReplays after workId = pendingReplays before workId ∧ after.work? workId = before.work? workId := by
  obtain ⟨work, handledResults, waits, replays, row, ongoing, acknowledging, ledger, pending, works⟩ := reckoner.moved
  refine ⟨fun outcome => ?_, ?_, ?_⟩
  · rw [mem_ledger, mem_ledger, ledger]
    constructor
    · rintro ⟨kept, listed, place, same⟩
      exact ⟨kept, (acknowledging.others kept (place ▸ other)).mp listed, place, same⟩
    · rintro ⟨kept, listed, place, same⟩
      exact ⟨kept, (acknowledging.others kept (place ▸ other)).mpr listed, place, same⟩
  · unfold pendingReplays
    rw [pending, acknowledging.elsewhere workId other]
  · rw [works]
    cases found : before.work? workId with
    | none => rfl
    | some old => rw [Option.map_some, if_neg fun same => other ((work_row_id found).symm.trans same)]

theorem Reckoner.due (reckoner : Reckoner before taken after)
    (due : Due before workId outcome revision) :
    Due after workId outcome revision := by
  by_cases other : workId ≠ taken.workId
  · obtain ⟨ledger, pending, row⟩ := reckoner.elsewhere other
    unfold Due
    rw [row, ledger, pending]
    exact due
  · rw [not_not] at other
    subst other
    obtain ⟨work, handledResults, waits, replays, row, ongoing, acknowledging, ledger, pending, works⟩ := reckoner.moved
    obtain ⟨same, found, reached, held⟩ := due
    cases row.symm.trans found
    have later : after.work? taken.workId = some (work.advanced taken.mode) := by
      rw [works, row, Option.map_some, if_pos (work_row_id row)]
    have ledgers : after.ledger taken.workId = Store.ledger { before with handledResults } taken.workId := by
      unfold Store.ledger
      rw [ledger]
    have dues : pendingReplays after taken.workId = (replays.get? taken.workId).getD Dict.empty := by
      unfold pendingReplays
      rw [pending]
    refine ⟨work.advanced taken.mode, later, reached.trans (Nat.le_succ _), ?_⟩
    have again : (∃ named ∈ taken.reprocessResults, resolveOutcomeAlias before named = .ok outcome) →
        ∃ requested, revision ≤ requested ∧ (pendingReplays after taken.workId).get? outcome = some requested := by
      rintro ⟨named, listed, resolved⟩
      exact ⟨work.revision + 1, reached.trans (Nat.le_succ _),
        dues ▸ acknowledging.decided named listed outcome resolved⟩
    rcases held with complete | acknowledged | ⟨requested, recent, waiting⟩
    · exact absurd complete ongoing
    · by_cases kept : outcome ∈ after.ledger taken.workId
      · exact .inr (.inl kept)
      · exact .inr (.inr (again (acknowledging.lost outcome acknowledged (ledgers ▸ kept))))
    · rcases acknowledging.due outcome requested waiting with complete | entered | still | replayed
      · exact .inl complete
      · exact .inr (.inl (ledgers ▸ entered))
      · exact .inr (.inr ⟨requested, recent, dues ▸ still⟩)
      · exact .inr (.inr (again replayed))

theorem performed_due (call : Call) (store : Store) (sound : Sound store)
    (due : Due store workId outcome revision) :
    Due (perform world call store).store workId outcome revision := by
  rcases performed_reckons world call store sound with ⟨taken, -, reckoner⟩ | kept
  · exact reckoner.due due
  · exact kept.due due

theorem run_due (calls : Run) (store : Store) (sound : Sound store)
    (due : Due store workId outcome revision) : Due (run calls store) workId outcome revision :=
  (run_invariant (fun reached => Sound reached ∧ Due reached workId outcome revision) (fun _ _ _ => True) store
    ⟨sound, due⟩ (fun world call reached held _ => ⟨performed_sound world call reached held.1,
      performed_due world call reached held.1 held.2⟩) calls fun _ _ _ _ _ => trivial).2

-- A claim of a wait that brings an outcome, at a revision or a later one, of
-- the endpoint its actor has now.
def ClaimedSince (store : Store) (workId actorId : String) (outcome : Outcome) (revision : Nat) : Prop :=
  ∃ activation ∈ store.activations, ∃ actor, activation.workId = workId ∧ activation.actorId = actorId ∧
    activation.reason = .waitSatisfied ∧ activation.status = .claimed ∧ Mark.outcome outcome ∈ activation.manifest ∧
    revision ≤ activation.workRevision ∧ requireActor store actorId = .ok actor ∧
    activation.endpointGeneration = actor.generation

theorem Reckoner.decides (reckoner : Reckoner before taken after) {work : Work}
    (row : before.work? taken.workId = some work) (named : Outcome) (listed : named ∈ taken.reprocessResults)
    (resolved : resolveOutcomeAlias before named = .ok outcome) :
    Due after taken.workId outcome (work.revision + 1) := by
  obtain ⟨same, _, _, replays, found, _, acknowledging, _, pending, works⟩ := reckoner.moved
  cases row.symm.trans found
  refine ⟨work.advanced taken.mode, ?_, le_rfl, .inr (.inr ⟨work.revision + 1, le_rfl, ?_⟩)⟩
  · rw [works, row, Option.map_some, if_pos (work_row_id row)]
  · unfold pendingReplays
    rw [pending]
    exact acknowledging.decided named listed outcome resolved

theorem claimed_since (call : Call) {store : Store} (sound : Sound store)
    (due : Due store workId outcome revision)
    (absent : outcome ∉ store.ledger workId) (entered : outcome ∈ (perform world call store).store.ledger workId) :
    ∃ taken, call = .checkpoint taken ∧ taken.workId = workId ∧
      ClaimedSince store workId taken.actorId outcome revision := by
  rcases performed_reckons world call store sound with ⟨taken, rfl, reckoner⟩ | kept
  · by_cases own : workId = taken.workId
    · subst own
      obtain ⟨work, handledResults, _, _, row, ongoing, acknowledging, ledger, _, _⟩ := reckoner.moved
      obtain ⟨same, found, _, held⟩ := due
      cases row.symm.trans found
      rcases held with complete | acknowledged | ⟨requested, recent, waiting⟩
      · exact absurd complete ongoing
      · exact absurd acknowledged absent
      · unfold Store.ledger at entered
        rw [ledger] at entered
        obtain ⟨activation, listed, actor, place, bearer, reason, status, marked, current, known, endpoint⟩ :=
          (acknowledging.gained outcome entered absent).2 requested waiting
        exact ⟨taken, rfl, rfl, activation, listed, actor, place, bearer, reason, status, marked, recent.trans current,
          known, endpoint⟩
    · exact absurd (((reckoner.elsewhere own).1 outcome).mp entered) absent
  · unfold Store.ledger at entered absent
    rw [kept.ledger] at entered
    exact absurd entered absent

theorem acknowledged_outcomes_kept (front : Run) :
    (∀ world call workId outcome, outcome ∈ (run front initialized).ledger workId →
      outcome ∉ (perform world call (run front initialized)).store.ledger workId →
        ∃ taken, call = .checkpoint taken ∧ taken.workId = workId ∧ ∃ named ∈ taken.reprocessResults,
          resolveOutcomeAlias (run front initialized) named = .ok outcome) ∧
    (∀ world call, ∀ creation ∈ (perform world call (run front initialized)).created,
      creation.activation.reason = .waitSatisfied → ∀ outcome, Mark.outcome outcome ∈ creation.activation.manifest →
        outcome ∉ creation.before.ledger creation.activation.workId) ∧
    (∀ world decision created session work, ∀ named ∈ decision.reprocessResults, ∀ outcome,
      checkpoint world decision ⟨run front initialized, []⟩ = .ok (created, session) →
      (run front initialized).work? decision.workId = some work →
      resolveOutcomeAlias (run front initialized) named = .ok outcome →
      ∀ back later call, outcome ∉ (run (front ++ (world, .checkpoint decision) :: back) initialized).ledger
      decision.workId →
        outcome ∈ (run (front ++ (world, .checkpoint decision) :: back ++ [(later, call)]) initialized).ledger
          decision.workId →
        ∃ taken, call = .checkpoint taken ∧ taken.workId = decision.workId ∧
          ClaimedSince (run (front ++ (world, .checkpoint decision) :: back) initialized) decision.workId taken.actorId
            outcome (work.revision + 1)) := by
  refine ⟨fun world call workId outcome listed gone => ?_, fun world call creation listed => ?_,
    fun world decision created session work named listed outcome accepted row resolved back later call
    absent entered => ?_⟩
  · rcases performed_reckons world call _ (reachable_sound ⟨front, rfl⟩) with ⟨taken, rfl, reckoner⟩ | kept
    · by_cases own : workId = taken.workId
      · subst own
        obtain ⟨work, handledResults, _, _, _, _, acknowledging, ledger, _, _⟩ := reckoner.moved
        refine ⟨taken, rfl, rfl, acknowledging.lost outcome listed ?_⟩
        unfold Store.ledger at gone ⊢
        rwa [ledger] at gone
      · exact absurd (((reckoner.elsewhere own).1 outcome).mpr listed) gone
    · unfold Store.ledger at gone
      rw [kept.ledger] at gone
      exact absurd listed gone
  · exact Moves.fresh (performed_moves world call _ (reachable_sound ⟨front, rfl⟩)) (run_booked front)
      (by simp) creation
      listed
  · have decided := accepted_reckons world decision _ (reachable_sound ⟨front, rfl⟩) created session accepted
    have due := decided.decides row named listed resolved
    rw [← run_snoc] at due
    have later_due := run_due back _ (reachable_sound ⟨_, rfl⟩) due
    rw [← run_append, List.append_assoc, List.singleton_append] at later_due
    rw [run_snoc] at entered
    exact claimed_since later call (reachable_sound ⟨_, rfl⟩) later_due absent entered

end OrchestratorEngine.Continuity
