import Mathlib.Data.List.Dedup
import OrchestratorEngine.Continuity.Commands

set_option autoImplicit false

namespace OrchestratorEngine.Continuity

open Foundation

theorem mem_ledger (store : Store) (workId : String) (outcome : Outcome) :
    outcome ∈ store.ledger workId ↔ ∃ row ∈ store.handledResults, row.workId = workId ∧ row.outcomeId = outcome := by
  simp [Store.ledger, List.mem_map, and_assoc]

section Rows

variable (workId actorId : String) (outcome : Outcome) (source : SourceKey) (store : Store)

theorem put_handled_ledger (other : Outcome) :
    other ∈ (putHandled workId actorId outcome source store).ledger workId ↔
      other = outcome ∨ other ∈ store.ledger workId := by
  simp only [mem_ledger, putHandled, mem_put, HandledResult.key, ne_eq, Prod.mk.injEq, not_and]
  constructor
  · rintro ⟨row, rfl | ⟨listed, _⟩, same, rfl⟩
    · exact .inl rfl
    · exact .inr ⟨row, listed, same, rfl⟩
  · rintro (rfl | ⟨row, listed, same, rfl⟩)
    · exact ⟨_, .inl rfl, rfl, rfl⟩
    · by_cases own : row.outcomeId = outcome
      · exact ⟨_, .inl rfl, rfl, own.symm⟩
      · exact ⟨row, .inr ⟨listed, fun _ => own⟩, same, rfl⟩

theorem put_handled_others (row : HandledResult) (foreign : row.workId ≠ workId) :
    row ∈ (putHandled workId actorId outcome source store).handledResults ↔ row ∈ store.handledResults := by
  simp only [putHandled, mem_put, HandledResult.key, ne_eq, Prod.mk.injEq, not_and]
  constructor
  · rintro (rfl | ⟨listed, _⟩)
    · exact absurd rfl foreign
    · exact listed
  · exact fun listed => .inr ⟨listed, fun same => absurd same foreign⟩

theorem drop_handled_ledger (other : Outcome) :
    other ∈ (dropHandled workId outcome store).ledger workId ↔ other ∈ store.ledger workId ∧ other ≠ outcome := by
  simp only [mem_ledger, dropHandled, List.mem_filter, HandledResult.key, decide_eq_true_eq, ne_eq,
    Prod.mk.injEq, not_and]
  constructor
  · rintro ⟨row, ⟨listed, kept⟩, same, rfl⟩
    exact ⟨⟨row, listed, same, rfl⟩, kept same⟩
  · rintro ⟨⟨row, listed, same, rfl⟩, different⟩
    exact ⟨row, ⟨listed, fun _ => different⟩, same, rfl⟩

theorem drop_handled_others (row : HandledResult) (foreign : row.workId ≠ workId) :
    row ∈ (dropHandled workId outcome store).handledResults ↔ row ∈ store.handledResults := by
  simp [dropHandled, HandledResult.key, foreign]

end Rows

def Entitled (store : Store) (workId actorId : String) (outcome : Outcome) : Prop :=
  (store.source? outcome).isSome = true ∧ ∀ requested, (pendingReplays store workId).get? outcome = some requested →
    ∃ activation ∈ store.activations, ∃ actor, activation.workId = workId ∧ activation.actorId = actorId ∧
      activation.reason = .waitSatisfied ∧ activation.status = .claimed ∧ Mark.outcome outcome ∈ activation.manifest ∧
      requested ≤ activation.workRevision ∧ requireActor store actorId = .ok actor ∧
      activation.endpointGeneration = actor.generation

theorem claimed_by_wait_due {store : Store} {workId actorId : String} {outcome : Outcome} {requested : Nat}
    (claimed : claimedByWait store workId actorId outcome = .ok true)
    (due : (pendingReplays store workId).get? outcome = some requested) :
    ∃ activation ∈ store.activations, ∃ actor, activation.workId = workId ∧ activation.actorId = actorId ∧
      activation.reason = .waitSatisfied ∧ activation.status = .claimed ∧ Mark.outcome outcome ∈ activation.manifest ∧
      requested ≤ activation.workRevision ∧ requireActor store actorId = .ok actor ∧
      activation.endpointGeneration = actor.generation := by
  obtain ⟨activation, chosen, verdict⟩ := anyM_found _ _ claimed
  obtain ⟨listed, facts⟩ := List.mem_filter.mp chosen
  obtain ⟨work, actor, reason, status⟩ := of_decide_eq_true facts
  split at verdict
  · rename_i marked
    rw [replayClaimAllowed, due] at verdict
    simp only at verdict
    split at verdict
    · cases verdict
    · rename_i recent
      obtain ⟨row, found, current⟩ := (bind_ok_iff _ _ _).mp verdict
      exact ⟨activation, listed, row, work, actor, reason, status, marked, Nat.le_of_not_lt recent, found,
        of_decide_eq_true (Except.ok.inj current)⟩
  · cases verdict

structure Reckoning (start : Store) (workId actorId : String) (handled reprocessed : List Outcome)
    (handledResults : List HandledResult) : Prop where
  others : ∀ row : HandledResult, row.workId ≠ workId → (row ∈ handledResults ↔ row ∈ start.handledResults)
  ledger : ∀ outcome, outcome ∈ Store.ledger { start with handledResults } workId ↔
    (outcome ∈ handled ∨ outcome ∈ start.ledger workId) ∧ outcome ∉ reprocessed
  entitled : ∀ outcome ∈ handled, Entitled start workId actorId outcome

theorem acknowledge_reckoning (workId actorId : String) (allowed : Option (List SourceKey)) (handled : List Outcome)
    (start final : Database) (done : Unit)
    (run : Tx.each (acknowledge workId actorId allowed (claimedReplyOutcomes start.store workId actorId))
    handled start =
      .ok (done, final)) :
    ∃ handledResults, final = ⟨{ start.store with handledResults }, start.log⟩ ∧
      Reckoning start.store workId actorId handled [] handledResults := by
  refine Tx.each_rule _ (fun visited now => ∃ handledResults, now = ⟨{ start.store with handledResults }, start.log⟩ ∧
    Reckoning start.store workId actorId visited [] handledResults) handled start final done
    ⟨start.store.handledResults, rfl, fun _ _ => Iff.rfl, by simp, by simp⟩ ?_ run
  rintro front outcome back now next split ⟨rows, rfl, reckoning⟩ round
  simp only [acknowledge, Tx.bind_done, Tx.ask_done] at round
  obtain ⟨source, _, ⟨rfl, rfl⟩, round⟩ := round
  cases known : Store.source? { start.store with handledResults := rows } outcome with
  | none => simp [known] at round
  | some source =>
      simp only [known, Tx.bind_done, Tx.require_done, Tx.read_done, Tx.edit_done] at round
      obtain ⟨_, _, ⟨_, rfl⟩, claimed, _, ⟨entitled, rfl⟩, _, _, ⟨allowed, rfl⟩, rfl⟩ := round
      refine ⟨_, rfl, fun row foreign => ?_, fun other => ?_, fun other listed => ?_⟩
      · exact (put_handled_others workId actorId outcome source _ row foreign).trans (reckoning.others row foreign)
      · refine (put_handled_ledger workId actorId outcome source _ other).trans ?_
        rw [reckoning.ledger other]
        simp only [List.mem_append, List.mem_singleton, List.not_mem_nil, not_false_eq_true, and_true]
        tauto
      · rcases List.mem_append.mp listed with before | last
        · exact reckoning.entitled other before
        · rw [List.mem_singleton.mp last]
          refine ⟨(congrArg Option.isSome known).trans rfl, fun requested due => ?_⟩
          have granted : claimed = true := (Bool.not_eq_false _).mp allowed
          rw [granted] at entitled
          split at entitled
          · rename_i replied
            have settled := (List.mem_filter.mp replied).2
            exact absurd ((Dict.mem_keys _ _).mpr ⟨requested, due⟩) (of_decide_eq_true settled)
          · have allowedNow : claimedByWait start.store workId actorId outcome = .ok true := entitled
            exact claimed_by_wait_due allowedNow due

theorem reprocess_reckoning (workId actorId : String) (sources : List SourceKey) (handled reprocessed : List Outcome)
    (start middle : Store) (log : List Creation) (final : Database) (done : Unit) (handledResults : List HandledResult)
    (reckoned : middle = { start with handledResults })
    (reckoning : Reckoning start workId actorId handled [] handledResults)
    (run : Tx.each (reprocess workId sources) reprocessed ⟨middle, log⟩ = .ok (done, final)) :
    ∃ handledResults, final = ⟨{ start with handledResults }, log⟩ ∧
      Reckoning start workId actorId handled reprocessed handledResults := by
  refine Tx.each_rule _ (fun visited now => ∃ handledResults, now = ⟨{ start with handledResults }, log⟩ ∧
    Reckoning start workId actorId handled visited handledResults) reprocessed ⟨middle, log⟩ final done
    ⟨handledResults, by rw [reckoned], reckoning⟩ ?_ run
  rintro front outcome back now next split ⟨rows, rfl, reckoning⟩ round
  simp only [reprocess, Tx.bind_done, Tx.ask_done, Tx.require_done, Tx.edit_done] at round
  obtain ⟨source, _, ⟨rfl, rfl⟩, _, _, ⟨_, rfl⟩, rfl⟩ := round
  refine ⟨_, rfl, fun row foreign => ?_, fun other => ?_, reckoning.entitled⟩
  · exact (drop_handled_others workId outcome _ row foreign).trans (reckoning.others row foreign)
  · refine (drop_handled_ledger workId outcome _ other).trans ?_
    rw [reckoning.ledger other]
    simp only [List.mem_append, List.mem_singleton]
    tauto

theorem next_handled_reckoning (workId actorId : String) (sources : List SourceKey) (handled reprocessed : List Outcome)
    (start final : Database) (acknowledged : List Outcome)
    (run : nextHandledResults workId actorId sources handled reprocessed start = .ok (acknowledged, final)) :
    ∃ named again handledResults, resolveOutcomeAliases start.store handled = .ok named ∧
      resolveOutcomeAliases start.store reprocessed = .ok again ∧
      final = ⟨{ start.store with handledResults }, start.log⟩ ∧
      Reckoning start.store workId actorId named again handledResults ∧
      ∀ outcome ∈ Store.ledger { start.store with handledResults } workId, ∀ source,
        start.store.source? outcome = some source → source ∈ sources → outcome ∈ acknowledged := by
  simp only [nextHandledResults, Tx.bind_done, Tx.read_done, Tx.ask_done] at run
  obtain ⟨_, _, ⟨rfl, rfl⟩, _, _, ⟨rfl, rfl⟩, named, _, ⟨resolved, rfl⟩, again, _, ⟨decided, rfl⟩, _, start, ⟨rfl, rfl⟩,
    _, middle, first, _, last, second, rfl, rfl⟩ := run
  obtain ⟨_, rfl, reckoning⟩ := acknowledge_reckoning workId actorId _ named start middle _ first
  obtain ⟨rows, rfl, reckoning⟩ := reprocess_reckoning workId actorId sources named again start.store _ start.log _ _ _
    rfl reckoning second
  refine ⟨named, again, rows, resolved, decided, rfl, reckoning, fun outcome listed source known chosen => ?_⟩
  obtain ⟨entered, spared⟩ := (reckoning.ledger outcome).mp listed
  refine List.mem_filter.mpr ⟨List.mem_dedup.mpr (List.mem_append.mpr entered.symm), ?_⟩
  have kept : Store.source? { start.store with handledResults := rows } outcome = some source := known
  simp [spared, kept, chosen]

theorem persist_handled_reckoning (workId actorId : String) (handled : List Outcome) (start final : Database)
    (done : Unit) (run : persistHandledResults workId actorId handled start = .ok (done, final)) :
    ∃ named handledResults, resolveOutcomeAliases start.store handled = .ok named ∧
      final = ⟨{ start.store with handledResults }, start.log⟩ ∧
      Reckoning start.store workId actorId named [] handledResults := by
  simp only [persistHandledResults, Tx.bind_done, Tx.read_done, Tx.ask_done] at run
  obtain ⟨named, _, ⟨resolved, rfl⟩, _, start, ⟨rfl, rfl⟩, run⟩ := run
  obtain ⟨rows, rfl, reckoning⟩ := acknowledge_reckoning workId actorId none named start final done run
  exact ⟨named, rows, resolved, rfl, reckoning⟩

def duly (replays : Dict Outcome Nat) (handled reprocessed : List Outcome) (revision : Nat) : Dict Outcome Nat :=
  reprocessed.foldl (fun kept outcome => kept.set outcome revision) (replays.without handled)

theorem fold_set_get (outcomes : List Outcome) (revision : Nat) (replays : Dict Outcome Nat) (outcome : Outcome) :
    (outcomes.foldl (fun kept other => kept.set other revision) replays).get? outcome =
      if outcome ∈ outcomes then some revision else replays.get? outcome := by
  induction outcomes generalizing replays with
  | nil => rfl
  | cons first rest ih =>
      rw [List.foldl_cons, ih, Dict.get_set]
      by_cases later : outcome ∈ rest <;> by_cases here : outcome = first <;> simp [later, here]

theorem duly_get (replays : Dict Outcome Nat) (handled reprocessed : List Outcome) (revision : Nat)
    (outcome : Outcome) :
    (duly replays handled reprocessed revision).get? outcome =
      if outcome ∈ reprocessed then some revision
      else if outcome ∈ handled then none else replays.get? outcome := by
  rw [duly, fold_set_get, Dict.get_without]

theorem replay_decisions_done (workId : String) (revision : Nat) (handled reprocessed named again : List Outcome)
    (start final : Database) (done : Unit) (resolved : resolveOutcomeAliases start.store handled = .ok named)
    (decided : resolveOutcomeAliases start.store reprocessed = .ok again)
    (run : recordReplayDecisions workId revision handled reprocessed start = .ok (done, final)) :
    final = ⟨setReplays workId (duly (pendingReplays start.store workId) named again revision) start.store,
      start.log⟩ := by
  simp only [recordReplayDecisions, Tx.bind_done, Tx.read_done, Tx.edit_done] at run
  obtain ⟨_, _, ⟨first, rfl⟩, _, start, ⟨second, rfl⟩, rfl⟩ := run
  rw [resolved] at first
  rw [decided] at second
  cases first
  cases second
  rfl

theorem resolved_names {store : Store} {outcomes named : List Outcome}
    (resolved : resolveOutcomeAliases store outcomes = .ok named) (outcome : Outcome) :
    outcome ∈ named ↔ ∃ name ∈ outcomes, resolveOutcomeAlias store name = .ok outcome := by
  have related := mapM_ok_inv _ _ _ resolved
  constructor
  · intro listed
    exact forall₂_mem_right _ _ _ related outcome listed
  · rintro ⟨name, listed, same⟩
    obtain ⟨other, member, also⟩ := forall₂_mem_left _ _ _ related name listed
    rw [same] at also
    cases also
    exact member

-- The store in which a checkpoint reckons: its work moved on and its routes
-- are fenced, but nothing that was claimed is.
structure Reckoned (before base : Store) : Prop where
  results : base.results = before.results
  resultAliases : base.resultAliases = before.resultAliases
  handledResults : base.handledResults = before.handledResults
  actors : base.actors = before.actors
  pendingReplays : base.metadata.pendingReplays = before.metadata.pendingReplays
  claimed : ∀ activation ∈ base.activations, activation.status = .claimed → activation ∈ before.activations

variable {before base : Store}

theorem Reckoned.source (reckoned : Reckoned before base) (outcome : Outcome) :
    base.source? outcome = before.source? outcome := by
  unfold Store.source?
  rw [reckoned.results]

theorem Reckoned.alias (reckoned : Reckoned before base) (outcome : Outcome) :
    resolveOutcomeAlias base outcome = resolveOutcomeAlias before outcome := by
  unfold resolveOutcomeAlias
  rw [reckoned.results, reckoned.resultAliases]

theorem Reckoned.replays (reckoned : Reckoned before base) (workId : String) :
    Continuity.pendingReplays base workId = Continuity.pendingReplays before workId := by
  unfold Continuity.pendingReplays
  rw [reckoned.pendingReplays]

theorem Reckoned.entitled (reckoned : Reckoned before base) {workId actorId : String}
    {outcome : Outcome} (entitled : Entitled base workId actorId outcome) : Entitled before workId actorId outcome := by
  refine ⟨reckoned.source outcome ▸ entitled.1, fun requested due => ?_⟩
  obtain ⟨activation, listed, actor, work, belongs, reason, status, marked, recent, found, current⟩ :=
    entitled.2 requested (reckoned.replays workId ▸ due)
  refine ⟨activation, reckoned.claimed activation listed status, actor, work, belongs, reason, status,
    marked, recent, ?_,
    current⟩
  unfold requireActor Store.actor? at found ⊢
  rwa [reckoned.actors] at found

theorem Reckoning.acknowledging {taken : WorkStep} {work : Work} {named again : List Outcome}
    {handledResults : List HandledResult} {waits : List Wait} {replays : Dict String (Dict Outcome Nat)}
    (reckoning : Reckoning base taken.workId taken.actorId named again handledResults) (reckoned : Reckoned before base)
    (decided : resolveOutcomeAliases base taken.reprocessResults = .ok again)
    (covered : ∀ wait ∈ waits, wait.workId = taken.workId →
      ∀ outcome ∈ Store.ledger { base with handledResults } taken.workId, ∀ source,
        base.source? outcome = some source → source ∈ wait.sources → outcome ∈ wait.handled)
    (elsewhere : ∀ workId, workId ≠ taken.workId → replays.get? workId = base.metadata.pendingReplays.get? workId)
    (ended : taken.mode = .complete → again = [])
    (own : taken.mode ≠ .complete → (replays.get? taken.workId).getD Dict.empty =
      duly (Continuity.pendingReplays base taken.workId) named again (work.revision + 1)) :
    Acknowledging before taken work handledResults waits replays := by
  have names (outcome : Outcome) : outcome ∈ again ↔
      ∃ name ∈ taken.reprocessResults, resolveOutcomeAlias before name = .ok outcome := by
    rw [resolved_names decided]
    simp only [reckoned.alias]
  have ledgers : ∀ outcome, outcome ∈ Store.ledger { before with handledResults } taken.workId ↔
      outcome ∈ Store.ledger { base with handledResults } taken.workId := fun _ => Iff.rfl
  have previous : ∀ outcome, outcome ∈ base.ledger taken.workId ↔ outcome ∈ before.ledger taken.workId := by
    intro outcome
    rw [mem_ledger, mem_ledger, reckoned.handledResults]
  refine ⟨fun row foreign => ?_, fun outcome listed gone => ?_, fun outcome listed fresh => ?_,
    fun wait kept same outcome listed source known chosen => ?_, fun workId foreign => ?_,
    fun name listed outcome found => ?_,
    fun outcome requested due => ?_⟩
  · rw [reckoning.others row foreign, reckoned.handledResults]
  · rw [ledgers, reckoning.ledger, previous] at gone
    refine (names outcome).mp ?_
    by_contra spared
    exact gone ⟨.inr listed, spared⟩
  · rw [ledgers, reckoning.ledger, previous] at listed
    exact reckoned.entitled (reckoning.entitled outcome (listed.1.resolve_right fresh))
  · exact covered wait kept same outcome ((ledgers outcome).mp listed) source (reckoned.source outcome ▸ known) chosen
  · rw [elsewhere workId foreign, reckoned.pendingReplays]
  · have member := (names outcome).mpr ⟨name, listed, found⟩
    by_cases complete : taken.mode = .complete
    · simp [ended complete] at member
    · rw [own complete, duly_get, if_pos member]
  · by_cases complete : taken.mode = .complete
    · exact .inl complete
    · by_cases again' : outcome ∈ again
      · exact .inr (.inr (.inr ((names outcome).mp again')))
      · by_cases handled : outcome ∈ named
        · exact .inr (.inl ((ledgers outcome).mpr ((reckoning.ledger outcome).mpr ⟨.inl handled, again'⟩)))
        · refine .inr (.inr (.inl ?_))
          rw [own complete, duly_get, if_neg again', if_neg handled, reckoned.replays]
          exact due

end OrchestratorEngine.Continuity
