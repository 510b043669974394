import OrchestratorEngine.Continuity.Performed

set_option autoImplicit false

namespace OrchestratorEngine.Continuity

open Foundation

-- What a call does to the findings: a check scans for them, and a resolution
-- decides one. Calls that raise do neither.
inductive Deed where
  | scanned (repair : Bool) (observed findings : List Finding)
  | decided (finding : Finding)

def deed (world : World) (store : Store) : Call → Option Deed
  | .selfCheck repair =>
      match selfCheck world repair ⟨store, []⟩ with
      | .ok (report, _) => some (.scanned repair report.observed report.findings)
      | .error _ => none
  | .resolveDiagnostic diagnosticId actorId correction =>
      match resolveDiagnostic world diagnosticId actorId correction ⟨store, []⟩ with
      | .ok _ => some (.decided diagnosticId)
      | .error _ => none
  | _ => none

def history : Run → Store → List Deed
  | [], _ => []
  | (world, call) :: calls, store => (deed world store call).toList ++ history calls (perform world call store).store

theorem history_snoc (calls : Run) (world : World) (call : Call) (store : Store) :
    history (calls ++ [(world, call)]) store = history calls store ++ (deed world (run calls store) call).toList := by
  induction calls generalizing store with
  | nil => simp [history, run]
  | cons step calls ih =>
      obtain ⟨first, earlier⟩ := step
      simp only [List.cons_append, history, ih, List.append_assoc]
      rfl

def Deed.misses (finding : Finding) : Deed → Prop
  | .scanned repair observed _ => repair = true ∧ finding ∉ observed
  | .decided _ => False

def Deed.sights (finding : Finding) : Deed → Prop
  | .scanned repair observed _ => repair = true ∧ finding ∈ observed
  | .decided _ => False

def Sighted (past : List Deed) (finding : Finding) : Prop := ∃ deed ∈ past, deed.sights finding

def Decided (past : List Deed) (finding : Finding) : Prop :=
  ∃ before after, past = before ++ .decided finding :: after ∧ ∀ deed ∈ after, ¬ deed.misses finding

-- A repair did not observe the finding that an earlier one had observed, and
-- nobody has decided it since.
def Lapsed (past : List Deed) (finding : Finding) : Prop :=
  ∃ before missed after, past = before ++ missed :: after ∧ missed.misses finding ∧ Sighted before finding ∧
    .decided finding ∉ after

theorem sighted_snoc (past : List Deed) (last : Deed) (finding : Finding) :
    Sighted (past ++ [last]) finding ↔ Sighted past finding ∨ last.sights finding := by
  simp [Sighted, or_and_right, exists_or]

theorem snoc_split {α : Type} (past before after : List α) (last middle : α) :
    past ++ [last] = before ++ middle :: after ↔
      (after = [] ∧ past = before ∧ last = middle) ∨ ∃ rest, after = rest ++
      [last] ∧ past = before ++ middle :: rest := by
  rcases List.eq_nil_or_concat after with rfl | ⟨rest, final, rfl⟩
  · simp
  · constructor
    · intro split
      rw [List.concat_eq_append, ← List.cons_append, ← List.append_assoc] at split
      obtain ⟨same, ending⟩ := List.append_inj' split rfl
      cases List.singleton_inj.mp ending
      exact .inr ⟨rest, List.concat_eq_append, same⟩
    · rintro (⟨empty, -⟩ | ⟨kept, same, rfl⟩)
      · simp at empty
      · rw [same]
        simp

theorem decided_snoc (past : List Deed) (last : Deed) (finding : Finding) :
    Decided (past ++ [last]) finding ↔ last = .decided finding ∨ Decided past finding ∧ ¬ last.misses finding := by
  constructor
  · rintro ⟨before, after, split, seen⟩
    rcases (snoc_split _ _ _ _ _).mp split with ⟨-, -, same⟩ | ⟨rest, rfl, same⟩
    · exact .inl same
    · exact .inr ⟨⟨before, rest, same, fun deed listed => seen deed (by simp [listed])⟩, seen last (by simp)⟩
  · rintro (rfl | ⟨⟨before, after, rfl, seen⟩, last_seen⟩)
    · exact ⟨past, [], rfl, by simp⟩
    · refine ⟨before, after ++ [last], by simp, fun deed listed => ?_⟩
      rcases List.mem_append.mp listed with earlier | final
      · exact seen deed earlier
      · exact List.mem_singleton.mp final ▸ last_seen

theorem lapsed_snoc (past : List Deed) (last : Deed) (finding : Finding) :
    Lapsed (past ++ [last]) finding ↔
      last.misses finding ∧ Sighted past finding ∨ Lapsed past finding ∧ last ≠ .decided finding := by
  constructor
  · rintro ⟨before, missed, after, split, absent, sighted, undecided⟩
    rcases (snoc_split _ _ _ _ _).mp split with ⟨-, rfl, rfl⟩ | ⟨rest, rfl, same⟩
    · exact .inl ⟨absent, sighted⟩
    · refine .inr ⟨⟨before, missed, rest, same, absent, sighted, fun listed => undecided (by simp [listed])⟩, ?_⟩
      exact fun decided => undecided (by simp [decided])
  · rintro (⟨absent, sighted⟩ | ⟨⟨before, missed, after, rfl, absent, sighted, undecided⟩, other⟩)
    · exact ⟨past, last, [], rfl, absent, sighted, by simp⟩
    · exact ⟨before, missed, after ++ [last], by simp, absent, sighted, by simp [undecided, other.symm]⟩

theorem decided_not_lapsed (past : List Deed) (finding : Finding) (decided : Decided past finding) :
    ¬ Lapsed past finding := by
  induction past using List.reverseRecOn with
  | nil =>
      obtain ⟨before, after, split, -⟩ := decided
      simp at split
  | append_singleton past last ih =>
      rw [lapsed_snoc]
      rcases (decided_snoc _ _ _).mp decided with rfl | ⟨earlier, seen⟩
      · simp [Deed.misses]
      · rintro (⟨missed, -⟩ | ⟨lapsed, -⟩)
        · exact seen missed
        · exact ih earlier lapsed

theorem put_diagnostic_row (finding id : Finding) (store : Store) :
    (putDiagnostic finding store).diagnostic? id =
      if id = finding then some ⟨finding, .opened, finding, none⟩ else store.diagnostic? id := by
  split
  · rename_i same
    subst same
    exact put_row Diagnostic.diagnosticId ⟨id, .opened, id, none⟩ store.diagnostics
  · rename_i other
    exact put_row_other Diagnostic.diagnosticId ⟨finding, .opened, finding, none⟩ store.diagnostics id other

theorem put_diagnostics_row (findings : List Finding) (id : Finding) (store : Store) :
    (findings.foldl (fun kept finding => putDiagnostic finding kept) store).diagnostic? id =
      if id ∈ findings then some ⟨id, .opened, id, none⟩ else store.diagnostic? id := by
  induction findings generalizing store with
  | nil => simp
  | cons finding rest ih =>
      rw [List.foldl_cons, ih, put_diagnostic_row]
      by_cases listed : id ∈ rest
      · simp [listed]
      · by_cases same : id = finding <;> simp [listed, same]

theorem close_unobserved_row (observed : List Finding) (id : Finding) (store : Store) :
    (closeUnobserved observed store).diagnostic? id = (store.diagnostic? id).map fun row =>
      if row.status = .opened ∧ row.diagnosticId ∉ observed then { row with status := .resolved } else row := by
  refine row_map Diagnostic.diagnosticId _ (fun row => ?_) id store.diagnostics
  split <;> rfl

theorem hidden_iff (store : Store) (finding : Finding) :
    hidden store finding = true ↔
      ∃ row, store.diagnostic? finding = some row ∧ row.status = .resolved ∧ row.findingDigest = finding := by
  simp [hidden, Option.any_eq_true]

structure Traced (store : Store) (past : List Deed) (finding : Finding) : Prop where
  stored : (store.diagnostic? finding).isSome = true ↔ Sighted past finding
  digest : ∀ row, store.diagnostic? finding = some row → row.findingDigest = finding
  hides : hidden store finding = true ↔ Decided past finding ∨ Lapsed past finding

variable {finding : Finding} {past : List Deed}

theorem Traced.same {before after : Store} (held : Traced before past finding)
    (same : after.diagnostic? finding = before.diagnostic? finding) : Traced after past finding := by
  obtain ⟨stored, digest, hides⟩ := held
  exact ⟨same ▸ stored, same ▸ digest, by rw [← hides, hidden, hidden, same]⟩

theorem Traced.idle {store : Store} (held : Traced store past finding)
    (last : Deed) (unseen : ¬ last.sights finding) (seen : ¬ last.misses finding) (other : last ≠ .decided finding) :
    Traced store (past ++ [last]) finding := by
  obtain ⟨stored, digest, hides⟩ := held
  refine ⟨?_, digest, ?_⟩
  · rw [sighted_snoc, stored, or_iff_left unseen]
  · rw [decided_snoc, lapsed_snoc, hides]
    simp [seen, other]

theorem Traced.decide {before after : Store} (held : Traced before past finding)
    (old new : Diagnostic) (found : before.diagnostic? finding = some old)
    (changed : after.diagnostic? finding = some new) (status : new.status = .resolved)
    (digest : new.findingDigest = old.findingDigest) : Traced after (past ++ [.decided finding]) finding := by
  refine ⟨?_, fun row present => ?_, ?_⟩
  · rw [sighted_snoc, ← held.stored, found, changed]
    simp
  · rw [changed] at present
    cases present
    exact digest.trans (held.digest old found)
  · rw [hidden_iff, decided_snoc]
    exact iff_of_true ⟨new, changed, status, digest.trans (held.digest old found)⟩ (.inl (.inl rfl))

theorem Traced.sight {store : Store} (held : Traced store past finding)
    (observed findings : List Finding) (reported : findings = observed.filter fun other => !hidden store other)
    (seen : finding ∈ observed) :
    Traced (recordFindings observed findings store) (past ++ [.scanned true observed findings]) finding := by
  have sights : (Deed.scanned true observed findings).sights finding := ⟨rfl, seen⟩
  have sees : ¬ (Deed.scanned true observed findings).misses finding := fun missed => missed.2 seen
  have row : (recordFindings observed findings store).diagnostic? finding =
      if hidden store finding then store.diagnostic? finding else some ⟨finding, .opened, finding, none⟩ := by
    rw [recordFindings, close_unobserved_row, put_diagnostics_row, reported]
    by_cases concealed : hidden store finding = true
    · obtain ⟨row, present, status, -⟩ := (hidden_iff _ _).mp concealed
      simp [concealed, present, status]
    · simp [concealed, seen]
  have past_hides : hidden store finding = true ↔
      Decided (past ++ [.scanned true observed findings]) finding ∨
        Lapsed (past ++ [.scanned true observed findings]) finding := by
    rw [decided_snoc, lapsed_snoc, held.hides]
    simp [sees]
  by_cases concealed : hidden store finding = true
  · rw [if_pos concealed] at row
    refine ⟨?_, fun kept present => held.digest kept (row ▸ present), ?_⟩
    · obtain ⟨kept, present, -⟩ := (hidden_iff _ _).mp concealed
      rw [row, sighted_snoc, present]
      exact iff_of_true rfl (.inr sights)
    · rw [← past_hides, hidden, hidden, row]
  · rw [if_neg concealed] at row
    refine ⟨?_, fun kept present => ?_, ?_⟩
    · rw [row, sighted_snoc]
      simp [sights]
    · rw [row] at present
      cases present
      rfl
    · rw [← past_hides, hidden_iff, row]
      simpa using concealed

theorem Traced.miss {store : Store} (held : Traced store past finding)
    (observed findings : List Finding) (reported : findings = observed.filter fun other => !hidden store other)
    (unseen : finding ∉ observed) :
    Traced (recordFindings observed findings store) (past ++ [.scanned true observed findings]) finding := by
  have misses : (Deed.scanned true observed findings).misses finding := ⟨rfl, unseen⟩
  have row : (recordFindings observed findings store).diagnostic? finding =
      (store.diagnostic? finding).map fun row => { row with status := .resolved } := by
    have unlisted : finding ∉ findings := fun listed => unseen (List.mem_of_mem_filter (reported ▸ listed))
    rw [recordFindings, close_unobserved_row, put_diagnostics_row, if_neg unlisted]
    refine Option.map_congr fun row present => ?_
    have named : row.diagnosticId = finding := (row_mem _ _ _ _ present).2
    cases status : row.status with
    | opened => simp [named, unseen]
    | resolved => simp [← status]
  refine ⟨?_, fun kept present => ?_, ?_⟩
  · rw [row, sighted_snoc, Option.isSome_map, held.stored]
    simp [Deed.sights, unseen]
  · rw [row] at present
    obtain ⟨old, found, rfl⟩ := Option.map_eq_some_iff.mp present
    exact held.digest old found
  · have lapses : Lapsed past finding → Sighted past finding := by
      rintro ⟨before, missed, after, rfl, -, ⟨deed, listed, sights⟩, -⟩
      exact ⟨deed, List.mem_append_left _ listed, sights⟩
    have stands : hidden (recordFindings observed findings store) finding = true ↔ Sighted past finding := by
      rw [hidden_iff, row, ← held.stored, Option.isSome_iff_exists]
      constructor
      · rintro ⟨kept, present, -⟩
        obtain ⟨old, found, -⟩ := Option.map_eq_some_iff.mp present
        exact ⟨old, found⟩
      · rintro ⟨old, found⟩
        exact ⟨{ old with status := .resolved }, by rw [found]; rfl, rfl, held.digest old found⟩
    rw [stands, decided_snoc, lapsed_snoc]
    simp only [misses, not_true_eq_false, and_false, or_false, true_and, reduceCtorEq, false_or, ne_eq,
      not_false_eq_true,
      and_true]
    exact ⟨.inl, fun either => either.elim id lapses⟩

variable (world : World)

theorem conclude_diagnostics (session : Database) (reply : Reply) (afterwards : Afterwards) :
    (conclude world session reply afterwards).store.diagnostics = session.store.diagnostics := by
  obtain ⟨activations, outbox, same⟩ := conclude_frame world session reply afterwards
  rw [same]

theorem Move.diagnostics {call : Call} {start next : Database} (move : Move call start next)
    (unreported : call ≠ .selfCheck true) (undecided : ∀ id actorId text, call ≠ .resolveDiagnostic id actorId text) :
    next.store.diagnostics = start.store.diagnostics := by
  cases move with
  | restore restored => exact restored.framed.diagnostics
  | edit edited =>
      cases edited with
      | step _ _ _ _ _ _ _ _ _ _ _ =>
          dsimp only [Store.step]
          split <;> rfl
      | claim _ _ _ _ _ _ _ _ _ =>
          dsimp only [recordClaim]
          repeat' split
          all_goals rfl
      | _ => rfl
  | respond _ _ _ _ _ _ _ _ _ _ _ _ _ _ _ => rfl
  | reply _ _ _ _ _ _ _ _ _ _ _ _ _ _ _ _ _ _ _ _ _ _ => rfl
  | report asked _ =>
      rcases asked with checked | ⟨id, actorId, text, resolved⟩
      · exact absurd checked unreported
      · exact absurd resolved (undecided id actorId text)

theorem performed_diagnostics (call : Call) (store : Store) (sound : Sound store)
    (unreported : call ≠ .selfCheck true) (undecided : ∀ id actorId text, call ≠ .resolveDiagnostic id actorId text) :
    (perform world call store).store.diagnostics = store.diagnostics := by
  have moved : ∀ {final : Database}, Moves call ⟨store, []⟩ final → final.store.diagnostics = store.diagnostics := by
    intro final moves
    induction moves with
    | refl => rfl
    | tail _ move ih => exact (move.diagnostics unreported undecided).trans ih
  exact moved (performed_moves world call store sound)

variable (repair : Bool)

theorem checked_traced (store : Store) (sound : Sound store) (report : CheckReport)
    (session : Database) (done : selfCheck world repair ⟨store, []⟩ = .ok (report, session)) (past : List Deed)
    (finding : Finding) (held : Traced store past finding) :
    Traced session.store (past ++ [.scanned repair report.observed report.findings]) finding := by
  simp only [selfCheck, Tx.bind_done, Tx.ask_done] at done
  obtain ⟨observed, middle, scanned, resolved, _, ⟨rfl, rfl⟩, actionable, middle, ⟨reported, rfl⟩, finish⟩ := done
  have kept : middle.store.diagnostics = store.diagnostics :=
    (scan_restores world repair ⟨store, []⟩ middle observed sound scanned).framed.diagnostics
  have reached : Traced middle.store past finding := held.same (by unfold Store.diagnostic?; rw [kept])
  cases repair with
  | false =>
      obtain ⟨_, _, ⟨-, rfl⟩, rfl, rfl⟩ := by simpa only [Bool.false_eq_true, if_false, Tx.bind_done, Tx.pure_done] using finish
      exact reached.idle _ (by rintro ⟨⟨⟩, _⟩) (by rintro ⟨⟨⟩, _⟩) (by rintro ⟨⟩)
  | true =>
      simp only [if_true, Tx.bind_done, Tx.edit_done, Tx.pure_done] at finish
      obtain ⟨_, _, rfl, rfl, rfl⟩ := finish
      by_cases seen : finding ∈ observed
      · exact reached.sight observed actionable reported seen
      · exact reached.miss observed actionable reported seen

theorem resolved_traced (diagnosticId : Finding) (actorId correction : String) (store : Store) (session : Database)
    (done : resolveDiagnostic world diagnosticId actorId correction ⟨store, []⟩ = .ok ((), session)) (past : List Deed)
    (finding : Finding) (held : Traced store past finding) :
    Traced session.store (past ++ [.decided diagnosticId]) finding := by
  simp only [resolveDiagnostic, Tx.bind_done, Tx.lift_done, Tx.read_done, Tx.ask_done, Tx.require_done,
    Tx.edit_done] at done
  obtain ⟨_, _, ⟨-, rfl⟩, text, _, ⟨-, rfl⟩, _, _, ⟨-, rfl⟩, existing, _, ⟨rfl, rfl⟩, _, _, ⟨known, rfl⟩, rfl⟩ := done
  obtain ⟨old, found⟩ := Option.ne_none_iff_exists'.mp known
  have changed : ∀ other, (Store.diagnostic? { store with diagnostics := store.diagnostics.map fun row =>
      if row.diagnosticId = diagnosticId then { row with status := .resolved, resolution := some ⟨text, actorId, world.now⟩ }
      else row } other) = (store.diagnostic? other).map fun row =>
        if row.diagnosticId = diagnosticId then { row with status := .resolved, resolution := some ⟨text, actorId, world.now⟩ }
        else row :=
    fun other => row_map Diagnostic.diagnosticId _ (fun row => by split <;> rfl) other store.diagnostics
  have named := (row_mem _ _ _ old found).2
  by_cases same : finding = diagnosticId
  · subst same
    exact held.decide old { old with status := .resolved, resolution := some ⟨text, actorId, world.now⟩ } found
      (by rw [changed, found, Option.map_some, if_pos named]) rfl rfl
  · refine (held.same ?_).idle _ id id (fun decided => same (Deed.decided.inj decided).symm)
    rw [changed]
    cases row : store.diagnostic? finding with
    | none => rfl
    | some kept => rw [Option.map_some, if_neg fun other => same ((row_mem _ _ _ kept row).2.symm.trans other)]

theorem performed_traced (call : Call) (store : Store) (sound : Sound store) (past : List Deed)
    (finding : Finding) (held : Traced store past finding) :
    Traced (perform world call store).store (past ++ (deed world store call).toList) finding := by
  have kept : ∀ {before after : Store} {past : List Deed}, after.diagnostics = before.diagnostics →
      Traced before past finding → Traced after past finding := by
    intro before after past same traced
    exact traced.same (by unfold Store.diagnostic?; rw [same])
  by_cases checks : ∃ repair, call = .selfCheck repair
  · obtain ⟨repair, rfl⟩ := checks
    have body : transact world (.selfCheck repair) ⟨store, []⟩ = selfCheck world repair ⟨store, []⟩ >>= fun done =>
      .ok ((.checked done.1, if repair then .publish else .settle), done.2) := rfl
    unfold perform deed
    rw [body]
    cases done : selfCheck world repair ⟨store, []⟩ with
    | error error => simpa [done] using held
    | ok result =>
        obtain ⟨report, session⟩ := result
        simp only [done, Option.toList_some]
        exact kept (conclude_diagnostics _ _ _ _)
          (checked_traced world repair store sound report session done past finding held)
  · by_cases decides : ∃ diagnosticId actorId correction, call = .resolveDiagnostic diagnosticId actorId correction
    · obtain ⟨diagnosticId, actorId, correction, rfl⟩ := decides
      have body : transact world (.resolveDiagnostic diagnosticId actorId correction) ⟨store, []⟩ =
        resolveDiagnostic world diagnosticId actorId correction ⟨store, []⟩ >>= fun done =>
          .ok ((.done, .settle), done.2) := rfl
      unfold perform deed
      rw [body]
      cases done : resolveDiagnostic world diagnosticId actorId correction ⟨store, []⟩ with
      | error error => simpa [done] using held
      | ok result =>
          obtain ⟨_, session⟩ := result
          simp only [done, Option.toList_some]
          exact kept (conclude_diagnostics _ _ _ _)
            (resolved_traced world diagnosticId actorId correction store session done past finding held)
    · have idle : deed world store call = none := by
        cases call with
        | selfCheck repair => exact absurd ⟨repair, rfl⟩ checks
        | resolveDiagnostic id actorId text => exact absurd ⟨id, actorId, text, rfl⟩ decides
        | _ => rfl
      rw [idle, Option.toList_none, List.append_nil]
      exact kept (performed_diagnostics world call store sound (fun same => checks ⟨true, same⟩)
        fun id actorId text same => decides ⟨id, actorId, text, same⟩) held

theorem run_traced (calls : Run) (finding : Finding) :
    Traced (run calls initialized) (history calls initialized) finding := by
  induction calls using List.reverseRecOn with
  | nil =>
      exact ⟨by simp [Store.diagnostic?, row?, run, initialized, history, Sighted],
        by simp [Store.diagnostic?, row?, run, initialized],
        by simp [hidden, Store.diagnostic?, row?, run, initialized, history, Decided, Lapsed]⟩
  | append_singleton front last ih =>
      obtain ⟨world, call⟩ := last
      rw [run_snoc, history_snoc]
      exact performed_traced world call _ (reachable_sound ⟨front, rfl⟩) _ finding ih

theorem scan_hidden (store : Store) (sound : Sound store) (observed : List Finding)
    (middle : Database) (scanned : scan world repair ⟨store, []⟩ = .ok (observed, middle)) :
    hidden middle.store = hidden store := by
  have kept := (scan_restores world repair ⟨store, []⟩ middle observed sound scanned).framed.diagnostics
  funext finding
  unfold hidden Store.diagnostic?
  rw [kept]

theorem self_check_after (store : Store) (observed : List Finding) (middle : Database)
    (scanned : scan world repair ⟨store, []⟩ = .ok (observed, middle)) :
    selfCheck world repair ⟨store, []⟩ =
      (if repair then Tx.edit (recordFindings observed (observed.filter fun finding => !hidden middle.store finding))
        else pure ()) middle >>= fun done =>
        .ok (⟨observed, observed.filter fun finding => !hidden middle.store finding,
          observed.filter fun finding => hidden middle.store finding⟩, done.2) := by
  unfold selfCheck
  change (scan world repair ⟨store, []⟩ >>= _) = _
  rw [scanned]
  cases repair <;> rfl

theorem scan_checks (store : Store) (observed : List Finding) (middle : Database)
    (scanned : scan world repair ⟨store, []⟩ = .ok (observed, middle)) :
    ∃ report session, selfCheck world repair ⟨store, []⟩ = .ok (report, session) ∧ report.observed = observed := by
  rw [self_check_after world repair store observed middle scanned]
  cases repair with
  | false => exact ⟨_, _, rfl, rfl⟩
  | true => exact ⟨_, _, rfl, rfl⟩

theorem self_check_scans (store : Store) (sound : Sound store) (report : CheckReport)
    (session : Database) (done : selfCheck world repair ⟨store, []⟩ = .ok (report, session)) :
    (∃ middle, scan world repair ⟨store, []⟩ = .ok (report.observed, middle)) ∧
      report.findings = report.observed.filter fun finding => !hidden store finding := by
  have body : selfCheck world repair ⟨store, []⟩ = scan world repair ⟨store, []⟩ >>= _ := rfl
  rw [body, bind_ok_iff] at done
  obtain ⟨⟨observed, middle⟩, scanned, rest⟩ := done
  have concealed := scan_hidden world repair store sound observed middle scanned
  cases repair with
  | false =>
      cases rest
      exact ⟨⟨middle, scanned⟩, congrArg (fun chosen => observed.filter fun finding => !chosen finding) concealed⟩
  | true =>
      cases rest
      exact ⟨⟨middle, scanned⟩, congrArg (fun chosen => observed.filter fun finding => !chosen finding) concealed⟩

-- A check leaves a finding out of what it reports only after a decision that
-- every repair since has borne out.
def HidesByDecision (calls : Run) : Prop :=
  ∀ front world repair back, calls = front ++ (world, .selfCheck repair) :: back →
    ∀ report session, selfCheck world repair ⟨run front initialized, []⟩ = .ok (report, session) →
      ∀ finding ∈ report.observed, finding ∉ report.findings → Decided (history front initialized) finding

theorem hidden_by_decision (calls : Run) :
    HidesByDecision calls ↔ ∀ front world repair back, calls = front ++ (world, .selfCheck repair) :: back →
      ∀ observed session, scan world repair ⟨run front initialized, []⟩ = .ok (observed, session) →
        ∀ finding ∈ observed, ¬ Lapsed (history front initialized) finding := by
  constructor
  · intro honest front world repair back split observed middle scanned finding seen lapsed
    obtain ⟨report, session, done, rfl⟩ := scan_checks world repair _ observed middle scanned
    obtain ⟨-, reported⟩ := self_check_scans world repair _ (reachable_sound ⟨front, rfl⟩) report session done
    have left : finding ∉ report.findings := by
      rw [reported]
      simp [(run_traced front finding).hides.mpr (.inr lapsed)]
    exact decided_not_lapsed _ finding (honest front world repair back split report session done
      finding seen left) lapsed
  · intro steady front world repair back split report session done finding seen left
    obtain ⟨⟨middle, scanned⟩, reported⟩ :=
      self_check_scans world repair _ (reachable_sound ⟨front, rfl⟩) report session done
    have concealed : hidden (run front initialized) finding = true := by
      by_contra shown
      exact left (by rw [reported]; simpa [seen] using shown)
    exact ((run_traced front finding).hides.mp concealed).resolve_right
      (steady front world repair back split _ _ scanned finding seen)

def recurrence : Run :=
  let missing := World.calm 0 fun _ => .missing "task.json"
  [(missing, .registerActor ⟨"owner", "owner", "codex", some "thread", none, []⟩),
    (missing, .startWork ⟨"work", "owner", "objective", []⟩),
    (missing, .checkpoint ⟨"work", "owner", 1, .waiting, "summary", none, .all, ["worker:task"], [], [], 10⟩),
    (missing, .selfCheck true),
    (World.calm 0 fun _ => .pending, .selfCheck true)]

theorem recurrence_hidden :
    ¬ HidesByDecision (recurrence ++ [(World.calm 0 fun _ => .missing "task.json", .selfCheck false)]) := by
  intro honest
  obtain ⟨⟨report, session⟩, done, silent⟩ := ok_of_check
    (selfCheck (World.calm 0 fun _ => .missing "task.json") false ⟨run recurrence initialized, []⟩)
    (fun checked => decide (checked.1.findings = [] ∧
      Finding.waitSourceUnavailable "missing" "work" ⟨.worker, "task"⟩ "task.json" ∈ checked.1.observed))
    (by decide +kernel)
  obtain ⟨findings, observed⟩ := of_decide_eq_true silent
  obtain ⟨before, after, split, -⟩ := honest recurrence _ false [] rfl report session done _ observed
    (by rw [findings]; exact List.not_mem_nil)
  have undecided : ((history recurrence initialized).all fun deed => match deed with
      | .decided _ => false
      | .scanned _ _ _ => true) = true := by decide +kernel
  rw [split] at undecided
  simp at undecided

end OrchestratorEngine.Continuity
