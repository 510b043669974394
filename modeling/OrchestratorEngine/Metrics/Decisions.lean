import OrchestratorEngine.Metrics.Eligibility
import OrchestratorEngine.Metrics.Failures

set_option autoImplicit false

namespace OrchestratorEngine.Metrics

open Foundation

def Harmless (ownerSources : List String) (failure item : Observation) : Prop :=
  item.sourceId ∉ ownerSources ∨
    isClassification "failure_disposition" item = true ∧ ¬ Names item failure

def objectsOf (semantics : Semantics) (observations : List Observation) : Except Fault
    (Dict (List String) Observation) :=
  (sortedBy Observation.arrivalOrder observations).foldlM (settleRecord semantics []) Dict.empty

theorem latest_logical_records_eq (semantics : Semantics) (observations : List Observation) :
    latestLogicalRecords semantics [] observations =
      (objectsOf semantics observations).map fun objects => objects.items.map Prod.snd := by
  rw [latestLogicalRecords, objectsOf]
  cases (sortedBy Observation.arrivalOrder observations).foldlM (settleRecord semantics []) Dict.empty <;> rfl

theorem objects_filter (semantics : Semantics) (observations : List Observation)
    (objects : Dict (List String) Observation) (keep : List String → Bool)
    (done : objectsOf semantics observations = .ok objects) :
    ∃ part, objectsOf semantics (observations.filter fun item => keep (identity [] item)) = .ok part ∧
      part.items = objects.items.filter fun item => keep item.1 := by
  obtain ⟨part, folded, same⟩ := settle_filter semantics [] keep _ Dict.empty Dict.empty objects rfl done
  refine ⟨part, ?_, same⟩
  rw [sorted_by_filter] at folded
  exact folded

theorem objects_invariant (semantics : Semantics) (observations : List Observation)
    (objects : Dict (List String) Observation) (holds : List String → Observation → Prop)
    (fresh : ∀ record ∈ observations, holds (identity [] record) record)
    (merged : ∀ record ∈ observations, ∀ earlier, holds (identity [] record) earlier →
      holds (identity [] record) { record with data := updated earlier.data record.data })
    (done : objectsOf semantics observations = .ok objects) : ∀ item ∈ objects.items, holds item.1 item.2 := by
  have same : ∀ record, record ∈ sortedBy Observation.arrivalOrder observations ↔ record ∈ observations :=
    fun record => (sorted_by_perm _ observations).mem_iff
  exact settle_invariant semantics [] holds _ objects (fun record listed => fresh record ((same record).mp listed))
    (fun record listed => merged record ((same record).mp listed)) done

theorem object_source (semantics : Semantics) (observations : List Observation)
    (objects : Dict (List String) Observation) (done : objectsOf semantics observations = .ok objects) :
    ∀ item ∈ objects.items, item.1.head? = some item.2.sourceId :=
  objects_invariant semantics observations objects (fun key item => key.head? = some item.sourceId)
    (fun record _ => identity_source record) (fun record _ _ _ => identity_source record) done

-- An object has the envelope of the last observation of its identity, and each of its
-- fields is reported by an observation of that identity.
theorem object_latest (semantics : Semantics) (observations : List Observation)
    (objects : Dict (List String) Observation) (done : objectsOf semantics observations = .ok objects) :
    ∀ item ∈ objects.items, ∃ latest ∈ observations, identity [] latest = item.1 ∧
      item.2.observationId = latest.observationId :=
  objects_invariant semantics observations objects
    (fun key item => ∃ latest ∈ observations, identity [] latest = key ∧ item.observationId = latest.observationId)
    (fun record listed => ⟨record, listed, rfl, rfl⟩) (fun record listed _ _ => ⟨record, listed, rfl, rfl⟩) done

theorem object_names (semantics : Semantics) (observations : List Observation) (failure : Observation)
    (objects : Dict (List String) Observation) (done : objectsOf semantics observations = .ok objects) :
    ∀ item ∈ objects.items, Names item.2 failure →
      ∃ record ∈ observations, identity [] record = item.1 ∧ Names record failure := by
  refine objects_invariant semantics observations objects (fun key item => Names item failure →
    ∃ record ∈ observations, identity [] record = key ∧ Names record failure)
    (fun record listed names => ⟨record, listed, rfl, names⟩) (fun record listed earlier prior names => ?_) done
  obtain ⟨executionId, identified, given⟩ := names
  rw [merged_field] at given
  split at given
  · exact ⟨record, listed, rfl, executionId, identified, given⟩
  · exact prior ⟨executionId, identified, given⟩

section Additions

variable {semantics : Semantics} {ownerSources : List String} {failure : Observation}
  {old added whole : List Observation} {before after : Dict (List String) Observation}

def untouched (added : List Observation) (key : List String) : Bool :=
  decide (∀ item ∈ added, identity [] item ≠ key)

theorem untouched_objects (woven : Woven old added whole) (first : objectsOf semantics old = .ok before)
    (second : objectsOf semantics whole = .ok after) :
    after.items.filter (fun item => untouched added item.1) = before.items.filter fun item =>
    untouched added item.1 := by
  obtain ⟨part, taken, same⟩ := objects_filter semantics old before (untouched added) first
  obtain ⟨rest, found, also⟩ := objects_filter semantics whole after (untouched added) second
  have nothing : added.filter (fun item => untouched added (identity [] item)) = [] := by
    rw [List.filter_eq_nil_iff]
    intro item listed clear
    exact of_decide_eq_true clear item listed rfl
  have kept := woven.filter fun item => untouched added (identity [] item)
  rw [nothing] at kept
  rw [kept.nothing_new, taken] at found
  cases found
  rw [← also, same]

theorem untouched_kept (woven : Woven old added whole) (first : objectsOf semantics old = .ok before)
    (second : objectsOf semantics whole = .ok after) (item : List String × Observation) (listed : item ∈ after.items)
    (clear : untouched added item.1 = true) : item ∈ before.items := by
  have kept : item ∈ after.items.filter fun item => untouched added item.1 := List.mem_filter.mpr ⟨listed, clear⟩
  rw [untouched_objects woven first second] at kept
  exact (List.mem_filter.mp kept).1

theorem named_before (woven : Woven old added whole) (harmless : ∀ item ∈ added, Harmless ownerSources failure item)
    (second : objectsOf semantics whole = .ok after) (item : List String × Observation) (listed : item ∈ after.items)
    (owned : item.2.sourceId ∈ ownerSources) (names : Names item.2 failure) :
    ∃ record ∈ old, identity [] record = item.1 ∧ Names record failure := by
  obtain ⟨record, sent, keyed, named⟩ := object_names semantics whole failure after second item listed names
  refine ⟨record, ?_, keyed, named⟩
  rcases (woven.mem_iff record).mp sent with stale | fresh
  · exact stale
  · have source := object_source semantics whole after second item listed
    have own : record.sourceId = item.2.sourceId :=
      Option.some.inj ((identity_source record).symm.trans (keyed ▸ source))
    rcases harmless record fresh with foreign | ⟨_, other⟩
    · exact absurd (own ▸ owned) foreign
    · exact absurd named other

end Additions

def ofPackage (query : Query) (item : Observation) : Bool :=
  concerns "package_id" query.packageId item && concerns "operation_id" query.operationId item

theorem package_records_iff (query : Query) (observations records : List Observation) :
    packageRecords query observations = .ok records ↔
      ∃ objects, objectsOf query.semantics (observations.filter (known query.asOf)) = .ok objects ∧
        records = (objects.items.map Prod.snd).filter (ofPackage query) := by
  rw [packageRecords, latest_logical_records_eq]
  cases objectsOf query.semantics (observations.filter (known query.asOf)) with
  | error fault =>
      constructor
      · intro done
        cases done
      · rintro ⟨objects, done, -⟩
        cases done
  | ok objects =>
      constructor
      · intro done
        exact ⟨objects, rfl, (Except.ok.inj done).symm⟩
      · rintro ⟨again, done, rfl⟩
        cases done
        rfl

def sameExecution (failure item : Observation) : Bool :=
  isAttempt item && (item.field "execution_id").equals (failure.field "execution_id")

structure Unplaced (ownerSources : List String) (records : List Observation) (failure item : Observation) : Prop where
  listed : item ∈ records
  classified : isClassification "failure_disposition" item = true
  names : Names item failure
  settles : Settling (item.field "status")
  owned : item.sourceId ∈ ownerSources
  candidate : (failure.field "candidate_id").isNull = true ∨ (item.field "candidate_id").isNull = true ∨
    (item.field "candidate_id").equals (failure.field "candidate_id") = true
  placeless : (item.field "source_execution_source_id").text? = none

-- An added observation has updated one of an owner that names the failure, and what
-- the two make together settles it.
structure Completed (ownerSources : List String) (old added after : List Observation) (failure item : Observation) :
    Prop where
  disposition : Disposition ownerSources after failure item
  updated : ∃ record ∈ old, ∃ update ∈ added, ∃ latest ∈ old ++ added, Names record failure ∧
    identity [] record = identity [] latest ∧ identity [] update = identity [] latest ∧
    item.observationId = latest.observationId

structure Guarded (query : Query) (old added before after : List Observation) (failure : Observation) : Prop where
  bound : ∃ selected, selectPackageBinding query.ownerSources after = .ok selected ∧
    (query.scope = .operationOnly ∨ ∃ binding, selected = .ok binding) ∧ Applies selected.toOption failure
  placed : ∀ item ∈ after, Unplaced query.ownerSources before failure item →
    ∃ attempt ∈ after, sameExecution failure attempt = true ∧ attempt.sourceId ≠ failure.sourceId
  unfinished : ∀ item, ¬ Completed query.ownerSources old added after failure item

theorem names_equal {disposition failure : Observation} (names : Names disposition failure) :
    (disposition.field "source_execution_id").equals (failure.field "execution_id") = true ∧
      (failure.field "execution_id").equals (failure.field "execution_id") = true := by
  obtain ⟨executionId, own, given⟩ := names
  obtain ⟨-, first⟩ := (Json.text_iff _ _).mp own
  obtain ⟨-, second⟩ := (Json.text_iff _ _).mp given
  rw [first, second, Json.equals_str]
  exact ⟨rfl, rfl⟩

theorem targets_placed {disposition failure : Observation} {source : String} (records : List Observation)
    (placed : (disposition.field "source_execution_source_id").text? = some source) :
    targetsFailure disposition failure records = decide (source = failure.sourceId) := by
  simp only [targetsFailure, placed]

theorem targets_placeless (disposition failure : Observation) (records : List Observation)
    (placeless : (disposition.field "source_execution_source_id").text? = none)
    (present : ∃ attempt ∈ records, sameExecution failure attempt = true) :
    targetsFailure disposition failure records = true ↔
      ∀ attempt ∈ records, sameExecution failure attempt = true → attempt.sourceId = failure.sourceId := by
  obtain ⟨witness, held, alike⟩ := present
  have member : witness ∈ records.filter (sameExecution failure) := List.mem_filter.mpr ⟨held, alike⟩
  have filled : (records.filter (sameExecution failure)).isEmpty = false := by
    simpa [List.isEmpty_iff] using List.ne_nil_of_mem member
  simp only [targetsFailure, placeless]
  change (!(records.filter (sameExecution failure)).isEmpty &&
    (records.filter (sameExecution failure)).all fun item => decide (item.sourceId = failure.sourceId)) = true ↔ _
  rw [filled, Bool.not_false, Bool.true_and, List.all_eq_true]
  constructor
  · exact fun all attempt listed same => of_decide_eq_true (all attempt (List.mem_filter.mpr ⟨listed, same⟩))
  · exact fun all attempt found =>
      decide_eq_true (all attempt (List.mem_filter.mp found).1 (List.mem_filter.mp found).2)

theorem Unplaced.disposes {ownerSources : List String} {before after : List Observation} {failure item : Observation}
    (unplaced : Unplaced ownerSources before failure item) (listed : item ∈ after) (stays : failure ∈ after)
    (failing : Failing failure)
    (alone : ∀ attempt ∈ after, sameExecution failure attempt = true → attempt.sourceId = failure.sourceId) :
    Disposition ownerSources after failure item := by
  obtain ⟨equal, itself⟩ := names_equal unplaced.names
  have same : sameExecution failure failure = true := Bool.and_eq_true_iff.mpr ⟨failing.1, itself⟩
  have targets := (targets_placeless item failure after unplaced.placeless ⟨failure, stays, same⟩).mpr alone
  exact ⟨listed, unplaced.classified, equal, unplaced.settles, unplaced.owned, targets, unplaced.candidate⟩

theorem disposition_kept (query : Query) (observations added whole before after : List Observation)
    (failure : Observation) (binding : Option Binding) (woven : Woven observations added whole)
    (harmless : ∀ item ∈ added, Harmless query.ownerSources failure item)
    (first : packageRecords query observations = .ok before) (second : packageRecords query whole = .ok after)
    (stays : failure ∈ after) (failing : Failing failure) (identified : (executionOf failure).isSome = true)
    (unresolved : failureIsUnresolved query.ownerSources before binding failure = .ok true) :
    (∀ item, ¬ Disposition query.ownerSources after failure item) ↔
      (∀ item ∈ after, Unplaced query.ownerSources before failure item →
        ∃ attempt ∈ after, sameExecution failure attempt = true ∧ attempt.sourceId ≠ failure.sourceId) ∧
      ∀ item, ¬ Completed query.ownerSources observations added after failure item := by
  obtain ⟨earlier, taken, rfl⟩ := (package_records_iff query observations before).mp first
  obtain ⟨later, found, rfl⟩ := (package_records_iff query whole after).mp second
  have weaving := woven.filter (known query.asOf)
  have unsettled := (resolved_iff _ _ _ _ _ unresolved).not.mp (by decide)
  obtain ⟨executionId, named⟩ := Option.isSome_iff_exists.mp identified
  constructor
  · intro none
    refine ⟨fun item listed unplaced => ?_, fun item completed => none item completed.disposition⟩
    by_contra alone
    apply none item (unplaced.disposes listed stays failing ?_)
    intro attempt listed alike
    by_contra other
    exact alone ⟨attempt, listed, alike, other⟩
  · rintro ⟨placed, unfinished⟩ item disposed
    have names := disposition_names _ _ _ _ disposed executionId named
    obtain ⟨present, concerned⟩ := List.mem_filter.mp disposed.listed
    obtain ⟨entry, member, rfl⟩ := List.mem_map.mp present
    cases touched : untouched (added.filter (known query.asOf)) entry.1 with
    | false =>
        obtain ⟨update, sent, keyed⟩ : ∃ update ∈ added.filter (known query.asOf), identity [] update = entry.1 := by
          simpa [untouched, and_assoc] using touched
        obtain ⟨record, stale, same, naming⟩ := named_before weaving
          (fun item chosen => harmless item (List.mem_filter.mp chosen).1) found entry member disposed.owned names
        obtain ⟨latest, among, last, envelope⟩ := object_latest _ _ _ found entry member
        have either : latest ∈ observations ++ added :=
          List.mem_append.mpr ((woven.mem_iff latest).mp (List.mem_filter.mp among).1)
        exact unfinished entry.2 ⟨disposed, record, (List.mem_filter.mp stale).1, update, (List.mem_filter.mp sent).1,
          latest, either, naming, same.trans last.symm, keyed.trans last.symm, envelope⟩
    | true =>
        have kept := untouched_kept weaving taken found entry member touched
        have listed : entry.2 ∈ (earlier.items.map Prod.snd).filter (ofPackage query) :=
          List.mem_filter.mpr ⟨List.mem_map_of_mem kept, concerned⟩
        have targets := disposed.targets
        cases located : (entry.2.field "source_execution_source_id").text? with
        | some source =>
            rw [targets_placed _ located] at targets
            exact unsettled (.inr (.inr ⟨entry.2, listed, disposed.classified, disposed.equal, disposed.settles,
              disposed.owned, (targets_placed _ located).trans targets, disposed.candidate⟩))
        | none =>
            obtain ⟨attempt, also, alike, other⟩ := placed entry.2 disposed.listed
              ⟨listed, disposed.classified, names, disposed.settles, disposed.owned, disposed.candidate, located⟩
            exact absurd ((targets_placeless entry.2 failure _ located ⟨attempt, also, alike⟩).mp targets attempt also
              alike) other

theorem resolution_kept (query : Query) (observations added whole before after : List Observation)
    (failure : Observation)
    (binding current : Option Binding) (woven : Woven observations added whole)
    (harmless : ∀ item ∈ added, Harmless query.ownerSources failure item)
    (first : packageRecords query observations = .ok before) (second : packageRecords query whole = .ok after)
    (stays : failure ∈ after) (failing : Failing failure) (identified : (executionOf failure).isSome = true)
    (unresolved : failureIsUnresolved query.ownerSources before binding failure = .ok true) (verdict : Bool)
    (judged : failureIsUnresolved query.ownerSources after current failure = .ok verdict) :
    verdict = true ↔ Applies current failure ∧
      (∀ item ∈ after, Unplaced query.ownerSources before failure item →
        ∃ attempt ∈ after, sameExecution failure attempt = true ∧ attempt.sourceId ≠ failure.sourceId) ∧
      ∀ item, ¬ Completed query.ownerSources observations added after failure item := by
  rw [← disposition_kept query observations added whole before after failure binding woven harmless first second stays
    failing identified unresolved]
  have unsettled : ¬ SelfSettled query.ownerSources failure := fun settled =>
    (resolved_iff _ _ _ _ _ unresolved).not.mp (by decide) (.inl settled)
  have settledLater := resolved_iff _ _ _ _ _ judged
  constructor
  · rintro rfl
    have clear := settledLater.not.mp (by decide)
    simp only [not_or, not_not, not_exists] at clear
    exact ⟨clear.2.1, clear.2.2⟩
  · rintro ⟨applies, none⟩
    cases verdict with
    | true => rfl
    | false =>
        rcases settledLater.mp rfl with own | away | ⟨item, disposed⟩
        · exact absurd own unsettled
        · exact absurd applies away
        · exact absurd disposed (none item)

def SettlingSound (query : Query) (records : List Observation) (details : Details) (failure : Observation) : Prop :=
  failure ∉ details.unresolvedFailures →
    (OwnerDecision query.ownerSources records failure ↔
      (executionOf failure).isSome = true ∨ SelfSettled query.ownerSources failure)

-- What is added without a decision on an identified failure leaves it unresolved
-- exactly where the failure is guarded.
def SettlingStable (query : Query) (observations records : List Observation) (details : Details)
    (failure : Observation) : Prop :=
  failure ∈ details.unresolvedFailures → (executionOf failure).isSome = true →
    ∀ added whole after guided, Woven observations added whole →
      (∀ item ∈ added, Harmless query.ownerSources failure item) →
      packageRecords query whole = .ok after → failure ∈ after → advise query whole = .ok guided →
      ((∃ later, guided.details = some later ∧ failure ∈ later.unresolvedFailures) ↔
        Guarded query observations added records after failure)

def failedCheck : Observation := { observed "failed" "execution_attempt" 2 [("execution_id", .str "first"),
  ("operation_id", .str "check"), ("status", .str "failed")] with sourceId := "worker" }

def namelessFailure : Observation := { observed "failed" "execution_attempt" 2 [("operation_id", .str "check"),
  ("status", .str "failed")] with sourceId := "worker" }

def blankDisposition : Observation := observed "disposition" "classification" 3
  [("classification_kind", .str "failure_disposition"), ("status", .str "resolved")]

def countUnresolved (guidance : Guidance) : Nat :=
  (guidance.details.map fun details => details.unresolvedFailures.length).getD 0

end OrchestratorEngine.Metrics
