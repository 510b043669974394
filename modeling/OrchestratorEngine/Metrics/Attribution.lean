import OrchestratorEngine.Foundation.Alike
import OrchestratorEngine.Foundation.Raising
import OrchestratorEngine.Metrics.Logical
import OrchestratorEngine.Metrics.Usage

set_option autoImplicit false

namespace OrchestratorEngine.Metrics

open Foundation

section Sorting

variable {α κ : Type} [LE κ] [DecidableLE κ] (key : α → κ) {relation : α → α → Prop}

theorem inserted_related (keys : ∀ {item image}, relation item image → key image = key item) {item image : α}
    (same : relation item image) {items images : List α} (related : List.Forall₂ relation items images) :
    List.Forall₂ relation (items.orderedInsert (fun left right => key left ≤ key right) item)
      (images.orderedInsert (fun left right => key left ≤ key right) image) := by
  induction related with
  | nil => exact .cons same .nil
  | @cons head other rest others agree tail ih =>
      rw [List.orderedInsert_cons, List.orderedInsert_cons, keys same, keys agree]
      split
      · exact .cons same (.cons agree tail)
      · exact .cons agree ih

theorem sorted_related (keys : ∀ {item image}, relation item image → key image = key item) {items images : List α}
    (related : List.Forall₂ relation items images) : List.Forall₂ relation (sortedBy key items)
    (sortedBy key images) := by
  induction related with
  | nil => exact .nil
  | cons same _ ih => exact inserted_related key keys same ih

end Sorting

def usageFields : List String := ["total_tokens", "usage_measurement_status"]

structure Matches (item image : Observation) : Prop where
  observationId : image.observationId = item.observationId
  sourceId : image.sourceId = item.sourceId
  recordType : image.recordType = item.recordType
  data : ∀ name, name ∉ usageFields → image.data.get? name = item.data.get? name

structure Rewritten (usage : UsageSources) (item image : Observation) : Prop extends Matches item image where
  kept : usage.admits item.sourceId = true → image = item
  observedAt : image.observedAt = item.observedAt
  effectiveAt : image.effectiveAt = item.effectiveAt
  knownAt : image.knownAt = item.knownAt
  scope : image.scope = item.scope

theorem Rewritten.refl (usage : UsageSources) (item : Observation) : Rewritten usage item item :=
  ⟨⟨rfl, rfl, rfl, fun _ _ => rfl⟩, fun _ => rfl, rfl, rfl, rfl, rfl⟩

-- What the observations of one object amount to, with the fields in which a
-- source that is not one of usage has had the last word, or could have.
structure Logical where
  record : Observation
  foreign : String → Bool

def Logical.first (usage : UsageSources) (record : Observation) : Logical :=
  ⟨record, fun _ => !usage.admits record.sourceId⟩

def Logical.merged (usage : UsageSources) (record : Observation) (previous : Logical) : Logical :=
  ⟨{ record with data := updated previous.record.data record.data },
    fun name => !usage.admits record.sourceId || ((record.data.get? name).isNone && previous.foreign name)⟩

section Settling

variable (semantics : Semantics) (canonicalSources : List String)

def settled (observations : List Observation) : Except Fault (Dict (List String) Observation) :=
  (sortedBy Observation.arrivalOrder observations).foldlM (settleRecord semantics canonicalSources) Dict.empty

def traceRecord (usage : UsageSources) (selected : Dict (List String) Logical) (record : Observation) :
    Except Fault (Dict (List String) Logical) := do
  let key := identity canonicalSources record
  match selected.get? key with
  | none => return selected.set key (.first usage record)
  | some previous => do
      if ← mergesInto semantics record then return selected.set key (previous.merged usage record)
      else return selected.set key (.first usage record)

def traced (usage : UsageSources) (observations : List Observation) : Except Fault (Dict (List String) Logical) :=
  (sortedBy Observation.arrivalOrder observations).foldlM (traceRecord semantics canonicalSources usage) Dict.empty

end Settling

section Identities

variable {item image : Observation}

theorem Matches.field (matched : Matches item image) {name : String} (other : name ∉ usageFields) :
    image.field name = item.field name := by
  unfold Observation.field
  rw [matched.data name other]

theorem Matches.field_identity (matched : Matches item image) (names : List String)
    (others : ∀ name ∈ names, name ∉ usageFields) : fieldIdentity image names = fieldIdentity item names := by
  induction names with
  | nil => simp only [fieldIdentity, matched.sourceId, matched.observationId]
  | cons name rest ih =>
      have kind : image.field "execution_kind" = item.field "execution_kind" := matched.field (by decide)
      simp only [fieldIdentity, matched.field (others name List.mem_cons_self), kind, matched.sourceId,
        matched.recordType,
        ih fun other listed => others other (List.mem_cons_of_mem _ listed)]

theorem Matches.identity (matched : Matches item image) (canonicalSources : List String) :
    Metrics.identity canonicalSources image = Metrics.identity canonicalSources item := by
  have fields : fieldIdentity image identityFields = fieldIdentity item identityFields :=
    matched.field_identity identityFields (by decide)
  have canonical : image.field "canonical_identity" = item.field "canonical_identity" := matched.field (by decide)
  have revision : image.field "scope_revision_id" = item.field "scope_revision_id" := matched.field (by decide)
  have workItem : image.field "work_item_id" = item.field "work_item_id" := matched.field (by decide)
  have criteria : image.field "criteria_revision" = item.field "criteria_revision" := matched.field (by decide)
  simp only [Metrics.identity, canonicalName, sourceIdentity, fields, canonical, revision, workItem, criteria,
    matched.sourceId, matched.recordType]

theorem Matches.usage_key (matched : Matches item image) : usageKey image = usageKey item := by
  have event : image.field "usage_event_id" = item.field "usage_event_id" := matched.field (by decide)
  simp only [usageKey, event, matched.sourceId, matched.identity []]

theorem Matches.merges (matched : Matches item image) (semantics : Semantics) :
    mergesInto semantics image = mergesInto semantics item := by
  simp only [mergesInto, matched.sourceId, matched.data "observation_mode" (by decide)]

end Identities

section Simulation

variable (semantics : Semantics) (canonicalSources : List String) (usage : UsageSources)

variable (fill : List String → String → Option Json → Prop)

structure Image (item image : Observation) : Prop extends Rewritten usage item image where
  fills : usage.admits item.sourceId = false → ∀ name ∈ usageFields, ∀ previous,
    fill (identity canonicalSources item) name ((image.data.get? name).or previous)

structure Reads (key : List String) (object : Logical) (image : Observation) : Prop extends
    Matches object.record image where
  own : ∀ name, object.foreign name = false → image.data.get? name = object.record.data.get? name
  filled : ∀ name ∈ usageFields, object.foreign name = true → fill key name (image.data.get? name)

variable {semantics canonicalSources usage fill}

theorem first_reads {item image : Observation} (same : Image canonicalSources usage fill item image) :
    Reads fill (identity canonicalSources item) (.first usage item) image := by
  refine ⟨same.toMatches, fun name own => ?_, fun name listed foreign => ?_⟩
  · rw [same.kept (by simpa [Logical.first] using own)]
    rfl
  · simpa using same.fills (by simpa [Logical.first] using foreign) name listed none

theorem merged_reads {key : List String} {object : Logical} {item image previous : Observation}
    (before : Reads fill key object previous) (same : Image canonicalSources usage fill item image)
    (keyed : identity canonicalSources item = key) :
    Reads fill key (object.merged usage item) { image with data := updated previous.data image.data } := by
  have admitted : ∀ {name}, (object.merged usage item).foreign name = false → usage.admits item.sourceId = true := by
    intro name own
    simpa using (Bool.or_eq_false_iff.mp own).1
  refine ⟨⟨same.observationId, same.sourceId, same.recordType, fun name other => ?_⟩, fun name own => ?_,
    fun name listed foreign => ?_⟩
  · simp only [Logical.merged, updated_get, same.data name other, before.data name other]
  · have exact_ := same.kept (admitted own)
    subst exact_
    simp only [Logical.merged, updated_get]
    cases held : image.data.get? name with
    | some _ => rfl
    | none =>
        have earlier : object.foreign name = false := by
          have unsaid := (Bool.or_eq_false_iff.mp own).2
          rw [held] at unsaid
          exact unsaid
        exact before.own name earlier
  · simp only [updated_get]
    cases admits : usage.admits item.sourceId with
    | false => exact keyed ▸ same.fills admits name listed _
    | true =>
        have exact_ := same.kept admits
        subst exact_
        simp only [Logical.merged, admits, Bool.not_true, Bool.false_or, Bool.and_eq_true] at foreign
        rw [Option.isNone_iff_eq_none.mp foreign.1, Option.none_or]
        exact before.filled name listed foreign.2

theorem trace_step {objects next : Dict (List String) Logical} {records : Dict (List String) Observation}
    {item image : Observation} (alike : Dict.Alike (Reads fill) objects records)
    (same : Image canonicalSources usage fill item image)
    (taken : traceRecord semantics canonicalSources usage objects item = .ok next) :
    ∃ after, settleRecord semantics canonicalSources records image = .ok after ∧ Dict.Alike (Reads fill)
    next after := by
  unfold traceRecord at taken
  unfold settleRecord
  rw [same.toMatches.identity canonicalSources]
  have found := alike.get (identity canonicalSources item)
  revert found taken
  dsimp only
  generalize objects.get? (identity canonicalSources item) = known
  generalize records.get? (identity canonicalSources item) = held
  intro taken found
  cases found with
  | neither =>
      cases taken
      exact ⟨_, rfl, alike.set _ (first_reads same)⟩
  | both before =>
      obtain ⟨merges, mode, done⟩ := (bind_ok_iff _ _ _).mp taken
      dsimp only
      rw [same.toMatches.merges semantics, mode, bind_ok]
      cases merges with
      | true =>
          cases done
          exact ⟨_, rfl, alike.set _ (merged_reads before same rfl)⟩
      | false =>
          cases done
          exact ⟨_, rfl, alike.set _ (first_reads same)⟩

theorem trace_images {observations images : List Observation} {objects : Dict (List String) Logical}
    (rewritten : List.Forall₂ (Image canonicalSources usage fill) observations images)
    (done : traced semantics canonicalSources usage observations = .ok objects) :
    ∃ records, settled semantics canonicalSources images = .ok records ∧ Dict.Alike (Reads fill) objects records := by
  have orders : ∀ {item image}, Image canonicalSources usage fill item image →
    image.arrivalOrder = item.arrivalOrder := by
    intro item image same
    simp only [Observation.arrivalOrder, same.knownAt, same.observedAt, same.observationId]
  exact fold_simulates _ _ trace_step (sorted_related Observation.arrivalOrder orders rewritten) .empty done

end Simulation

section Tracing

variable {semantics : Semantics} {canonicalSources : List String} {usage : UsageSources}

theorem settled_traced {observations : List Observation} {records : Dict (List String) Observation}
    (done : settled semantics canonicalSources observations = .ok records) :
    ∃ objects, traced semantics canonicalSources usage observations = .ok objects ∧
      Dict.Alike (fun _ record object => object.record = record) records objects := by
  have steps : ∀ {records : Dict (List String) Observation} {objects : Dict (List String) Logical}
      {item image : Observation} {next : Dict (List String) Observation},
      Dict.Alike (fun _ record object => object.record = record) records objects → item = image →
      settleRecord semantics canonicalSources records item = .ok next →
      ∃ after, traceRecord semantics canonicalSources usage objects image = .ok after ∧
        Dict.Alike (fun _ record object => object.record = record) next after := by
    intro records objects item image next alike same taken
    subst same
    unfold settleRecord at taken
    unfold traceRecord
    have found := alike.get (identity canonicalSources item)
    revert found taken
    dsimp only
    generalize objects.get? (identity canonicalSources item) = known
    generalize records.get? (identity canonicalSources item) = held
    intro taken found
    cases found with
    | neither =>
        cases taken
        exact ⟨_, rfl, alike.set _ rfl⟩
    | both before =>
        obtain ⟨merges, mode, taken⟩ := (bind_ok_iff _ _ _).mp taken
        dsimp only
        rw [mode, bind_ok]
        cases merges with
        | true =>
            cases taken
            subst before
            exact ⟨_, rfl, alike.set _ rfl⟩
        | false =>
            cases taken
            exact ⟨_, rfl, alike.set _ rfl⟩
  exact fold_simulates _ _ steps (List.forall₂_eq_eq_eq ▸ rfl) .empty done

def ownObservations (usage : UsageSources) (observations : List Observation) : List Observation :=
  observations.filter fun item => usage.admits item.sourceId

-- Where no foreign source has had the last word, the sources of usage agree
-- among themselves with what all of them have made of the object.
structure Concur (objects : Dict (List String) Logical) (own : Dict (List String) Observation) : Prop where
  known : ∀ key item, own.get? key = some item → ∃ object, objects.get? key = some object
  said : ∀ key object name, objects.get? key = some object → object.foreign name = false →
    ∃ item, own.get? key = some item ∧ item.data.get? name = object.record.data.get? name

variable {record : Observation}

variable {objects next : Dict (List String) Logical}

theorem trace_record_done
    (taken : traceRecord semantics canonicalSources usage objects record = .ok next) :
    ∃ object, next = objects.set (identity canonicalSources record) object ∧
      (object = .first usage record ∧
          (objects.get? (identity canonicalSources record) = none ∨ mergesInto semantics record = .ok false) ∨
        ∃ previous, objects.get? (identity canonicalSources record) = some previous ∧
          mergesInto semantics record = .ok true ∧ object = previous.merged usage record) := by
  unfold traceRecord at taken
  dsimp only at taken
  split at taken
  · rename_i missing
    cases taken
    exact ⟨_, rfl, .inl ⟨rfl, .inl missing⟩⟩
  · rename_i previous found
    obtain ⟨merges, mode, taken⟩ := (bind_ok_iff _ _ _).mp taken
    cases merges with
    | true =>
        cases taken
        exact ⟨_, rfl, .inr ⟨previous, found, mode, rfl⟩⟩
    | false =>
        cases taken
        exact ⟨_, rfl, .inl ⟨rfl, .inr mode⟩⟩

theorem settle_record_done {own after : Dict (List String) Observation}
    (taken : settleRecord semantics canonicalSources own record = .ok after) :
    ∃ item, after = own.set (identity canonicalSources record) item ∧
      (item = record ∧ (own.get? (identity canonicalSources record) = none ∨ mergesInto semantics record = .ok false) ∨
        ∃ previous, own.get? (identity canonicalSources record) = some previous ∧
          mergesInto semantics record = .ok true ∧ item =
          { record with data := updated previous.data record.data }) := by
  unfold settleRecord at taken
  dsimp only at taken
  split at taken
  · rename_i missing
    cases taken
    exact ⟨_, rfl, .inl ⟨rfl, .inl missing⟩⟩
  · rename_i previous found
    obtain ⟨merges, mode, taken⟩ := (bind_ok_iff _ _ _).mp taken
    cases merges with
    | true =>
        cases taken
        exact ⟨_, rfl, .inr ⟨previous, found, mode, rfl⟩⟩
    | false =>
        cases taken
        exact ⟨_, rfl, .inl ⟨rfl, .inr mode⟩⟩

theorem concur_foreign {own : Dict (List String) Observation}
    (concur : Concur objects own) (foreign : usage.admits record.sourceId = false)
    (taken : traceRecord semantics canonicalSources usage objects record = .ok next) : Concur next own := by
  obtain ⟨object, rfl, made⟩ := trace_record_done taken
  have sways : ∀ name, object.foreign name = true := by
    intro name
    rcases made with ⟨rfl, -⟩ | ⟨previous, -, -, rfl⟩ <;> simp [Logical.first, Logical.merged, foreign]
  refine ⟨fun key item held => ?_, fun key other name found said => ?_⟩
  · obtain ⟨other, found⟩ := concur.known key item held
    rw [Dict.get_set]
    split
    · exact ⟨object, rfl⟩
    · exact ⟨other, found⟩
  · rw [Dict.get_set] at found
    split at found
    · cases found
      rw [sways name] at said
      cases said
    · exact concur.said key other name found said

theorem concur_own {own after : Dict (List String) Observation}
    (concur : Concur objects own) (admitted : usage.admits record.sourceId = true)
    (taken : traceRecord semantics canonicalSources usage objects record = .ok next)
    (also : settleRecord semantics canonicalSources own record = .ok after) : Concur next after := by
  obtain ⟨object, rfl, made⟩ := trace_record_done taken
  obtain ⟨item, rfl, built⟩ := settle_record_done also
  -- The sources of usage may have begun anew where all of them have merged.
  have same : ∀ name, object.foreign name = false → item.data.get? name = object.record.data.get? name := by
    intro name said
    rcases made with ⟨rfl, begun⟩ | ⟨previous, found, mode, rfl⟩
    · rcases built with ⟨rfl, -⟩ | ⟨earlier, held, mode, rfl⟩
      · rfl
      · rcases begun with missing | unmerged
        · obtain ⟨other, known⟩ := concur.known _ _ held
          cases missing.symm.trans known
        · cases mode.symm.trans unmerged
    · simp only [Logical.merged, admitted, Bool.not_true, Bool.false_or] at said
      simp only [Logical.merged, updated_get]
      cases stated : record.data.get? name with
      | some value =>
          rcases built with ⟨rfl, -⟩ | ⟨earlier, -, -, rfl⟩
          · rw [stated, Option.some_or]
          · simp only [updated_get, stated, Option.some_or]
      | none =>
          rw [stated] at said
          obtain ⟨earlier, held, agreed⟩ := concur.said _ previous name found said
          rcases built with ⟨-, missing | unmerged⟩ | ⟨other, known, -, rfl⟩
          · cases missing.symm.trans held
          · cases mode.symm.trans unmerged
          · cases held.symm.trans known
            simp only [updated_get, stated, Option.none_or, agreed]
  refine ⟨fun key other held => ?_, fun key other name found said => ?_⟩
  · rw [Dict.get_set] at held ⊢
    split
    · exact ⟨object, rfl⟩
    · rename_i elsewhere
      rw [if_neg elsewhere] at held
      exact concur.known key other held
  · rw [Dict.get_set] at found ⊢
    split
    · rename_i here
      rw [if_pos here] at found
      cases found
      exact ⟨item, rfl, same name said⟩
    · rename_i elsewhere
      rw [if_neg elsewhere] at found
      exact concur.said key other name found said

theorem folds_concur (records : List Observation) {objects final : Dict (List String) Logical}
    {own last : Dict (List String) Observation} (concur : Concur objects own)
    (done : records.foldlM (traceRecord semantics canonicalSources usage) objects = .ok final)
    (also : (ownObservations usage records).foldlM (settleRecord semantics canonicalSources) own = .ok last) :
    Concur final last := by
  induction records generalizing objects own with
  | nil =>
      cases done
      cases also
      exact concur
  | cons record rest ih =>
      obtain ⟨next, taken, onward⟩ := (fold_cons_ok record rest objects final).mp done
      unfold ownObservations at also
      cases admits : usage.admits record.sourceId with
      | false =>
          simp only [List.filter_cons, admits, Bool.false_eq_true, if_false] at also
          exact ih (concur_foreign concur admits taken) onward also
      | true =>
          simp only [List.filter_cons, admits, if_true] at also
          obtain ⟨after, settled, later⟩ := (fold_cons_ok record _ own last).mp also
          exact ih (concur_own concur admits taken settled) onward later

theorem own_concur {observations : List Observation} {objects : Dict (List String) Logical}
    {own : Dict (List String) Observation} (done : traced semantics canonicalSources usage observations = .ok objects)
    (also : settled semantics canonicalSources (ownObservations usage observations) = .ok own) :
    Concur objects own := by
  unfold settled ownObservations at also
  rw [← sorted_by_filter Observation.arrivalOrder] at also
  refine folds_concur _ ⟨fun key item held => ?_, fun key object name found _ => ?_⟩ done also
  · cases (Dict.get_empty key).symm.trans held
  · cases (Dict.get_empty key).symm.trans found

end Tracing

end OrchestratorEngine.Metrics
