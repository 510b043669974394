import OrchestratorEngine.Metrics.Logical
import OrchestratorEngine.Metrics.Progress

set_option autoImplicit false

namespace OrchestratorEngine.Metrics.Progress

open Foundation

-- The records of one source that accept exactly what the item is about.
def acceptancesOf (records : List Observation) (source : String) (terms : Terms) : List Observation :=
  records.filter fun record => decide (record.recordType = "acceptance" ∧ record.sourceId = source ∧
  termsOf record = some terms)

def latestOf (records : List Observation) (source : String) (terms : Terms) : Option Observation :=
  (sortedBy Observation.recordOrder (acceptancesOf records source terms)).getLast?

def itemTerms (item : Observation) : Terms := (workItemId item, revisionId item, text item "criteria_revision")

structure Evidenced (record : Observation) : Prop where
  accepted : record.field "accepted" = .bool true
  evidence : ∃ name ∈ ["evidence_ref", "evidence_digest"], ∃ value, value ≠ "" ∧ record.field name = .str value

structure OwnerAccepted (owners : List String) (records : List Observation) (item : Observation) : Prop where
  standing : status item ≠ "removed" ∧ status item ≠ "reopened"
  recorded : ∃ source ∈ owners, acceptancesOf records source (itemTerms item) ≠ []
  unanimous : ∀ source ∈ owners, ∀ record, latestOf records source (itemTerms item) = some record → Evidenced record

theorem is_accepted_iff (record : Observation) : isAccepted record = true ↔ Evidenced record := by
  unfold isAccepted
  rw [Bool.and_eq_true, List.any_eq_true]
  constructor
  · rintro ⟨accepted, name, listed, evidence⟩
    refine ⟨?_, name, listed, ?_⟩
    · cases found : record.field "accepted" with
      | bool truth =>
          rw [found] at accepted
          exact congrArg Json.bool accepted
      | _ =>
          rw [found] at accepted
          cases accepted
    · cases found : record.field name with
      | str value =>
          rw [found] at evidence
          exact ⟨value, of_decide_eq_true evidence, rfl⟩
      | _ =>
          rw [found] at evidence
          cases evidence
  · rintro ⟨accepted, name, listed, value, some, found⟩
    rw [accepted]
    refine ⟨rfl, name, listed, ?_⟩
    rw [found]
    exact decide_eq_true some

section Latest

variable {α κ : Type} [DecidableEq κ]

theorem latest_set (key : α → κ) (items : List α) (wanted : κ) :
    (items.foldl (fun latest item => latest.set (key item) item) (Dict.empty : Dict κ α)).get? wanted =
      (items.filter fun item => decide (key item = wanted)).getLast? := by
  induction items using List.reverseRecOn with
  | nil => rfl
  | append_singleton items item ih =>
      rw [List.foldl_append, List.foldl_cons, List.foldl_nil, Dict.get_set, List.filter_append]
      by_cases here : wanted = key item
      · simp [here]
      · have elsewhere : key item ≠ wanted := fun same => here same.symm
        simp [here, elsewhere, ih]

end Latest

theorem latest_by_source_mem (items : List Observation) (record : Observation) : record ∈ latestBySource items ↔
    (sortedBy Observation.recordOrder (items.filter fun item => decide (item.sourceId = record.sourceId))).getLast? =
      some record := by
  rw [← sorted_by_filter Observation.recordOrder, ← latest_set Observation.sourceId]
  unfold latestBySource
  rw [List.mem_map]
  constructor
  · rintro ⟨⟨source, _⟩, listed, rfl⟩
    have found := (Dict.mem_items _ _ _).mp listed
    rw [latest_set] at found ⊢
    have member := List.mem_filter.mp (List.mem_of_getLast? found)
    rw [of_decide_eq_true member.2]
    exact found
  · intro found
    exact ⟨(record.sourceId, record), (Dict.mem_items _ _ _).mpr found, rfl⟩

theorem latest_of_source {items : List Observation} {item : Observation} (listed : item ∈ items) :
    ∃ record ∈ latestBySource items, record.sourceId = item.sourceId := by
  have some : sortedBy Observation.recordOrder (items.filter fun other =>
    decide (other.sourceId = item.sourceId)) ≠ [] := by
    intro none
    have kept : item ∈ items.filter fun other => decide (other.sourceId = item.sourceId) :=
      List.mem_filter.mpr ⟨listed, decide_eq_true rfl⟩
    have member := (sorted_by_perm Observation.recordOrder _).mem_iff.mpr kept
    rw [none] at member
    cases member
  have last := List.getLast?_eq_some_getLast some
  generalize List.getLast _ some = record at last
  have member := (sorted_by_perm Observation.recordOrder _).mem_iff.mp (List.mem_of_getLast? last)
  have source : record.sourceId = item.sourceId := of_decide_eq_true (List.mem_filter.mp member).2
  refine ⟨record, (latest_by_source_mem items record).mpr ?_, source⟩
  rw [source]
  exact last

theorem settled_accepted (items : List Observation) : (settleAcceptance items).any isAccepted = true ↔
    items ≠ [] ∧ ∀ record ∈ latestBySource items, isAccepted record = true := by
  unfold settleAcceptance
  dsimp only
  constructor
  · intro settled
    obtain ⟨chosen, found, accepted⟩ := (Option.any_eq_true _ _).mp settled
    have member := max_by_mem found
    split at member
    · rename_i agreed
      have agreed := List.filter_eq_nil_iff.mp (List.isEmpty_iff.mp agreed)
      refine ⟨?_, fun record listed => by simpa using agreed record listed⟩
      rintro rfl
      cases member
    · have refused := (List.mem_filter.mp member).2
      rw [accepted] at refused
      cases refused
  · rintro ⟨some, agreed⟩
    obtain ⟨item, listed⟩ := List.exists_mem_of_ne_nil items some
    obtain ⟨record, latest, -⟩ := latest_of_source listed
    have unanimous : (latestBySource items).filter (fun item => !isAccepted item) = [] :=
      List.filter_eq_nil_iff.mpr fun record listed => by simp [agreed record listed]
    rw [unanimous]
    obtain ⟨chosen, found⟩ := max_by_some Observation.recordOrder (List.ne_nil_of_mem latest)
    rw [if_pos List.isEmpty_nil, found]
    exact agreed chosen (max_by_mem found)

theorem states_get (records : List Observation) (terms : Terms) :
    ((acceptanceStates records).get? (some terms)).getD none =
    settleAcceptance (records.filter fun record =>
      decide (record.recordType = "acceptance" ∧ termsOf record = some terms)) := by
  have same : (records.filter fun item => decide (item.recordType = "acceptance") && (termsOf item).isSome).filter
      (fun item => decide (termsOf item = some terms)) =
      records.filter fun record => decide (record.recordType = "acceptance" ∧ termsOf record = some terms) := by
    rw [List.filter_filter]
    apply List.filter_congr
    intro record _
    by_cases here : termsOf record = some terms <;> simp [here]
  unfold acceptanceStates
  rw [Dict.get_map_values, group_by_get, same]
  split
  · rename_i none
    rw [none]
    rfl
  · rfl

theorem accepted_item_iff (owners : List String) (records : List Observation) (item : Observation) :
    acceptedItem (acceptanceStates (ofSources owners records)) item = true ↔ OwnerAccepted owners records item := by
  have group : ∀ source, ((ofSources owners records).filter fun record =>
      decide (record.recordType = "acceptance" ∧ termsOf record = some (itemTerms item))).filter
        (fun record => decide (record.sourceId = source)) =
      if source ∈ owners then acceptancesOf records source (itemTerms item) else [] := by
    intro source
    unfold ofSources acceptancesOf
    rw [List.filter_filter, List.filter_filter]
    split
    · rename_i owner
      apply List.filter_congr
      intro record _
      by_cases here : record.sourceId = source <;> simp [here, owner]
    · rename_i foreign
      apply List.filter_eq_nil_iff.mpr
      intro record _ kept
      simp only [Bool.and_eq_true, decide_eq_true_eq] at kept
      exact foreign (kept.1.1 ▸ kept.2)
  unfold acceptedItem acceptanceForItem
  rw [Bool.and_eq_true, decide_eq_true_eq, show (workItemId item, revisionId item, text item "criteria_revision") =
    itemTerms item from rfl, states_get, settled_accepted]
  constructor
  · rintro ⟨standing, some, agreed⟩
    refine ⟨standing, ?_, fun source owner record latest => (is_accepted_iff record).mp (agreed record ?_)⟩
    · obtain ⟨record, listed⟩ := List.exists_mem_of_ne_nil _ some
      have owner : record.sourceId ∈ owners := of_decide_eq_true (List.mem_filter.mp (List.mem_filter.mp listed).1).2
      refine ⟨record.sourceId, owner, ?_⟩
      have own := group record.sourceId
      rw [if_pos owner] at own
      rw [← own]
      exact List.ne_nil_of_mem (List.mem_filter.mpr ⟨listed, decide_eq_true rfl⟩)
    · have member := (sorted_by_perm Observation.recordOrder _).mem_iff.mp (List.mem_of_getLast? latest)
      have same : record.sourceId = source := (of_decide_eq_true (List.mem_filter.mp member).2).2.1
      rw [latest_by_source_mem, group, same, if_pos owner]
      exact latest
  · rintro ⟨standing, ⟨source, owner, some⟩, unanimous⟩
    refine ⟨standing, ?_, fun record latest => ?_⟩
    · intro none
      have own := group source
      rw [none, if_pos owner] at own
      exact some own.symm
    · rw [latest_by_source_mem, group] at latest
      split at latest
      · rename_i owned
        exact (is_accepted_iff record).mpr (unanimous record.sourceId owned record latest)
      · cases latest

def ModeKnown (item : Observation) : Prop :=
  (item.data.get? "observation_mode").all (fun mode =>
    mode.isNull || ["full_snapshot", "partial_update", "complement"].any mode.names) = true

theorem mode_merges {semantics : Semantics} {item : Observation} (known : ModeKnown item) :
    ∃ merges, mergesInto semantics item = .ok merges := by
  unfold mergesInto
  split
  · exact ⟨false, rfl⟩
  · unfold ModeKnown at known
    cases mode : item.data.get? "observation_mode" with
    | none => exact ⟨_, rfl⟩
    | some value =>
        rw [mode] at known
        cases value with
        | null => exact ⟨_, rfl⟩
        | str _ => exact ⟨_, rfl⟩
        | _ => cases known

theorem settle_total (semantics : Semantics) (canonicalSources : List String) (records : List Observation)
    (known : ∀ item ∈ records, ModeKnown item) (start : Dict (List String) Observation) :
    ∃ final, records.foldlM (settleRecord semantics canonicalSources) start = .ok final := by
  induction records generalizing start with
  | nil => exact ⟨start, rfl⟩
  | cons record rest ih =>
      have taken : ∃ next, settleRecord semantics canonicalSources start record = .ok next := by
        rw [settle_record_eq]
        cases start.get? (identity canonicalSources record) with
        | none => exact ⟨_, rfl⟩
        | some earlier =>
            obtain ⟨merges, mode⟩ := mode_merges (known record List.mem_cons_self)
            unfold combine
            dsimp only
            rw [mode, bind_ok]
            cases merges <;> exact ⟨_, rfl⟩
      obtain ⟨next, taken⟩ := taken
      obtain ⟨final, onward⟩ := ih (fun item listed => known item (List.mem_cons_of_mem _ listed)) next
      exact ⟨final, by rw [List.foldlM_cons, taken, bind_ok, onward]⟩

theorem settled_sources {semantics : Semantics} {records : List Observation} {final : Dict (List String) Observation}
    (done : records.foldlM (settleRecord semantics []) Dict.empty = .ok final) :
    ∀ item ∈ final.items, item.1.head? = some item.2.sourceId :=
  settle_invariant semantics [] (fun key record => key.head? = some record.sourceId) records final
    (fun record _ => identity_source record) (fun record _ _ _ => identity_source record) done

theorem owned_records (semantics : Semantics) (owners : List String) (observations : List Observation)
    (known : ∀ item ∈ observations, ModeKnown item) : ∃ records own,
      latestLogicalRecords semantics [] observations = .ok records ∧
      latestLogicalRecords semantics [] (ofSources owners observations) = .ok own ∧ ofSources owners records = own := by
  have sorted : ∀ item ∈ sortedBy Observation.arrivalOrder observations, ModeKnown item := fun item listed =>
    known item ((sorted_by_perm Observation.arrivalOrder observations).mem_iff.mp listed)
  obtain ⟨final, done⟩ := settle_total semantics [] (sortedBy Observation.arrivalOrder observations) sorted Dict.empty
  let keep : List String → Bool := fun key => key.head?.any fun source => decide (source ∈ owners)
  obtain ⟨part, folded, same⟩ := settle_filter semantics [] keep _ Dict.empty Dict.empty final rfl done
  have selected : (sortedBy Observation.arrivalOrder observations).filter (fun record => keep (identity [] record)) =
      sortedBy Observation.arrivalOrder (ofSources owners observations) := by
    unfold ofSources
    rw [← sorted_by_filter Observation.arrivalOrder]
    apply List.filter_congr
    intro record _
    simp only [keep, identity_source, Option.any_some]
  rw [selected] at folded
  refine ⟨final.items.map Prod.snd, part.items.map Prod.snd, ?_, ?_, ?_⟩
  · unfold latestLogicalRecords
    rw [done]
    rfl
  · unfold latestLogicalRecords
    rw [folded]
    rfl
  · unfold ofSources
    rw [same, List.filter_map]
    congr 1
    apply List.filter_congr
    intro item listed
    simp only [Function.comp_apply, keep, settled_sources done item listed, Option.any_some]

section Report

variable {δ φ : Type} [DecidableEq δ] {digests : Digests δ}
  {forecast : List Observation → List Observation → Dict (Option Terms) (Option Observation) → Nat → φ} {query : Query}

theorem progress_owned {observations : List Observation} (known : ∀ item ∈ observations, ModeKnown item) :
    calculateProgress digests forecast query observations =
      calculateProgress digests forecast query (ofSources query.projectSources observations) := by
  obtain ⟨records, own, taken, owned, same⟩ := owned_records query.semantics query.projectSources observations known
  have again : ofSources query.projectSources own = own := by
    rw [← same]
    unfold ofSources
    rw [List.filter_filter]
    simp only [Bool.and_self]
  unfold calculateProgress
  rw [taken, owned, bind_ok, bind_ok, same, again]

theorem owned_progress_items {authoritative : List Observation} {report : Report φ}
    (done : ownedProgress digests forecast query authoritative = .ok report) : ∃ revision items,
      selectRevision (ofType "scope_revision" authoritative) query.currentRevision .current = .ok revision ∧
      agreedItems digests query (ofType "scope_item" authoritative) revision = .ok items ∧
      report.currentRevision = revisionId revision ∧
      report.current = scopeSummary (acceptanceStates authoritative) items ∧
      report.modules = moduleSummaries (acceptanceStates authoritative) items := by
  obtain ⟨_, -, done⟩ := (bind_ok_iff _ _ _).mp done
  obtain ⟨_, -, done⟩ := (bind_ok_iff _ _ _).mp done
  obtain ⟨revision, current, done⟩ := (bind_ok_iff _ _ _).mp done
  obtain ⟨baseline, -, done⟩ := (bind_ok_iff _ _ _).mp done
  obtain ⟨items, agreed, done⟩ := (bind_ok_iff _ _ _).mp done
  obtain ⟨_, -, done⟩ := (bind_ok_iff _ _ _).mp done
  obtain ⟨baselineItems, -, done⟩ := (bind_ok_iff _ _ _).mp done
  cases done
  exact ⟨revision, items, current, agreed, rfl, rfl, rfl⟩

theorem agreed_items_revision {revision : Observation} {records items : List Observation}
    (agreed : agreedItems digests query records revision = .ok items) :
    ∀ item ∈ items, item ∈ records ∧ (item.field "scope_revision_id").names (revisionId revision) = true := by
  unfold agreedItems itemsForRevision at agreed
  dsimp only at agreed
  split at agreed
  · cases agreed
    intro item listed
    have selected := (sorted_by_perm workItemId _).mem_iff.mp listed
    obtain ⟨⟨name, group⟩, grouped, chosen⟩ := List.mem_filterMap.mp selected
    obtain ⟨rfl, -⟩ := group_by_mem (List.mem_filter.mp grouped).1
    have kept := (List.mem_filter.mp (max_by_mem chosen)).1
    obtain ⟨member, matched⟩ := List.mem_filter.mp kept
    exact ⟨member, (Bool.and_eq_true_iff.mp matched).1⟩
  · cases agreed

def CountsAccepted (digests : Digests δ) (query : Query) (observations : List Observation) (report : Report φ) : Prop :=
  ∃ records revision items counted, latestLogicalRecords query.semantics [] observations = .ok records ∧
    selectRevision (ofType "scope_revision" (ofSources query.projectSources records)) query.currentRevision .current =
      .ok revision ∧ report.currentRevision = revisionId revision ∧
    agreedItems digests query (ofType "scope_item" (ofSources query.projectSources records)) revision = .ok items ∧
    (∀ item ∈ items, (item.field "scope_revision_id").names report.currentRevision = true) ∧
    counted.Sublist items ∧ (∀ item ∈ items, item ∈ counted ↔ OwnerAccepted query.projectSources records item) ∧
    report.current.acceptedCount = counted.length ∧ report.current.acceptedWeight = totalWeight counted

theorem progress_counts_accepted {observations : List Observation} (known : ∀ item ∈ observations, ModeKnown item) :
    (∀ report, calculateProgress digests forecast query observations = .ok (.ok report) →
      CountsAccepted digests query observations report) ∧
    ∀ others, (∀ item ∈ others, ModeKnown item) →
      ofSources query.projectSources others = ofSources query.projectSources observations →
      calculateProgress digests forecast query others = calculateProgress digests forecast query observations := by
  constructor
  · intro report calculated
    obtain ⟨_, -, calculated⟩ := (bind_ok_iff _ _ _).mp calculated
    obtain ⟨records, taken, calculated⟩ := (bind_ok_iff _ _ _).mp calculated
    obtain ⟨revision, items, selected, agreed, named, current, -⟩ := owned_progress_items (Except.ok.inj calculated)
    have accepted := accepted_item_iff query.projectSources records
    refine ⟨records, revision, items, (active items).filter (acceptedItem (acceptanceStates
      (ofSources query.projectSources records))), taken, selected, named, agreed, fun item listed => ?_,
      List.filter_sublist.trans List.filter_sublist, fun item listed => ?_, ?_, ?_⟩
    · rw [named]
      exact (agreed_items_revision agreed item listed).2
    · rw [List.mem_filter, accepted]
      refine ⟨fun counted => counted.2, fun owned => ⟨List.mem_filter.mpr ⟨listed, ?_⟩, owned⟩⟩
      exact decide_eq_true owned.standing.1
    · rw [current]
      rfl
    · rw [current]
      rfl
  · intro others fine same
    rw [progress_owned fine, same, ← progress_owned known]

end Report

def plainDigests : Digests (List (String × String)) where
  of data := data.items.filterMap fun item =>
    match item.2 with
    | .str value => some (item.1, value)
    | _ => none
  texts := by
    intro first second same name value found
    have member : (name, value) ∈ first.items.filterMap fun item =>
        match item.2 with
        | .str value => some (item.1, value)
        | _ => none := List.mem_filterMap.mpr ⟨(name, .str value), (Dict.mem_items _ _ _).mpr found, rfl⟩
    rw [same] at member
    obtain ⟨⟨key, held⟩, listed, kept⟩ := List.mem_filterMap.mp member
    cases held with
    | str other =>
        cases kept
        exact (Dict.mem_items _ _ _).mp listed
    | _ => cases kept

def plainQuery : Query where
  projectSources := ["owner"]
  semantics _ := none
  baselineRevision := none
  currentRevision := none
  moduleId := none
  minimumSamples := 5

def firstPlan : Observation := observed "plan" "scope_revision" 1
  [("scope_revision_id", .str "plan-1"), ("revision_index", .int 1), ("current", .bool true)]

def plannedItem (observationId workItem : String) (more : List (String × Json)) : Observation :=
  observed observationId "scope_item" 2 ([("scope_revision_id", .str "plan-1"), ("work_item_id", .str workItem),
    ("criteria_revision", .str "criteria-1"), ("status", .str "in_progress")] ++ more)

def itemAcceptance : Observation := observed "acceptance" "acceptance" 3 [("scope_revision_id", .str "plan-1"),
  ("work_item_id", .str "feature"), ("criteria_revision", .str "criteria-1"), ("accepted", .bool true),
  ("evidence_ref", .str "run-7")]

theorem accepted_feature_counts : ∃ report : Report Unit,
    calculateProgress plainDigests (fun _ _ _ _ => ()) plainQuery
      [firstPlan, plannedItem "item" "feature" [], itemAcceptance] = .ok (.ok report) ∧
    report.current.acceptedCount = 1 ∧
    CountsAccepted plainDigests plainQuery [firstPlan, plannedItem "item" "feature" [], itemAcceptance] report := by
  obtain ⟨outcome, calculated, checked⟩ := ok_of_check (calculateProgress plainDigests (fun _ _ _ _ => ()) plainQuery
    [firstPlan, plannedItem "item" "feature" [], itemAcceptance])
    (fun outcome => match outcome with
      | .ok report => decide (report.current.acceptedCount = 1)
      | .error _ => false) (by decide +kernel)
  cases outcome with
  | error _ => cases checked
  | ok report =>
      have known : ∀ item ∈ [firstPlan, plannedItem "item" "feature" [], itemAcceptance], ModeKnown item := by
        intro item listed
        simp only [List.mem_cons, List.not_mem_nil, or_false] at listed
        rcases listed with rfl | rfl | rfl <;> rfl
      exact ⟨report, calculated, of_decide_eq_true checked, (progress_counts_accepted known).1 report calculated⟩

end OrchestratorEngine.Metrics.Progress
