import Mathlib.Algebra.Order.BigOperators.Group.List
import Mathlib.Data.List.Dedup
import OrchestratorEngine.Metrics.Acceptances

set_option autoImplicit false

namespace OrchestratorEngine.Metrics.Progress

open Foundation

structure Declared (item : Observation) : Prop where
  revision : ∃ value, item.field "scope_revision_id" = .str value
  workItem : ∃ value, item.field "work_item_id" = .str value
  weight : ∀ value, item.data.get? "weight" = some value → ∃ number, value.number? = some number ∧ 0 < number
  module : ∀ value, item.data.get? "module_id" = some value → ∃ name, value = .str name

structure Normalized (item : Observation) : Prop where
  mode : ModeKnown item
  scopeItem : item.recordType = "scope_item" → Declared item

def itemKey (item : Observation) : List String := [item.sourceId, "scope_item", revisionId item, workItemId item]

section Keys

theorem field_identity_kind (item : Observation) (names : List String) :
    (fieldIdentity item names)[1]? = some item.recordType ∨ (fieldIdentity item names)[1]? = some "observation" := by
  induction names with
  | nil => exact .inr rfl
  | cons name rest ih =>
      simp only [fieldIdentity]
      repeat' split
      all_goals first | exact ih | exact .inl rfl

theorem identity_kind (item : Observation) (kind : (identity [] item)[1]? = some "scope_item") :
    item.recordType = "scope_item" := by
  by_contra other
  rw [identity, canonicalName, if_neg List.not_mem_nil] at kind
  simp only [sourceIdentity, if_neg other] at kind
  have named := field_identity_kind item identityFields
  have unlike : (fieldIdentity item identityFields)[1]? ≠ some "scope_item" := by
    rcases named with same | fallback
    · rw [same]
      exact fun wrong => other (Option.some.inj wrong)
    · rw [fallback]
      decide
  repeat' split at kind
  all_goals first | exact unlike kind | skip
  all_goals simp at kind

theorem identity_declared {item : Observation} (kind : item.recordType = "scope_item") (declared : Declared item) :
    identity [] item = itemKey item := by
  obtain ⟨revision, named⟩ := declared.revision
  obtain ⟨workItem, called⟩ := declared.workItem
  rw [identity, canonicalName, if_neg List.not_mem_nil]
  simp only [sourceIdentity, if_pos kind, itemKey, revisionId, workItemId, text, named, called]

end Keys

def ItemSound (key : List String) (record : Observation) : Prop :=
  (key[1]? = some "scope_item" ↔ record.recordType = "scope_item") ∧
    (record.recordType = "scope_item" → Declared record ∧ key = itemKey record)

theorem declared_merged {record earlier : Observation} (declared : Declared record) (before : Declared earlier) :
    Declared { record with data := updated earlier.data record.data } := by
  have given : ∀ {name value}, record.field name = .str value →
      ({ record with data := updated earlier.data record.data } : Observation).field name = .str value := by
    intro name value found
    rw [merged_field]
    unfold Observation.field at found ⊢
    cases held : record.data.get? name with
    | none =>
        rw [held] at found
        cases found
    | some other =>
        rw [held] at found
        rw [if_pos Option.isSome_some]
        exact found
  refine ⟨?_, ?_, fun value found => ?_, fun value found => ?_⟩
  · exact declared.revision.imp fun _ => given
  · exact declared.workItem.imp fun _ => given
  · rw [updated_get, Option.or_eq_some_iff] at found
    rcases found with own | ⟨-, old⟩
    · exact declared.weight value own
    · exact before.weight value old
  · rw [updated_get, Option.or_eq_some_iff] at found
    rcases found with own | ⟨-, old⟩
    · exact declared.module value own
    · exact before.module value old

theorem text_merged {record earlier : Observation} {name value : String} (given : record.field name = .str value) :
    text { record with data := updated earlier.data record.data } name = text record name := by
  have held : (record.data.get? name).isSome = true := by
    unfold Observation.field at given
    cases found : record.data.get? name with
    | none =>
        rw [found] at given
        cases given
    | some _ => rfl
  simp only [text, merged_field, held, if_true]

theorem settled_items {semantics : Semantics} {observations : List Observation}
    (normalized : ∀ item ∈ observations, Normalized item) {final : Dict (List String) Observation}
    (done : observations.foldlM (settleRecord semantics []) Dict.empty = .ok final) :
    ∀ item ∈ final.items, ItemSound item.1 item.2 := by
  have kinds : ∀ record ∈ observations, (identity [] record)[1]? = some "scope_item" ↔
    record.recordType = "scope_item" := by
    intro record listed
    refine ⟨identity_kind record, fun kind => ?_⟩
    rw [identity_declared kind ((normalized record listed).scopeItem kind)]
    rfl
  refine settle_invariant semantics [] ItemSound observations final (fun record listed => ?_)
    (fun record listed earlier before => ?_) done
  · refine ⟨kinds record listed, fun kind => ?_⟩
    have declared := (normalized record listed).scopeItem kind
    exact ⟨declared, identity_declared kind declared⟩
  · refine ⟨kinds record listed, fun (kind : record.recordType = "scope_item") => ?_⟩
    have declared := (normalized record listed).scopeItem kind
    have keyed := identity_declared kind declared
    obtain ⟨known, -⟩ := before.2 (before.1.mp ((kinds record listed).mpr kind))
    refine ⟨declared_merged declared known, keyed.trans ?_⟩
    obtain ⟨revision, named⟩ := declared.revision
    obtain ⟨workItem, called⟩ := declared.workItem
    unfold itemKey revisionId workItemId
    rw [text_merged named, text_merged called]

structure ItemsSound (items : List Observation) : Prop where
  declared : ∀ item ∈ items, Declared item
  single : ∀ first ∈ items, ∀ second ∈ items, first.sourceId = second.sourceId → revisionId first = revisionId second →
    workItemId first = workItemId second → first = second

theorem scope_items_sound {semantics : Semantics} {observations records : List Observation} (owners : List String)
    (normalized : ∀ item ∈ observations, Normalized item)
    (taken : latestLogicalRecords semantics [] observations = .ok records) :
    ItemsSound (ofType "scope_item" (ofSources owners records)) := by
  obtain ⟨final, done, taken⟩ := (bind_ok_iff _ _ _).mp taken
  cases taken
  have sound := settled_items (fun item listed =>
    normalized item ((sorted_by_perm Observation.arrivalOrder observations).mem_iff.mp listed)) done
  have entry : ∀ item ∈ ofType "scope_item" (ofSources owners (final.items.map Prod.snd)),
      (itemKey item, item) ∈ final.items ∧ Declared item := by
    intro item listed
    obtain ⟨member, kind⟩ := List.mem_filter.mp listed
    obtain ⟨⟨key, record⟩, held, rfl⟩ := List.mem_map.mp (List.mem_filter.mp member).1
    obtain ⟨declared, keyed⟩ := (sound _ held).2 (of_decide_eq_true kind)
    dsimp only at keyed
    exact ⟨keyed ▸ held, declared⟩
  refine ⟨fun item listed => (entry item listed).2, fun first one second two source revision workItem => ?_⟩
  · have keys : itemKey first = itemKey second := by
      unfold itemKey
      rw [source, revision, workItem]
    have found := (Dict.mem_items _ _ _).mp (entry first one).1
    rw [keys, (Dict.mem_items _ _ _).mp (entry second two).1] at found
    exact (Option.some.inj found).symm

theorem sorted_alike {α κ : Type} [LinearOrder κ] (key : α → κ) {first second : List α}
    (same : ∀ item, item ∈ first ↔ item ∈ second) (one : (first.map key).Nodup) (two : (second.map key).Nodup) :
    sortedBy key first = sortedBy key second := by
  have perm : first.Perm second := (List.perm_ext_iff_of_nodup (.of_map _ one) (.of_map _ two)).mpr same
  have injective : ∀ {left right}, left ∈ first → right ∈ first → key left = key right → left = right :=
    fun here there => List.inj_on_of_nodup_map one here there
  refine List.Perm.eq_of_pairwise ?_ (sorted_by_ordered key first) (sorted_by_ordered key second)
    ((sorted_by_perm key first).trans (perm.trans (sorted_by_perm key second).symm))
  intro left right here there below above
  exact injective ((sorted_by_perm key first).mem_iff.mp here)
    ((same right).mpr ((sorted_by_perm key second).mem_iff.mp there))
    (le_antisymm below above)

section Disagreement

variable {δ : Type} [DecidableEq δ] (digests : Digests δ)

def Disagree (items : List Observation) : Prop :=
  ∃ first ∈ items, ∃ second ∈ items, workItemId first = workItemId second ∧ first.sourceId ≠ second.sourceId ∧
    digests.of first.data ≠ digests.of second.data

theorem several_iff {α : Type} [DecidableEq α] (items : List α) :
    1 < items.dedup.length ↔ ∃ first ∈ items, ∃ second ∈ items, first ≠ second := by
  have distinct := List.nodup_dedup items
  have same : ∀ item, item ∈ items ↔ item ∈ items.dedup := fun item => List.mem_dedup.symm
  simp only [same]
  generalize items.dedup = kept at distinct
  match kept with
  | [] => simp
  | [only] => simp
  | first :: second :: rest =>
      have apart : first ≠ second := fun equal => (List.nodup_cons.mp distinct).1 (equal ▸ List.mem_cons_self)
      simp only [List.length_cons]
      exact ⟨fun _ => ⟨first, List.mem_cons_self, second, List.mem_cons_of_mem _ List.mem_cons_self, apart⟩,
        fun _ => by omega⟩

theorem conflicting_iff (group : List Observation) : conflicting digests group = true ↔
    ∃ first ∈ group, ∃ second ∈ group, first.sourceId ≠ second.sourceId ∧
      digests.of first.data ≠ digests.of second.data := by
  unfold conflicting
  rw [decide_eq_true_eq, several_iff, several_iff]
  constructor
  · rintro ⟨⟨_, one, _, two, sources⟩, ⟨_, three, _, four, payloads⟩⟩
    obtain ⟨first, here, rfl⟩ := List.mem_map.mp one
    obtain ⟨second, there, rfl⟩ := List.mem_map.mp two
    obtain ⟨third, this, rfl⟩ := List.mem_map.mp three
    obtain ⟨fourth, that, rfl⟩ := List.mem_map.mp four
    by_cases across : third.sourceId = fourth.sourceId
    · -- One of the first two is of another source than these, and of another payload than one of them.
      have other : ∃ item ∈ group, item.sourceId ≠ third.sourceId := by
        by_cases same : first.sourceId = third.sourceId
        · exact ⟨second, there, fun equal => sources (same.trans equal.symm)⟩
        · exact ⟨first, here, same⟩
      obtain ⟨item, listed, foreign⟩ := other
      by_cases equal : digests.of item.data = digests.of third.data
      · exact ⟨item, listed, fourth, that, fun same => foreign (same.trans across.symm), fun same =>
          payloads (equal.symm.trans same)⟩
      · exact ⟨item, listed, third, this, foreign, equal⟩
    · exact ⟨third, this, fourth, that, across, payloads⟩
  · rintro ⟨first, one, second, two, sources, payloads⟩
    exact ⟨⟨_, List.mem_map_of_mem one, _, List.mem_map_of_mem two, sources⟩,
      ⟨_, List.mem_map_of_mem one, _, List.mem_map_of_mem two, payloads⟩⟩

variable (records : List Observation) (revision : String) (moduleId : Option String)

theorem conflicts_iff : (itemsForRevision digests records revision moduleId).2 = [] ↔
    ¬ Disagree digests (revisionItems records revision moduleId) := by
  have empty : (itemsForRevision digests records revision moduleId).2 = [] ↔
      ∀ group ∈ (groupBy workItemId (revisionItems records revision moduleId)).items,
      conflicting digests group.2 = false := by
    unfold itemsForRevision
    dsimp only
    rw [← List.length_eq_zero_iff, (sorted_by_perm id _).length_eq, List.length_eq_zero_iff, List.map_eq_nil_iff,
      List.filter_eq_nil_iff]
    simp only [Bool.not_eq_true]
  rw [empty]
  constructor
  · rintro agreed ⟨first, one, second, two, item, sources, payloads⟩
    have calm := agreed _ (group_by_listed workItemId one)
    rw [Bool.eq_false_iff] at calm
    exact calm ((conflicting_iff digests _).mpr ⟨first, List.mem_filter.mpr ⟨one, decide_eq_true rfl⟩, second,
      List.mem_filter.mpr ⟨two, decide_eq_true item.symm⟩, sources, payloads⟩)
  · rintro agreed ⟨name, group⟩ listed
    obtain ⟨rfl, -⟩ := group_by_mem listed
    rw [Bool.eq_false_iff]
    intro conflict
    obtain ⟨first, one, second, two, sources, payloads⟩ := (conflicting_iff digests _).mp conflict
    obtain ⟨here, called⟩ := List.mem_filter.mp one
    obtain ⟨there, named⟩ := List.mem_filter.mp two
    exact agreed ⟨first, here, second, there, (of_decide_eq_true called).trans (of_decide_eq_true named).symm,
      sources, payloads⟩

def chosen (items : List Observation) : List Observation :=
  (groupBy workItemId items).items.filterMap fun group => maxBy Observation.recordOrder group.2

theorem selected_eq (agreed : ¬ Disagree digests (revisionItems records revision moduleId)) :
    (itemsForRevision digests records revision moduleId).1 =
      sortedBy workItemId (chosen (revisionItems records revision moduleId)) := by
  have calm : ∀ group ∈ (groupBy workItemId (revisionItems records revision moduleId)).items,
      (!conflicting digests group.2) = true := by
    intro group listed
    obtain ⟨same, -⟩ := group_by_mem listed
    rw [Bool.not_eq_true', Bool.eq_false_iff]
    intro conflict
    obtain ⟨first, one, second, two, sources, payloads⟩ := (conflicting_iff digests _).mp conflict
    rw [same] at one two
    obtain ⟨here, called⟩ := List.mem_filter.mp one
    obtain ⟨there, named⟩ := List.mem_filter.mp two
    exact agreed ⟨first, here, second, there, (of_decide_eq_true called).trans (of_decide_eq_true named).symm,
      sources, payloads⟩
  unfold itemsForRevision chosen
  dsimp only
  rw [List.filter_eq_self.mpr calm]

theorem chosen_mem {items : List Observation} {item : Observation} : item ∈ chosen items ↔
    item ∈ items ∧ maxBy Observation.recordOrder (items.filter fun other =>
    decide (workItemId other = workItemId item)) =
      some item := by
  unfold chosen
  rw [List.mem_filterMap]
  constructor
  · rintro ⟨⟨name, group⟩, listed, found⟩
    obtain ⟨rfl, -⟩ := group_by_mem listed
    obtain ⟨member, called⟩ := List.mem_filter.mp (max_by_mem found)
    rw [of_decide_eq_true called]
    exact ⟨member, found⟩
  · rintro ⟨listed, found⟩
    exact ⟨_, group_by_listed workItemId listed, found⟩

theorem filter_map_keys {α β κ : Type} (key : β → κ) (choose : κ × α → Option β) (groups : List (κ × α))
    (keyed : ∀ group ∈ groups, ∀ item, choose group = some item → key item = group.1) :
    ((groups.filterMap choose).map key).Sublist (groups.map Prod.fst) := by
  induction groups with
  | nil => exact .slnil
  | cons group rest ih =>
      have later := ih fun other listed => keyed other (List.mem_cons_of_mem _ listed)
      cases found : choose group with
      | none =>
          rw [List.filterMap_cons_none found, List.map_cons]
          exact later.cons _
      | some item =>
          rw [List.filterMap_cons_some found, List.map_cons, List.map_cons, keyed group List.mem_cons_self item found]
          exact later.cons_cons _

theorem chosen_distinct (items : List Observation) : ((chosen items).map workItemId).Nodup := by
  refine (groupBy workItemId items).distinct.sublist (filter_map_keys workItemId _ _ ?_)
  rintro ⟨name, group⟩ listed item found
  obtain ⟨rfl, -⟩ := group_by_mem listed
  exact of_decide_eq_true (List.mem_filter.mp (max_by_mem found)).2

end Disagreement

section Views

variable {δ : Type} [DecidableEq δ] {digests : Digests δ} {records : List Observation} {revision : String}

theorem names_iff (value : Json) (name : String) : value.names name = true ↔ value = .str name := by
  cases value with
  | str other =>
      unfold Json.names
      rw [decide_eq_true_eq, Json.str.injEq]
  | _ => exact ⟨nofun, nofun⟩

theorem field_names (item : Observation) (field name : String) :
    (item.field field).names name = true ↔ item.data.get? field = some (.str name) := by
  rw [names_iff]
  unfold Observation.field
  cases item.data.get? field with
  | none => exact ⟨nofun, nofun⟩
  | some value => exact ⟨fun same => congrArg some same, fun same => Option.some.inj same⟩

theorem revision_items_mem {moduleId : Option String} {item : Observation} :
    item ∈ revisionItems records revision moduleId ↔
      item ∈ records ∧ revisionId item = revision ∧ (item.field "scope_revision_id").names revision = true ∧
        inModule moduleId item = true := by
  unfold revisionItems
  rw [List.mem_filter, Bool.and_eq_true]
  constructor
  · rintro ⟨listed, named, inside⟩
    refine ⟨listed, ?_, named, inside⟩
    unfold revisionId text
    rw [(names_iff _ _).mp named]
  · rintro ⟨listed, -, named, inside⟩
    exact ⟨listed, named, inside⟩

theorem same_texts (sound : ItemsSound records) (agreed : ¬ Disagree digests (revisionItems records revision none))
    {first second : Observation} (one : first ∈ revisionItems records revision none)
    (two : second ∈ revisionItems records revision none) (item : workItemId first = workItemId second)
    {name value : String} (given : first.data.get? name = some (.str value)) :
    second.data.get? name = some (.str value) := by
  by_cases sources : first.sourceId = second.sourceId
  · obtain ⟨here, called, -⟩ := revision_items_mem.mp one
    obtain ⟨there, named, -⟩ := revision_items_mem.mp two
    rw [← sound.single first here second there sources (called.trans named.symm) item]
    exact given
  · by_cases payloads : digests.of first.data = digests.of second.data
    · exact digests.texts payloads given
    · exact absurd ⟨first, one, second, two, item, sources, payloads⟩ agreed

theorem same_names (sound : ItemsSound records) (agreed : ¬ Disagree digests (revisionItems records revision none))
    {first second : Observation} (one : first ∈ revisionItems records revision none)
    (two : second ∈ revisionItems records revision none) (item : workItemId first = workItemId second)
    (field name : String) : (first.field field).names name = (second.field field).names name := by
  rw [Bool.eq_iff_iff, field_names, field_names]
  exact ⟨same_texts sound agreed one two item, same_texts sound agreed two one item.symm⟩

theorem revision_items_module (name : String) : revisionItems records revision (some name) =
    (revisionItems records revision none).filter fun item => (item.field "module_id").names name := by
  unfold revisionItems
  rw [List.filter_filter]
  apply List.filter_congr
  intro item _
  unfold inModule
  rw [Bool.and_true, Bool.and_comm]

omit [DecidableEq δ] in
theorem module_agrees (agreed : ¬ Disagree digests (revisionItems records revision none)) (name : String) :
    ¬ Disagree digests (revisionItems records revision (some name)) := by
  rintro ⟨first, one, second, two, apart⟩
  rw [revision_items_module] at one two
  exact agreed ⟨first, (List.mem_filter.mp one).1, second, (List.mem_filter.mp two).1, apart⟩

theorem view_selected (sound : ItemsSound records) (agreed : ¬ Disagree digests (revisionItems records revision none))
    (name : String) : (itemsForRevision digests records revision (some name)).1 =
      (itemsForRevision digests records revision none).1.filter fun item => (item.field "module_id").names name := by
  rw [selected_eq digests records revision (some name) (module_agrees agreed name),
    selected_eq digests records revision none agreed, sorted_by_filter workItemId]
  have sublist := (List.filter_sublist (l := chosen (revisionItems records revision none))
    (p := fun item => (item.field "module_id").names name)).map workItemId
  refine sorted_alike workItemId (fun item => ?_) (chosen_distinct _) ((chosen_distinct _).sublist sublist)
  rw [List.mem_filter, chosen_mem, chosen_mem, revision_items_module, List.mem_filter]
  have whole : item ∈ revisionItems records revision none → (item.field "module_id").names name = true →
      ((revisionItems records revision none).filter fun item => (item.field "module_id").names name).filter
          (fun other => decide (workItemId other = workItemId item)) =
        (revisionItems records revision none).filter fun other => decide (workItemId other = workItemId item) := by
    intro listed inside
    rw [List.filter_filter]
    apply List.filter_congr
    intro other also
    by_cases same : workItemId other = workItemId item
    · rw [same_names sound agreed also listed same, inside, Bool.and_true]
    · simp [same]
  constructor
  · rintro ⟨⟨listed, inside⟩, found⟩
    rw [whole listed inside] at found
    exact ⟨⟨listed, found⟩, inside⟩
  · rintro ⟨⟨listed, found⟩, inside⟩
    rw [whole listed inside]
    exact ⟨⟨listed, inside⟩, found⟩

end Views

def Summary.statusCount (summary : Summary) (name : String) : Nat :=
  (Dict.getItem name summary.statusDistribution).getD 0

structure Parts (summary : Summary) (modules : List (String × Summary)) : Prop where
  names : (modules.map Prod.fst).Nodup
  items : summary.itemCount = (modules.map fun entry => entry.2.itemCount).sum
  accepted : summary.acceptedCount = (modules.map fun entry => entry.2.acceptedCount).sum
  acceptedWeight : summary.acceptedWeight = (modules.map fun entry => entry.2.acceptedWeight).sum
  denominatorWeight : summary.denominatorWeight = (modules.map fun entry => entry.2.denominatorWeight).sum
  statuses : ∀ name, summary.statusCount name = (modules.map fun entry => entry.2.statusCount name).sum
  unevidenced : summary.acceptedWithoutEvidenceCount =
    (modules.map fun entry => entry.2.acceptedWithoutEvidenceCount).sum
  bounds : ∀ entry ∈ modules, 0 ≤ entry.2.acceptedWeight ∧ entry.2.acceptedWeight ≤ entry.2.denominatorWeight

section Summing

variable {acceptances : Dict (Option Terms) (Option Observation)} {items : List Observation}

theorem weight_positive {item : Observation} (declared : Declared item) : 0 < weight item := by
  unfold weight Observation.field
  cases found : item.data.get? "weight" with
  | none => exact one_pos
  | some value =>
      obtain ⟨number, read, positive⟩ := declared.weight value found
      rw [Option.getD_some, read]
      exact positive

theorem total_weight_nonneg (declared : ∀ item ∈ items, Declared item) : 0 ≤ totalWeight items := by
  apply List.sum_nonneg
  rintro value listed
  obtain ⟨item, member, rfl⟩ := List.mem_map.mp listed
  exact (weight_positive (declared item member)).le

theorem total_weight_filter (declared : ∀ item ∈ items, Declared item) (keep : Observation → Bool) :
    totalWeight (items.filter keep) ≤ totalWeight items := by
  induction items with
  | nil => exact le_rfl
  | cons item rest ih =>
      have later := ih fun other listed => declared other (List.mem_cons_of_mem _ listed)
      have positive := weight_positive (declared item List.mem_cons_self)
      unfold totalWeight at later ⊢
      rw [List.filter_cons]
      split
      · simpa using later
      · rw [List.map_cons, List.sum_cons]
        exact later.trans (le_add_of_nonneg_left positive.le)

theorem status_count (name : String) : (scopeSummary acceptances items).statusCount name =
    if name ∈ activeStatuses then (active items).countP fun item => decide (status item = name) else 0 := by
  have looked : ∀ (names : List String) (count : String → Nat),
      (Dict.getItem name (names.map fun other => (other, count other))).getD 0 = if name ∈ names then
      count name else 0 := by
    intro names count
    induction names with
    | nil => rfl
    | cons other rest ih =>
        rw [List.map_cons, Dict.getItem]
        by_cases here : name = other
        · simp [here]
        · simpa [here] using ih
  exact looked activeStatuses _

theorem summed {μ : Type} [AddCommMonoid μ] (measure : List Observation → μ) (nothing : measure [] = 0)
    (adds : ∀ first second, measure (first ++ second) = measure first + measure second)
    (alike : ∀ {first second : List Observation}, first.Perm second → measure first = measure second)
    (read : Summary → μ) (reads : ∀ items, read (scopeSummary acceptances items) = measure items) :
    read (scopeSummary acceptances items) = ((moduleSummaries acceptances items).map fun entry =>
    read entry.2).sum := by
  unfold moduleSummaries
  rw [reads, grouped_measure moduleName items measure nothing adds alike (sorted_by_perm Prod.fst _), List.map_map]
  exact congrArg List.sum (List.map_congr_left fun group _ => (reads group.2).symm)

theorem active_append (first second : List Observation) : active (first ++ second) = active first ++ active second :=
  List.filter_append ..

theorem active_perm {first second : List Observation} (perm : first.Perm second) :
    (active first).Perm (active second) :=
  perm.filter _

theorem modules_part (declared : ∀ item ∈ items, Declared item) :
    Parts (scopeSummary acceptances items) (moduleSummaries acceptances items) where
  names := by
    unfold moduleSummaries
    rw [List.map_map]
    exact (((sorted_by_perm Prod.fst _).map Prod.fst).nodup_iff).mpr (groupBy moduleName items).distinct
  items := summed (fun items => (active items).length) rfl (fun first second => by
    rw [active_append, List.length_append])
    (fun perm => (active_perm perm).length_eq) Summary.itemCount fun _ => rfl
  accepted := summed (fun items => ((active items).filter (acceptedItem acceptances)).length) rfl
    (fun first second => by rw [active_append, List.filter_append, List.length_append])
    (fun perm => ((active_perm perm).filter _).length_eq) Summary.acceptedCount fun _ => rfl
  acceptedWeight := summed (fun items => totalWeight ((active items).filter (acceptedItem acceptances))) rfl
    (fun first second => by
      unfold totalWeight
      rw [active_append, List.filter_append, List.map_append, List.sum_append])
    (fun perm => (((active_perm perm).filter _).map weight).sum_eq) Summary.acceptedWeight fun _ => rfl
  denominatorWeight := summed (fun items => totalWeight (active items)) rfl
    (fun first second => by
      unfold totalWeight
      rw [active_append, List.map_append, List.sum_append])
    (fun perm => ((active_perm perm).map weight).sum_eq) Summary.denominatorWeight fun _ => rfl
  statuses name := summed
    (fun items => if name ∈ activeStatuses then (active items).countP fun item => decide (status item = name) else 0)
    (by split <;> rfl)
    (fun first second => by
      split
      · rw [active_append, List.countP_append]
      · rfl)
    (fun perm => by
      split
      · exact (active_perm perm).countP_eq _
      · rfl)
    (fun summary => summary.statusCount name) fun items => status_count name
  unevidenced := summed (fun items => (active items).countP fun item =>
      decide (status item = "accepted") && !(acceptanceForItem item acceptances).any isAccepted) rfl
    (fun first second => by rw [active_append, List.countP_append])
    (fun perm => (active_perm perm).countP_eq _) Summary.acceptedWithoutEvidenceCount fun _ => rfl
  bounds := by
    intro entry listed
    obtain ⟨⟨name, group⟩, grouped, rfl⟩ := List.mem_map.mp listed
    obtain ⟨rfl, -⟩ := group_by_mem ((sorted_by_perm Prod.fst _).mem_iff.mp grouped)
    have known : ∀ item ∈ active (items.filter fun item => decide (moduleName item = name)), Declared item :=
      fun item member => declared item (List.mem_filter.mp (List.mem_filter.mp member).1).1
    exact ⟨total_weight_nonneg fun item member => known item (List.mem_filter.mp member).1, total_weight_filter known _⟩

end Summing

section Availability

variable {δ φ : Type} [DecidableEq δ] {digests : Digests δ}
  {forecast : List Observation → List Observation → Dict (Option Terms) (Option Observation) → Nat → φ} {query : Query}
  {authoritative : List Observation}

def Disputed (digests : Digests δ) (items : List Observation) (current : Observation) (baseline : Option Observation)
    (moduleId : Option String) : Prop :=
  Disagree digests (revisionItems items (revisionId current) moduleId) ∨
    ∃ revision, baseline = some revision ∧ Disagree digests (revisionItems items (revisionId revision) moduleId)

structure Basis (query : Query) (authoritative : List Observation) (current : Observation)
    (baseline : Option Observation) :
    Prop where
  owned : query.projectSources ≠ []
  current : selectRevision (ofType "scope_revision" authoritative) query.currentRevision .current = .ok current
  baseline : selectBaseline query (ofType "scope_revision" authoritative) = .ok baseline

theorem agreed_items_ok (digests : Digests δ) (query : Query) (items : List Observation) (revision : Observation)
    (selected : List Observation) :
    agreedItems digests query items revision = .ok selected ↔
      ¬ Disagree digests (revisionItems items (revisionId revision) query.moduleId) ∧
        (itemsForRevision digests items (revisionId revision) query.moduleId).1 = selected := by
  rw [← conflicts_iff]
  unfold agreedItems
  dsimp only
  rw [← List.isEmpty_iff]
  split
  · rename_i agreed
    simp [agreed]
  · rename_i disputed
    simp [disputed]

theorem selected_empty (items : List Observation) (revision : String) (moduleId : Option String)
    (agreed : ¬ Disagree digests (revisionItems items revision moduleId)) :
    (itemsForRevision digests items revision moduleId).1 = [] ↔ revisionItems items revision moduleId = [] := by
  rw [selected_eq digests items revision moduleId agreed, ← List.length_eq_zero_iff,
    (sorted_by_perm workItemId _).length_eq,
    List.length_eq_zero_iff]
  constructor
  · intro none
    by_contra some
    obtain ⟨item, listed⟩ := List.exists_mem_of_ne_nil _ some
    have grouped : item ∈ (revisionItems items revision moduleId).filter fun other =>
        decide (workItemId other = workItemId item) := List.mem_filter.mpr ⟨listed, decide_eq_true rfl⟩
    obtain ⟨best, found⟩ := max_by_some Observation.recordOrder (List.ne_nil_of_mem grouped)
    obtain ⟨member, called⟩ := List.mem_filter.mp (max_by_mem found)
    have kept : best ∈ chosen (revisionItems items revision moduleId) :=
      chosen_mem.mpr ⟨member, (of_decide_eq_true called) ▸ found⟩
    rw [none] at kept
    cases kept
  · intro none
    rw [none]
    rfl

theorem no_revision (requested : Option String) (current : Observation) :
    selectRevision [] requested .current ≠ .ok current := by
  cases requested with
  | none => exact nofun
  | some wanted => exact nofun

theorem owned_available (digests : Digests δ)
    (forecast : List Observation → List Observation → Dict (Option Terms) (Option Observation) → Nat → φ) :
    (∃ report, ownedProgress digests forecast query authoritative = .ok report) ↔
    ∃ current baseline, Basis query authoritative current baseline ∧
      revisionItems (ofType "scope_item" authoritative) (revisionId current) query.moduleId ≠ [] ∧
      ¬ Disputed digests (ofType "scope_item" authoritative) current baseline query.moduleId := by
  unfold ownedProgress
  dsimp only
  constructor
  · rintro ⟨report, done⟩
    obtain ⟨_, owned, done⟩ := (bind_ok_iff _ _ _).mp done
    obtain ⟨_, -, done⟩ := (bind_ok_iff _ _ _).mp done
    obtain ⟨current, selected, done⟩ := (bind_ok_iff _ _ _).mp done
    obtain ⟨baseline, based, done⟩ := (bind_ok_iff _ _ _).mp done
    obtain ⟨items, agreed, done⟩ := (bind_ok_iff _ _ _).mp done
    obtain ⟨_, some, done⟩ := (bind_ok_iff _ _ _).mp done
    obtain ⟨baselineItems, also, -⟩ := (bind_ok_iff _ _ _).mp done
    rw [refuse_ok_iff] at owned some
    obtain ⟨calm, rfl⟩ := (agreed_items_ok _ _ _ _ _).mp agreed
    refine ⟨current, baseline, ⟨owned, selected, based⟩, fun none => some ((selected_empty _ _ _ calm).mpr none), ?_⟩
    rintro (disputed | ⟨revision, rfl, disputed⟩)
    · exact calm disputed
    · exact ((agreed_items_ok _ _ _ _ _).mp also).1 disputed
  · rintro ⟨current, baseline, ⟨owned, selected, based⟩, some, calm⟩
    have revisions : ofType "scope_revision" authoritative ≠ [] := by
      intro none
      rw [none] at selected
      exact no_revision _ _ selected
    have quiet : ¬ Disagree digests (revisionItems (ofType "scope_item" authoritative) (revisionId current)
      query.moduleId) :=
      fun disputed => calm (.inl disputed)
    have agreed := (agreed_items_ok digests query (ofType "scope_item" authoritative) current _).mpr
      ⟨quiet, rfl⟩
    have also : ∃ items, itemsOfBaseline digests query (ofType "scope_item" authoritative) baseline = .ok items := by
      cases baseline with
      | none => exact ⟨[], rfl⟩
      | some revision =>
          exact ⟨_, (agreed_items_ok _ _ _ _ _).mpr ⟨fun disputed => calm (.inr ⟨revision, rfl, disputed⟩), rfl⟩⟩
    obtain ⟨baselineItems, also⟩ := also
    rw [show refuse (query.projectSources = []) Reason.projectOwnerSourceUnavailable = .ok () from
        (refuse_ok_iff _ _ _).mpr owned,
      show refuse (ofType "scope_revision" authoritative = []) Reason.scopeRevisionUnavailable = .ok () from
        (refuse_ok_iff _ _ _).mpr revisions, bind_ok, bind_ok, selected, bind_ok, based, bind_ok, agreed, bind_ok,
      show refuse ((itemsForRevision digests (ofType "scope_item" authoritative) (revisionId current)
        query.moduleId).1 = [])
        Reason.currentScopeItemsUnavailable = .ok () from
        (refuse_ok_iff _ _ _).mpr fun none => some ((selected_empty _ _ _ quiet).mp none), bind_ok, also, bind_ok]
    exact ⟨_, rfl⟩

end Availability

section Partition

variable {δ φ : Type} [DecidableEq δ] (digests : Digests δ)
  (forecast : List Observation → List Observation → Dict (Option Terms) (Option Observation) → Nat → φ) (query : Query)
  (observations : List Observation)

def viewOf (query : Query) (moduleId : Option String) : Query := { query with moduleId }

-- The modules of a whole report part it and are what their views show, and no
-- view hides why there is no whole report.
def Partitioned : Prop :=
  (∀ report, calculateProgress digests forecast (viewOf query none) observations = .ok (.ok report) →
    Parts report.current report.modules ∧ ∀ entry ∈ report.modules, ∃ view,
      calculateProgress digests forecast (viewOf query (some entry.1)) observations = .ok (.ok view) ∧
      view.current = entry.2) ∧
  ∀ name view, calculateProgress digests forecast (viewOf query (some name)) observations = .ok (.ok view) →
    ∃ report, calculateProgress digests forecast (viewOf query none) observations = .ok (.ok report)

def scopeItems (query : Query) (records : List Observation) : List Observation :=
  ofType "scope_item" (ofSources query.projectSources records)

-- Where the sources agree, an item without a module is removed and some item
-- names the module "unassigned"; where they do not, they do so within every module.
def ModulesNamed : Prop :=
  1 ≤ query.minimumSamples → ∀ records current baseline,
    latestLogicalRecords query.semantics [] observations = .ok records →
    Basis query (ofSources query.projectSources records) current baseline →
    (¬ Disputed digests (scopeItems query records) current baseline none →
      ∀ item ∈ revisionItems (scopeItems query records) (revisionId current) none, item.data.get? "module_id" = none →
        status item = "removed" ∧ revisionItems (scopeItems query records) (revisionId current)
        (some "unassigned") ≠ []) ∧
    (Disputed digests (scopeItems query records) current baseline none →
      ∀ name, revisionItems (scopeItems query records) (revisionId current) (some name) ≠ [] →
        Disputed digests (scopeItems query records) current baseline (some name))

variable {digests forecast query observations}

variable {report : Report φ}

theorem calculated_iff {moduleId : Option String} :
    calculateProgress digests forecast (viewOf query moduleId) observations = .ok (.ok report) ↔
      1 ≤ query.minimumSamples ∧ ∃ records, latestLogicalRecords query.semantics [] observations = .ok records ∧
        ownedProgress digests forecast (viewOf query moduleId) (ofSources query.projectSources records)
        = .ok report := by
  unfold calculateProgress
  rw [bind_ok_iff]
  simp only [refuse_ok_iff, bind_ok_iff]
  constructor
  · rintro ⟨_, samples, records, taken, done⟩
    exact ⟨Nat.not_lt.mp samples, records, taken, Except.ok.inj done⟩
  · rintro ⟨samples, records, taken, done⟩
    exact ⟨(), Nat.not_lt.mpr samples, records, taken, congrArg Except.ok done⟩

variable {baseline : Option Observation} {current : Observation} {authoritative : List Observation}

theorem basis_view
    (moduleId : Option String) :
    Basis (viewOf query moduleId) authoritative current baseline ↔ Basis query authoritative current baseline :=
  ⟨fun basis => ⟨basis.owned, basis.current, basis.baseline⟩, fun basis => ⟨basis.owned, basis.current, basis.baseline⟩⟩

variable {item : Observation}

theorem module_name_cases (declared : Declared item) :
    (item.data.get? "module_id" = none ∧ moduleName item = "unassigned" ∧ ∀ name,
        (item.field "module_id").names name = false) ∨
      ∀ name, (item.field "module_id").names name = decide (moduleName item = name) := by
  unfold moduleName Observation.field
  cases found : item.data.get? "module_id" with
  | none => exact .inl ⟨rfl, rfl, fun _ => rfl⟩
  | some value =>
      obtain ⟨other, rfl⟩ := declared.module value found
      exact .inr fun _ => rfl

theorem summary_active {acceptances : Dict (Option Terms) (Option Observation)} {first second : List Observation}
    (same : active first = active second) : scopeSummary acceptances first = scopeSummary acceptances second := by
  simp only [scopeSummary, same]

theorem status_kept {first second : Observation}
    (texts : ∀ {name value}, first.data.get? name = some (.str value) → second.data.get? name = some (.str value))
    (removed : status first = "removed") : status second = "removed" := by
  have empty : ("" : String) ≠ "removed" := by decide
  unfold status text at removed ⊢
  unfold Observation.field at removed ⊢
  cases found : first.data.get? "status" with
  | none =>
      rw [found] at removed
      exact absurd removed empty
  | some value =>
      rw [found] at removed
      cases value with
      | str word =>
          rw [texts found]
          exact removed
      | _ => exact absurd removed empty

theorem selected_mem {items : List Observation} {revision : String} {moduleId : Option String}
    (agreed : ¬ Disagree digests (revisionItems items revision moduleId))
    (listed : item ∈ (itemsForRevision digests items revision moduleId).1) :
    item ∈ chosen (revisionItems items revision moduleId) := by
  rw [selected_eq digests items revision moduleId agreed] at listed
  exact (sorted_by_perm workItemId _).mem_iff.mp listed

omit [DecidableEq δ] in
theorem disputed_whole {items : List Observation} {name : String}
    (disputed : Disputed digests items current baseline (some name)) :
    Disputed digests items current baseline none := by
  rcases disputed with now | ⟨revision, based, before⟩
  · exact .inl (not_not.mp fun agreed => module_agrees agreed name now)
  · exact .inr ⟨revision, based, not_not.mp fun agreed => module_agrees agreed name before⟩

theorem owned_current
    {moduleId : Option String} (basis : Basis query authoritative current baseline)
    (done : ownedProgress digests forecast (viewOf query moduleId) authoritative = .ok report) :
    report.current = scopeSummary (acceptanceStates authoritative)
        (itemsForRevision digests (ofType "scope_item" authoritative) (revisionId current) moduleId).1 ∧
      report.modules = moduleSummaries (acceptanceStates authoritative)
        (itemsForRevision digests (ofType "scope_item" authoritative) (revisionId current) moduleId).1 := by
  obtain ⟨revision, items, selected, agreed, -, summary, modules⟩ := owned_progress_items done
  cases basis.current.symm.trans selected
  obtain ⟨-, rfl⟩ := (agreed_items_ok _ _ _ _ _).mp agreed
  exact ⟨summary, modules⟩

theorem views_show {records : List Observation}
    (samples : 1 ≤ query.minimumSamples) (taken : latestLogicalRecords query.semantics [] observations = .ok records)
    (sound : ItemsSound (scopeItems query records))
    (basis : Basis query (ofSources query.projectSources records) current baseline)
    (calm : ¬ Disputed digests (scopeItems query records) current baseline none)
    (whole : ownedProgress digests forecast (viewOf query none) (ofSources query.projectSources records) = .ok report)
    (named : ∀ item ∈ revisionItems (scopeItems query records) (revisionId current) none,
      item.data.get? "module_id" = none →
        status item = "removed" ∧ revisionItems (scopeItems query records) (revisionId current)
        (some "unassigned") ≠ []) :
    ∀ entry ∈ report.modules, ∃ view,
      calculateProgress digests forecast (viewOf query (some entry.1)) observations = .ok (.ok view) ∧
      view.current = entry.2 := by
  have agreed : ¬ Disagree digests (revisionItems (scopeItems query records) (revisionId current) none) :=
    fun disagree => calm (.inl disagree)
  have within : ∀ item ∈ (itemsForRevision digests (scopeItems query records) (revisionId current) none).1,
      item ∈ revisionItems (scopeItems query records) (revisionId current) none ∧ Declared item := by
    intro item listed
    have member := (chosen_mem.mp (selected_mem agreed listed)).1
    exact ⟨member, sound.declared item (revision_items_mem.mp member).1⟩
  intro entry listed
  rw [(owned_current basis whole).2] at listed
  obtain ⟨⟨name, group⟩, grouped, rfl⟩ := List.mem_map.mp listed
  obtain ⟨same, some⟩ := group_by_mem ((sorted_by_perm Prod.fst _).mem_iff.mp grouped)
  have shown : revisionItems (scopeItems query records) (revisionId current) (.some name) ≠ [] := by
    obtain ⟨item, held⟩ := List.exists_mem_of_ne_nil _ some
    rw [same] at held
    obtain ⟨selected, called⟩ := List.mem_filter.mp held
    obtain ⟨member, declared⟩ := within item selected
    rcases module_name_cases declared with ⟨nameless, unassigned, -⟩ | inside
    · rw [← of_decide_eq_true called, unassigned]
      exact (named item member nameless).2
    · rw [revision_items_module]
      exact List.ne_nil_of_mem (List.mem_filter.mpr ⟨member, (inside name).trans called⟩)
  obtain ⟨view, done⟩ := (owned_available digests forecast).mpr
    ⟨current, baseline, (basis_view (.some name)).mpr basis, shown, fun disputed => calm (disputed_whole disputed)⟩
  refine ⟨view, calculated_iff.mpr ⟨samples, records, taken, done⟩, ?_⟩
  rw [(owned_current basis done).1, same, show ofType "scope_item" (ofSources query.projectSources records) =
    scopeItems query records from rfl, view_selected sound agreed]
  apply summary_active
  unfold active
  rw [List.filter_filter, List.filter_filter]
  apply List.filter_congr
  intro item selected
  obtain ⟨member, declared⟩ := within item selected
  rcases module_name_cases declared with ⟨nameless, -, -⟩ | inside
  · rw [decide_eq_false (not_not.mpr (named item member nameless).1), Bool.false_and, Bool.false_and]
  · rw [inside]

theorem representative {items : List Observation} (listed : item ∈ items) :
    ∃ best ∈ chosen items, workItemId best = workItemId item := by
  have grouped : item ∈ items.filter fun other => decide (workItemId other = workItemId item) :=
    List.mem_filter.mpr ⟨listed, decide_eq_true rfl⟩
  obtain ⟨best, found⟩ := max_by_some Observation.recordOrder (List.ne_nil_of_mem grouped)
  obtain ⟨member, called⟩ := List.mem_filter.mp (max_by_mem found)
  exact ⟨best, chosen_mem.mpr ⟨member, (of_decide_eq_true called) ▸ found⟩, of_decide_eq_true called⟩

theorem nameless_removed {items : List Observation} (declared : ∀ item ∈ items, Declared item)
    {acceptances : Dict (Option Terms) (Option Observation)}
    (same : scopeSummary acceptances (items.filter fun item => (item.field "module_id").names "unassigned") =
      scopeSummary acceptances (items.filter fun item => decide (moduleName item = "unassigned")))
    (listed : item ∈ items) (nameless : item.data.get? "module_id" = none) :
    status item = "removed" := by
  by_contra standing
  have counts := congrArg Summary.itemCount same
  change (active _).length = (active _).length at counts
  unfold active at counts
  rw [List.filter_filter, List.filter_filter, ← List.countP_eq_length_filter, ← List.countP_eq_length_filter] at counts
  have apart : (item.field "module_id").names "unassigned" = false ∧ moduleName item = "unassigned" := by
    unfold moduleName Observation.field
    rw [nameless]
    exact ⟨rfl, rfl⟩
  refine absurd counts (Nat.ne_of_lt (count_grows (fun other member inside => ?_) listed ?_ ?_))
  · rw [Bool.and_eq_true] at inside ⊢
    refine ⟨inside.1, ?_⟩
    rcases module_name_cases (declared other member) with ⟨-, unassigned, -⟩ | named
    · exact decide_eq_true unassigned
    · exact (named "unassigned").symm.trans inside.2
  · rw [apart.1, Bool.and_false]
  · rw [decide_eq_true standing, apart.2]
    rfl

theorem basis_unique {current other : Observation} {baseline before : Option Observation}
    (one : Basis query authoritative current baseline) (two : Basis query authoritative other before) :
    current = other ∧ baseline = before :=
  ⟨Except.ok.inj (one.current.symm.trans two.current), Except.ok.inj (one.baseline.symm.trans two.baseline)⟩

theorem partitioned_named (normalized : ∀ item ∈ observations, Normalized item) :
    Partitioned digests forecast query observations ↔ ModulesNamed digests query observations := by
  constructor
  · rintro ⟨entries, hidden⟩ samples records current baseline taken basis
    have sound : ItemsSound (scopeItems query records) := scope_items_sound query.projectSources normalized taken
    refine ⟨fun calm item listed nameless => ?_, fun disputed name some => ?_⟩
    · have agreed : ¬ Disagree digests (revisionItems (scopeItems query records) (revisionId current) none) :=
        fun disagree => calm (.inl disagree)
      obtain ⟨report, whole⟩ := (owned_available digests forecast).mpr
        ⟨current, baseline, (basis_view none).mpr basis, List.ne_nil_of_mem listed, calm⟩
      obtain ⟨-, views⟩ := entries report (calculated_iff.mpr ⟨samples, records, taken, whole⟩)
      -- The selected item of the same work item has no module either.
      obtain ⟨best, selected, called⟩ := representative listed
      have member := (chosen_mem.mp selected).1
      have declared := sound.declared best (revision_items_mem.mp member).1
      have unnamed : best.data.get? "module_id" = none := by
        cases found : best.data.get? "module_id" with
        | none => rfl
        | some value =>
            obtain ⟨name, rfl⟩ := declared.module value found
            cases nameless.symm.trans (same_texts sound agreed member listed called found)
      have unassigned : moduleName best = "unassigned" := by
        unfold moduleName
        rw [unnamed]
      have kept : best ∈ (itemsForRevision digests (scopeItems query records) (revisionId current) none).1 := by
        rw [selected_eq digests _ _ none agreed]
        exact (sorted_by_perm workItemId _).mem_iff.mpr selected
      have grouped := group_by_listed moduleName kept
      rw [unassigned] at grouped
      have entry : ("unassigned", scopeSummary (acceptanceStates (ofSources query.projectSources records))
          ((itemsForRevision digests (scopeItems query records) (revisionId current) none).1.filter fun item =>
            decide (moduleName item = "unassigned"))) ∈ report.modules := by
        rw [(owned_current basis whole).2]
        exact List.mem_map.mpr ⟨_, (sorted_by_perm Prod.fst _).mem_iff.mpr grouped, rfl⟩
      obtain ⟨view, calculated, shown⟩ := views _ entry
      obtain ⟨-, others, again, done⟩ := calculated_iff.mp calculated
      cases taken.symm.trans again
      obtain ⟨present, before, common, some, -⟩ := (owned_available digests forecast).mp ⟨view, done⟩
      obtain ⟨rfl, rfl⟩ := basis_unique basis ((basis_view _).mp common)
      refine ⟨?_, some⟩
      have alone := (owned_current basis done).1.symm.trans shown
      change scopeSummary _ (itemsForRevision digests (scopeItems query records) (revisionId current)
        (.some "unassigned")).1 = _ at alone
      rw [view_selected sound agreed] at alone
      have declares : ∀ item ∈ (itemsForRevision digests (scopeItems query records) (revisionId current) none).1,
          Declared item := fun item listed =>
        sound.declared item (revision_items_mem.mp (chosen_mem.mp (selected_mem agreed listed)).1).1
      exact status_kept (fun given => same_texts sound agreed member listed called given)
        (nameless_removed declares alone kept unnamed)
    · by_contra calm
      obtain ⟨view, done⟩ := (owned_available digests forecast).mpr
        ⟨current, baseline, (basis_view (.some name)).mpr basis, some, calm⟩
      obtain ⟨report, whole⟩ := hidden name view (calculated_iff.mpr ⟨samples, records, taken, done⟩)
      obtain ⟨-, others, again, whole⟩ := calculated_iff.mp whole
      cases taken.symm.trans again
      obtain ⟨present, based, common, -, quiet⟩ := (owned_available digests forecast).mp ⟨report, whole⟩
      obtain ⟨rfl, rfl⟩ := basis_unique basis ((basis_view none).mp common)
      exact quiet disputed
  · intro named
    refine ⟨fun report calculated => ?_, fun name view calculated => ?_⟩
    · obtain ⟨samples, records, taken, whole⟩ := calculated_iff.mp calculated
      have sound := scope_items_sound query.projectSources normalized taken
      obtain ⟨current, baseline, basis, -, calm⟩ := (owned_available digests forecast).mp ⟨report, whole⟩
      have basis := (basis_view none).mp basis
      have rules := (named samples records current baseline taken basis).1 calm
      refine ⟨?_, views_show samples taken sound basis calm whole rules⟩
      obtain ⟨summary, modules⟩ := owned_current basis whole
      rw [summary, modules]
      refine modules_part fun item listed => ?_
      have agreed : ¬ Disagree digests (revisionItems (scopeItems query records) (revisionId current) none) :=
        fun disagree => calm (.inl disagree)
      exact sound.declared item (revision_items_mem.mp (chosen_mem.mp (selected_mem agreed listed)).1).1
    · obtain ⟨samples, records, taken, done⟩ := calculated_iff.mp calculated
      obtain ⟨current, baseline, basis, some, calm⟩ := (owned_available digests forecast).mp ⟨view, done⟩
      have basis := (basis_view (.some name)).mp basis
      have quiet : ¬ Disputed digests (scopeItems query records) current baseline none := fun disputed =>
        calm ((named samples records current baseline taken basis).2 disputed name some)
      have more : revisionItems (scopeItems query records) (revisionId current) none ≠ [] := by
        intro none
        apply some
        change revisionItems (scopeItems query records) (revisionId current) (.some name) = []
        rw [revision_items_module, none]
        rfl
      obtain ⟨report, whole⟩ := (owned_available digests forecast).mpr
        ⟨current, baseline, (basis_view none).mpr basis, more, quiet⟩
      exact ⟨report, calculated_iff.mpr ⟨samples, records, taken, whole⟩⟩

-- Where one owner source speaks and names the module of each of its items.
omit [DecidableEq δ] in
theorem modules_named_alone (alone : ∀ records, latestLogicalRecords query.semantics [] observations = .ok records →
    (∃ owner, ∀ item ∈ scopeItems query records, item.sourceId = owner) ∧
      ∀ item ∈ scopeItems query records, (item.data.get? "module_id").isSome = true) :
    ModulesNamed digests query observations := by
  intro _ records current baseline taken _
  obtain ⟨⟨owner, single⟩, named⟩ := alone records taken
  have agreed : ∀ revision, ¬ Disagree digests (revisionItems (scopeItems query records) revision none) := by
    rintro revision ⟨first, one, second, two, _, apart, _⟩
    exact apart ((single first (List.mem_filter.mp one).1).trans (single second (List.mem_filter.mp two).1).symm)
  refine ⟨fun _ item listed nameless => ?_, fun disputed => ?_⟩
  · have some_ := named item (List.mem_filter.mp listed).1
    rw [nameless] at some_
    cases some_
  · rcases disputed with disagree | ⟨revision, _, disagree⟩
    · exact absurd disagree (agreed _)
    · exact absurd disagree (agreed _)

end Partition

def onlyPlan : Observation := observed "plan" "scope_revision" 1 [("scope_revision_id", .str "plan-1"),
  ("revision_index", .int 1), ("current", .bool true), ("baseline", .bool true)]

def moduleItem (observationId workItem module : String) : Observation :=
  plannedItem observationId workItem [("module_id", .str module)]

def modulesPlan : List Observation := [onlyPlan, moduleItem "first" "parser" "core", moduleItem "second" "guide" "docs"]

theorem module_declared (observationId workItem module : String) : Declared
    (moduleItem observationId workItem module) where
  revision := ⟨_, rfl⟩
  workItem := ⟨_, rfl⟩
  weight := nofun
  module := fun _ found => ⟨module, (Option.some.inj found).symm⟩

theorem modules_plan_normalized : ∀ item ∈ modulesPlan, Normalized item := by
  intro item listed
  simp only [modulesPlan, List.mem_cons, List.not_mem_nil, or_false] at listed
  rcases listed with rfl | rfl | rfl
  · exact ⟨rfl, fun kind => absurd kind (by decide)⟩
  · exact ⟨rfl, fun _ => module_declared "first" "parser" "core"⟩
  · exact ⟨rfl, fun _ => module_declared "second" "guide" "docs"⟩

theorem modules_plan_partitioned_named : Partitioned plainDigests (fun _ _ _ _ => ()) plainQuery modulesPlan := by
  refine (partitioned_named modules_plan_normalized).mpr (modules_named_alone fun records taken => ?_)
  obtain ⟨found, done, checked⟩ := ok_of_check (latestLogicalRecords plainQuery.semantics [] modulesPlan)
    (fun records => (scopeItems plainQuery records).all fun item =>
      decide (item.sourceId = "owner") && (item.data.get? "module_id").isSome) (by decide +kernel)
  cases taken.symm.trans done
  simp only [List.all_eq_true, Bool.and_eq_true, decide_eq_true_eq] at checked
  exact ⟨⟨"owner", fun item listed => (checked item listed).1⟩, fun item listed => (checked item listed).2⟩

theorem unassigned_has_no_view :
    (∃ report : Report Unit, calculateProgress plainDigests (fun _ _ _ _ => ()) (viewOf plainQuery none)
        [onlyPlan, plannedItem "item" "feature" []] = .ok (.ok report) ∧ report.baseline.isSome = true ∧
        report.modules.map Prod.fst = ["unassigned"]) ∧
      calculateProgress plainDigests (fun _ _ _ _ => ()) (viewOf plainQuery (some "unassigned"))
        [onlyPlan, plannedItem "item" "feature" []] = .ok (.error .currentScopeItemsUnavailable) ∧
      ¬ Partitioned plainDigests (fun _ _ _ _ => ()) plainQuery [onlyPlan, plannedItem "item" "feature" []] := by
  obtain ⟨outcome, calculated, checked⟩ := ok_of_check (calculateProgress plainDigests (fun _ _ _ _ => ())
    (viewOf plainQuery none) [onlyPlan, plannedItem "item" "feature" []])
    (fun outcome => match outcome with
      | .ok report => report.baseline.isSome && decide (report.modules.map Prod.fst = ["unassigned"])
      | .error _ => false) (by decide +kernel)
  obtain ⟨shown, viewed, missing⟩ := ok_of_check (calculateProgress plainDigests (fun _ _ _ _ => ())
    (viewOf plainQuery (some "unassigned")) [onlyPlan, plannedItem "item" "feature" []])
    (fun outcome => match outcome with
      | .ok _ => false
      | .error reason => decide (reason = .currentScopeItemsUnavailable)) (by decide +kernel)
  cases outcome with
  | error _ => cases checked
  | ok report =>
      cases shown with
      | ok _ => cases missing
      | error reason =>
          obtain ⟨based, modules⟩ := Bool.and_eq_true_iff.mp checked
          have listed : report.modules.map Prod.fst = ["unassigned"] := of_decide_eq_true modules
          have unavailable : reason = .currentScopeItemsUnavailable := of_decide_eq_true missing
          subst unavailable
          refine ⟨⟨report, calculated, based, listed⟩, viewed, fun ⟨entries, _⟩ => ?_⟩
          obtain ⟨⟨name, summary⟩, member, called⟩ := List.mem_map.mp (listed ▸ List.mem_singleton_self "unassigned")
          obtain ⟨view, found, -⟩ := (entries report calculated).2 _ member
          rw [called] at found
          cases viewed.symm.trans found

end OrchestratorEngine.Metrics.Progress
