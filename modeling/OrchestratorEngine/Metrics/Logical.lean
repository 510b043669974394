import OrchestratorEngine.Metrics.Records

set_option autoImplicit false

namespace OrchestratorEngine.Metrics

open Foundation

theorem sorted_by_perm {α κ : Type} [LE κ] [DecidableLE κ] (key : α → κ) (items : List α) :
    (sortedBy key items).Perm items :=
  List.perm_insertionSort _ items

inductive Woven {α : Type} : List α → List α → List α → Prop where
  | nil : Woven [] [] []
  | old {item : α} {old added whole : List α} (rest : Woven old added whole) : Woven (item :: old) added (item :: whole)
  | new {item : α} {old added whole : List α} (rest : Woven old added whole) : Woven old (item :: added) (item :: whole)

namespace Woven

variable {α : Type}

theorem filter {old added whole : List α} (woven : Woven old added whole) (keep : α → Bool) :
    Woven (old.filter keep) (added.filter keep) (whole.filter keep) := by
  induction woven with
  | nil => exact .nil
  | @old item old added whole rest ih =>
      rw [List.filter_cons, List.filter_cons]
      split
      · exact .old ih
      · exact ih
  | @new item old added whole rest ih =>
      rw [List.filter_cons, List.filter_cons]
      split
      · exact .new ih
      · exact ih

theorem mem_iff {old added whole : List α} (woven : Woven old added whole) (item : α) :
    item ∈ whole ↔ item ∈ old ∨ item ∈ added := by
  induction woven with
  | nil => simp
  | old rest ih => rw [List.mem_cons, List.mem_cons, ih, or_assoc]
  | new rest ih => rw [List.mem_cons, List.mem_cons, ih, or_left_comm]

theorem nothing_new {old whole : List α} (woven : Woven old [] whole) : whole = old := by
  generalize none : ([] : List α) = added at woven
  induction woven with
  | nil => rfl
  | old rest ih => rw [ih none]
  | new => cases none

end Woven

section Sorting

variable {α κ : Type} [LinearOrder κ] (key : α → κ)

local instance byKeyTotal : Std.Total fun left right : α => key left ≤ key right :=
  ⟨fun left right => le_total (key left) (key right)⟩

local instance byKeyTrans : IsTrans α fun left right => key left ≤ key right :=
  ⟨fun _ _ _ lower upper => le_trans lower upper⟩

theorem sorted_by_ordered (items : List α) : (sortedBy key items).Pairwise fun left right => key left ≤ key right :=
  List.pairwise_insertionSort _ items

theorem inserted_first (item : α) (items : List α) (least : ∀ other ∈ items, key item ≤ key other) :
    items.orderedInsert (fun left right => key left ≤ key right) item = item :: items := by
  cases items with
  | nil => rfl
  | cons head rest => exact if_pos (least head List.mem_cons_self)

theorem inserted_filter (keep : α → Bool) (item : α) (items : List α)
    (ordered : items.Pairwise fun left right => key left ≤ key right) :
    (items.orderedInsert (fun left right => key left ≤ key right) item).filter keep =
      if keep item then (items.filter keep).orderedInsert (fun left right => key left ≤ key right) item
      else items.filter keep := by
  induction items with
  | nil => by_cases kept : keep item <;> simp [kept]
  | cons head rest ih =>
      obtain ⟨least, sorted⟩ := List.pairwise_cons.mp ordered
      by_cases below : key item ≤ key head
      · have first : ∀ other ∈ (head :: rest).filter keep, key item ≤ key other := by
          intro other listed
          rcases List.mem_cons.mp (List.mem_filter.mp listed).1 with rfl | later
          · exact below
          · exact le_trans below (least other later)
        rw [List.orderedInsert_cons, if_pos below, List.filter_cons, inserted_first key item _ first]
      · rw [List.orderedInsert_cons, if_neg below, List.filter_cons, ih sorted, List.filter_cons]
        by_cases held : keep head
        · by_cases kept : keep item
          · simp [held, kept, below]
          · simp [held, kept]
        · simp [held]

theorem sorted_by_filter (keep : α → Bool) (items : List α) :
    (sortedBy key items).filter keep = sortedBy key (items.filter keep) := by
  induction items with
  | nil => rfl
  | cons item rest ih =>
      change ((sortedBy key rest).orderedInsert (fun left right => key left ≤ key right) item).filter keep = _
      rw [inserted_filter key keep item _ (sorted_by_ordered key rest), ih, List.filter_cons]
      split <;> rfl

end Sorting

variable (item : Observation)

theorem field_identity_source (names : List String) :
    (fieldIdentity item names).head? = some item.sourceId := by
  induction names with
  | nil => rfl
  | cons name rest ih =>
      simp only [fieldIdentity]
      repeat' split
      all_goals first | exact ih | rfl

theorem source_identity_source : (sourceIdentity item).head? = some item.sourceId := by
  simp only [sourceIdentity]
  repeat' split
  all_goals first | exact field_identity_source item identityFields | rfl

theorem identity_source : (identity [] item).head? = some item.sourceId := by
  rw [identity, canonicalName, if_neg List.not_mem_nil]
  exact source_identity_source item

theorem updated_get (previous latest : Dict String Json) (name : String) :
    (updated previous latest).get? name = (latest.get? name).or (previous.get? name) := by
  obtain ⟨items, distinct⟩ := latest
  change (items.foldl (fun merged item => merged.set item.1 item.2) previous).get? name =
    (Dict.getItem name items).or (previous.get? name)
  induction items generalizing previous with
  | nil => rfl
  | cons item rest ih =>
      obtain ⟨fresh, later⟩ := List.nodup_cons.mp distinct
      rw [List.foldl_cons, ih (previous.set item.1 item.2) later, Dict.get_set, Dict.getItem]
      by_cases same : name = item.1
      · subst same
        have absent : Dict.getItem item.1 rest = none := by
          rw [← Option.not_isSome_iff_eq_none]
          intro present
          obtain ⟨value, found⟩ := Option.isSome_iff_exists.mp present
          have member := (Dict.mem_items ⟨rest, later⟩ item.1 value).mpr found
          exact fresh (List.mem_map.mpr ⟨_, member, rfl⟩)
        simp [absent]
      · rw [if_neg same, if_neg same]

theorem merged_field (record earlier : Observation) (name : String) :
    ({ record with data := updated earlier.data record.data } : Observation).field name =
      if (record.data.get? name).isSome then record.field name else earlier.field name := by
  simp only [Observation.field, updated_get]
  cases record.data.get? name <;> rfl

def combine (semantics : Semantics) (previous : Option Observation) (record : Observation) : Except Fault Observation :=
  match previous with
  | none => .ok record
  | some earlier => do
      if ← mergesInto semantics record then return { record with data := updated earlier.data record.data }
      else return record

theorem settle_record_eq (semantics : Semantics) (canonicalSources : List String)
    (selected : Dict (List String) Observation) (record : Observation) :
    settleRecord semantics canonicalSources selected record =
      (combine semantics (selected.get? (identity canonicalSources record)) record).map
        (selected.set (identity canonicalSources record)) := by
  simp only [settleRecord, combine]
  cases selected.get? (identity canonicalSources record) with
  | none => rfl
  | some earlier =>
      dsimp only
      cases mergesInto semantics record with
      | error fault => rfl
      | ok merges => cases merges <;> rfl

theorem filter_set_items {κ α : Type} [DecidableEq κ] (keep : κ → Bool) (key : κ) (value : α) (items : List (κ × α)) :
    (Dict.setItems key value items).filter (fun item => keep item.1) =
      if keep key then Dict.setItems key value (items.filter fun item => keep item.1)
      else items.filter fun item => keep item.1 := by
  induction items with
  | nil => by_cases kept : keep key <;> simp [Dict.setItems, kept]
  | cons item rest ih =>
      obtain ⟨old, held⟩ := item
      by_cases same : old = key
      · subst same
        by_cases kept : keep old <;> simp [Dict.setItems, kept]
      · rw [Dict.setItems, if_neg same, List.filter_cons, ih, List.filter_cons]
        by_cases kept : keep old
        · by_cases also : keep key
          · simp [kept, also, Dict.setItems, same]
          · simp [kept, also]
        · simp [kept]

theorem get_filtered {κ α : Type} [DecidableEq κ] (keep : κ → Bool) (key : κ) (kept : keep key = true)
    (items : List (κ × α)) : Dict.getItem key (items.filter fun item => keep item.1) = Dict.getItem key items := by
  induction items with
  | nil => rfl
  | cons item rest ih =>
      obtain ⟨old, held⟩ := item
      by_cases same : key = old
      · subst same
        simp [kept, Dict.getItem]
      · by_cases also : keep old
        · simp [also, Dict.getItem, same, ih]
        · simp [also, Dict.getItem, same, ih]

theorem settle_filter (semantics : Semantics) (canonicalSources : List String) (keep : List String → Bool)
    (records : List Observation) (start part final : Dict (List String) Observation)
    (agree : part.items = start.items.filter fun item => keep item.1)
    (done : records.foldlM (settleRecord semantics canonicalSources) start = .ok final) :
    ∃ rest, (records.filter fun record => keep (identity canonicalSources record)).foldlM
        (settleRecord semantics canonicalSources) part = .ok rest ∧
      rest.items = final.items.filter fun item => keep item.1 := by
  induction records generalizing start part with
  | nil =>
      cases done
      exact ⟨part, rfl, agree⟩
  | cons record later ih =>
      rw [List.foldlM_cons, bind_ok_iff] at done
      obtain ⟨next, taken, onward⟩ := done
      have given := taken
      rw [settle_record_eq] at taken
      cases combined : combine semantics (start.get? (identity canonicalSources record)) record with
      | error fault =>
          rw [combined] at taken
          cases taken
      | ok value =>
          rw [combined] at taken
          cases taken
          have grown := filter_set_items keep (identity canonicalSources record) value start.items
          by_cases kept : keep (identity canonicalSources record)
          · rw [if_pos kept, ← agree] at grown
            obtain ⟨rest, folded, same⟩ := ih (start.set (identity canonicalSources record) value)
              (part.set (identity canonicalSources record) value) grown.symm onward
            refine ⟨rest, ?_, same⟩
            have looked : part.get? (identity canonicalSources record) =
                start.get? (identity canonicalSources record) := by
              change Dict.getItem _ part.items = Dict.getItem _ start.items
              rw [agree, get_filtered keep _ kept]
            rw [List.filter_cons, if_pos kept, List.foldlM_cons, settle_record_eq, looked, combined]
            exact folded
          · rw [if_neg kept, ← agree] at grown
            obtain ⟨rest, folded, same⟩ := ih (start.set (identity canonicalSources record) value) part
              grown.symm onward
            refine ⟨rest, ?_, same⟩
            rw [List.filter_cons, if_neg kept]
            exact folded

theorem settle_invariant (semantics : Semantics) (canonicalSources : List String)
    (holds : List String → Observation → Prop) (records : List Observation) (final : Dict (List String) Observation)
    (fresh : ∀ record ∈ records, holds (identity canonicalSources record) record)
    (merged : ∀ record ∈ records, ∀ earlier, holds (identity canonicalSources record) earlier →
      holds (identity canonicalSources record) { record with data := updated earlier.data record.data })
    (done : records.foldlM (settleRecord semantics canonicalSources) Dict.empty = .ok final) :
    ∀ item ∈ final.items, holds item.1 item.2 := by
  apply foldlM_ok_inv (settleRecord semantics canonicalSources) (fun dict => ∀ item ∈ dict.items, holds item.1 item.2)
    records Dict.empty final nofun ?_ done
  intro selected record listed next before settled
  rw [settle_record_eq] at settled
  cases combined : combine semantics (selected.get? (identity canonicalSources record)) record with
  | error fault =>
      rw [combined] at settled
      cases settled
  | ok value =>
      rw [combined] at settled
      cases settled
      have own : holds (identity canonicalSources record) value := by
        cases known : selected.get? (identity canonicalSources record) with
        | none =>
            rw [known] at combined
            cases combined
            exact fresh record listed
        | some earlier =>
            rw [known, combine, bind_ok_iff] at combined
            obtain ⟨merges, -, finish⟩ := combined
            cases merges
            · cases finish
              exact fresh record listed
            · cases finish
              exact merged record listed earlier (before _ ((Dict.mem_items _ _ _).mpr known))
      rintro ⟨key, kept⟩ member
      rw [Dict.mem_items, Dict.get_set] at member
      split at member
      case isTrue same =>
        cases member
        exact same ▸ own
      case isFalse => exact before _ ((Dict.mem_items _ _ _).mpr member)

end OrchestratorEngine.Metrics
