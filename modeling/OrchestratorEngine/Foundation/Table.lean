import Mathlib.Data.List.Forall2
import Mathlib.Data.List.Nodup
import Mathlib.Data.List.Perm.Basic
import OrchestratorEngine.Foundation.Outcome

set_option autoImplicit false

namespace Foundation

variable {ρ κ : Type} [DecidableEq κ]

def row? (key : ρ → κ) (id : κ) (table : List ρ) : Option ρ := table.find? (fun row => decide (key row = id))

def put (key : ρ → κ) (row : ρ) (table : List ρ) : List ρ :=
  if key row ∈ table.map key then table.map (fun old => if key old = key row then row else old) else table ++ [row]

variable (key : ρ → κ)

theorem row_mem (id : κ) (table : List ρ) (row : ρ) (found : row? key id table = some row) :
    row ∈ table ∧ key row = id := by
  have passed := List.find?_some found
  exact ⟨List.mem_of_find?_eq_some found, of_decide_eq_true passed⟩

theorem row_none (id : κ) (table : List ρ) (missing : row? key id table = none) :
    id ∉ table.map key := by
  intro listed
  obtain ⟨row, member, same⟩ := List.mem_map.mp listed
  exact absurd (decide_eq_true same) (List.find?_eq_none.mp missing row member)

theorem row_map (change : ρ → ρ) (stable : ∀ row, key (change row) = key row) (id : κ)
    (table : List ρ) : row? key id (table.map change) = (row? key id table).map change := by
  have same : (fun row => decide (key row = id)) ∘ change = fun row => decide (key row = id) := by
    funext row
    rw [Function.comp_apply, stable]
  rw [row?, row?, List.find?_map, same]

theorem row_append (id : κ) (table : List ρ) (row : ρ) :
    row? key id (table ++ [row]) = (row? key id table).or (if key row = id then some row else none) := by
  by_cases same : key row = id <;> simp [row?, List.find?_append, same]

omit [DecidableEq κ] in
theorem row_unique (table : List ρ) (unique : (table.map key).Nodup) (first second : ρ)
    (listed : first ∈ table) (also : second ∈ table) (same : key first = key second) : first = second :=
  List.inj_on_of_nodup_map unique listed also same

theorem row_of_mem (table : List ρ) (unique : (table.map key).Nodup) (row : ρ) (listed : row ∈ table) :
    row? key (key row) table = some row := by
  cases found : row? key (key row) table with
  | none => exact absurd (List.mem_map_of_mem listed) (row_none key (key row) table found)
  | some other =>
      obtain ⟨member, same⟩ := row_mem key (key row) table other found
      exact congrArg some (row_unique key table unique other row member listed same)

omit [DecidableEq κ] in
theorem key_unvisited (table front back : List ρ) (row : ρ) (chosen : ρ → Bool)
    (unique : (table.map key).Nodup) (split : table.filter chosen = front ++ row :: back) :
    key row ∉ front.map key := by
  have ordered := unique.sublist (List.Sublist.map key (List.filter_sublist (p := chosen) (l := table)))
  rw [split, List.map_append, List.map_cons] at ordered
  exact fun member => (List.nodup_append.mp ordered).2.2 _ member _ (by simp) rfl

variable (row : ρ)

theorem put_fresh (table : List ρ) (fresh : key row ∉ table.map key) :
    put key row table = table ++ [row] := if_neg fresh

theorem put_keys (table : List ρ) (present : key row ∈ table.map key) :
    (put key row table).map key = table.map key := by
  rw [put, if_pos present, List.map_map]
  apply List.map_congr_left
  intro old _
  by_cases same : key old = key row <;> simp [same]

theorem mem_put (table : List ρ) (other : ρ) :
    other ∈ put key row table ↔ other = row ∨ other ∈ table ∧ key other ≠ key row := by
  by_cases present : key row ∈ table.map key
  · rw [put, if_pos present, List.mem_map]
    constructor
    · rintro ⟨old, member, changed⟩
      by_cases same : key old = key row
      · exact .inl (by rw [← changed, if_pos same])
      · rw [if_neg same] at changed
        exact .inr ⟨changed ▸ member, changed ▸ same⟩
    · rintro (rfl | ⟨member, different⟩)
      · obtain ⟨old, member, same⟩ := List.mem_map.mp present
        exact ⟨old, member, if_pos same⟩
      · exact ⟨other, member, if_neg different⟩
  · rw [put_fresh key row table present, List.mem_append, List.mem_singleton]
    constructor
    · rintro (member | same)
      · exact .inr ⟨member, fun same => present (same ▸ List.mem_map_of_mem member)⟩
      · exact .inl same
    · rintro (same | ⟨member, _⟩)
      · exact .inr same
      · exact .inl member

theorem put_row (table : List ρ) : row? key (key row) (put key row table) = some row := by
  cases found : row? key (key row) (put key row table) with
  | none => exact absurd (List.mem_map_of_mem ((mem_put key row table row).mpr (.inl rfl))) (row_none _ _ _ found)
  | some other =>
      obtain ⟨member, same⟩ := row_mem _ _ _ other found
      rcases (mem_put key row table other).mp member with rfl | ⟨_, different⟩
      · rfl
      · exact absurd same different

theorem put_row_other (table : List ρ) (id : κ) (different : id ≠ key row) :
    row? key id (put key row table) = row? key id table := by
  by_cases present : key row ∈ table.map key
  · rw [put, if_pos present]
    clear present
    induction table with
    | nil => rfl
    | cons old tail ih =>
        by_cases same : key old = key row
        · have skipped : key old ≠ id := fun found => different (found.symm.trans same)
          simpa [row?, same, different.symm, skipped] using ih
        · by_cases found : key old = id
          · subst found
            simp [row?, same]
          · simpa [row?, same, found] using ih
  · simp [put_fresh key row table present, row?, List.find?_append, different.symm]

omit [DecidableEq κ] in
theorem forall₂_trans (relation : ρ → ρ → Prop)
    (trans : ∀ first second third, relation first second → relation second third → relation first third)
    (first second third : List ρ) (lower : List.Forall₂ relation first second)
    (upper : List.Forall₂ relation second third) : List.Forall₂ relation first third :=
  (forall₂_compose relation relation first second third lower upper).imp
    fun _ _ ⟨_, before, after⟩ => trans _ _ _ before after

omit [DecidableEq κ] in
theorem forall₂_of_keys (relation : ρ → ρ → Prop) (before after : List ρ)
    (keys : after.map key = before.map key) (unique : (before.map key).Nodup)
    (step : ∀ old ∈ before, ∀ new ∈ after, key new = key old → relation old new) :
    List.Forall₂ relation before after := by
  induction before generalizing after with
  | nil =>
      cases after with
      | nil => exact .nil
      | cons new rest => simp at keys
  | cons old tail ih =>
      cases after with
      | nil => simp at keys
      | cons new rest =>
          obtain ⟨head, others⟩ := List.cons.inj keys
          refine .cons (step old (by simp) new (by simp) head) (ih rest others (List.nodup_cons.mp unique).2 ?_)
          exact fun row member changed listed => step row (by simp [member]) changed (by simp [listed])

omit [DecidableEq κ] in
theorem forall₂_keys (relation : ρ → ρ → Prop) (before after : List ρ)
    (stable : ∀ old new, relation old new → key new = key old) (related : List.Forall₂ relation before after) :
    after.map key = before.map key := by
  induction related with
  | nil => rfl
  | cons head _ ih => rw [List.map_cons, List.map_cons, stable _ _ head, ih]

theorem put_related (relation : ρ → ρ → Prop) (keys : ∀ first second, relation first second → key second = key first)
    (earlier later : List ρ) (related : List.Forall₂ relation earlier later) (row copy : ρ) (here : relation row copy) :
    List.Forall₂ relation (put key row earlier) (put key copy later) := by
  have same : later.map key = earlier.map key := forall₂_keys key relation earlier later keys related
  unfold put
  rw [keys row copy here, same]
  split
  · rw [List.forall₂_map_left_iff, List.forall₂_map_right_iff]
    refine related.imp fun first second pair => ?_
    rw [keys first second pair]
    by_cases replaced : key first = key row
    · rwa [if_pos replaced, if_pos replaced]
    · rwa [if_neg replaced, if_neg replaced]
  · exact List.rel_append related (.cons here .nil)

theorem put_forall₂ (relation : ρ → ρ → Prop) (table : List ρ) (row old : ρ)
    (unique : (table.map key).Nodup) (found : row? key (key row) table = some old)
    (same : ∀ other, relation other other) (step : relation old row) :
    List.Forall₂ relation table (put key row table) := by
  obtain ⟨member, matched⟩ := row_mem key (key row) table old found
  refine forall₂_of_keys key relation table (put key row table) (put_keys key row table ?_) unique ?_
  · exact List.mem_map.mpr ⟨old, member, matched⟩
  · intro before listed after present agree
    rcases (mem_put key row table after).mp present with rfl | ⟨kept, _⟩
    · rwa [row_unique key table unique before old listed member (agree.symm.trans matched.symm)]
    · rw [row_unique key table unique after before kept listed agree]
      exact same before

theorem single_of_same_key {ρ κ : Type} (key : ρ → κ) (rows : List ρ) (distinct : (rows.map key).Nodup)
    (same : ∀ first ∈ rows, ∀ second ∈ rows, key first = key second) : rows.length ≤ 1 := by
  match rows with
  | [] => exact Nat.zero_le 1
  | [_] => exact Nat.le_refl 1
  | first :: second :: rest =>
      have equal := same first (by simp) second (by simp)
      simp [equal] at distinct

end Foundation
