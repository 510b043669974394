import Mathlib.Data.List.Nodup
import Mathlib.Data.List.Lookmap
import Mathlib.Data.List.Sort

set_option autoImplicit false

namespace Foundation

-- A dictionary in insertion order. The keys are distinct by construction, so
-- a loop over the items and a lookup can never disagree.
structure Dict (κ α : Type) where
  items : List (κ × α)
  distinct : (items.map Prod.fst).Nodup
deriving DecidableEq

namespace Dict

variable {κ α : Type}

def empty : Dict κ α := ⟨[], List.nodup_nil⟩

def keys (dict : Dict κ α) : List κ := dict.items.map Prod.fst

variable [DecidableEq κ]

def getItem (key : κ) : List (κ × α) → Option α
  | [] => none
  | (old, kept) :: tail => if key = old then some kept else getItem key tail

def get? (dict : Dict κ α) (key : κ) : Option α := getItem key dict.items

def setItems (key : κ) (value : α) : List (κ × α) → List (κ × α)
  | [] => [(key, value)]
  | (old, kept) :: tail => if old = key then (key, value) :: tail else (old, kept) :: setItems key value tail

theorem mem_set_items_keys (key : κ) (value : α) (items : List (κ × α)) (other : κ) :
    other ∈ (setItems key value items).map Prod.fst ↔ other = key ∨ other ∈ items.map Prod.fst := by
  induction items with
  | nil => simp [setItems]
  | cons item tail ih =>
      obtain ⟨old, kept⟩ := item
      by_cases same : old = key
      · subst same
        simp [setItems]
      · rw [setItems, if_neg same, List.map_cons, List.mem_cons, ih, List.map_cons, List.mem_cons]
        exact or_left_comm

theorem set_items_distinct (key : κ) (value : α) (items : List (κ × α))
    (distinct : (items.map Prod.fst).Nodup) : ((setItems key value items).map Prod.fst).Nodup := by
  induction items with
  | nil => simp [setItems]
  | cons item tail ih =>
      obtain ⟨old, kept⟩ := item
      obtain ⟨fresh, rest⟩ := List.nodup_cons.mp distinct
      by_cases same : old = key
      · rw [setItems, if_pos same]
        simpa [same] using distinct
      · rw [setItems, if_neg same, List.map_cons, List.nodup_cons, mem_set_items_keys]
        exact ⟨fun found => found.elim same fresh, ih rest⟩

def set (dict : Dict κ α) (key : κ) (value : α) : Dict κ α :=
  ⟨setItems key value dict.items, set_items_distinct key value dict.items dict.distinct⟩

def without (dict : Dict κ α) (removed : List κ) : Dict κ α :=
  ⟨dict.items.filter (fun item => decide (item.1 ∉ removed)),
    dict.distinct.sublist (List.Sublist.map Prod.fst List.filter_sublist)⟩

def single (key : κ) (value : α) : Dict κ α := ⟨[(key, value)], List.nodup_singleton _⟩

omit [DecidableEq κ] in
theorem map_items_distinct {β : Type} (change : κ → α → β) (items : List (κ × α))
    (distinct : (items.map Prod.fst).Nodup) :
    ((items.map fun item => (item.1, change item.1 item.2)).map Prod.fst).Nodup := by
  simpa only [List.map_map, Function.comp_def] using distinct

def mapValues {β : Type} (dict : Dict κ α) (change : κ → α → β) : Dict κ β :=
  ⟨dict.items.map fun item => (item.1, change item.1 item.2), map_items_distinct change dict.items dict.distinct⟩

def Same (first second : Dict κ α) : Prop := ∀ key, first.get? key = second.get? key

@[simp] theorem get_empty (key : κ) : (empty : Dict κ α).get? key = none := rfl

omit [DecidableEq κ] in
@[simp] theorem keys_empty : (empty : Dict κ α).keys = [] := rfl

variable (dict : Dict κ α)

theorem mem_items (key : κ) (value : α) :
    (key, value) ∈ dict.items ↔ dict.get? key = some value := by
  obtain ⟨items, distinct⟩ := dict
  change (key, value) ∈ items ↔ getItem key items = some value
  induction items with
  | nil => simp [getItem]
  | cons item tail ih =>
      obtain ⟨old, kept⟩ := item
      obtain ⟨fresh, rest⟩ := List.nodup_cons.mp distinct
      by_cases same : key = old
      · subst same
        have absent : (key, value) ∉ tail := fun member =>
          fresh (List.mem_map.mpr ⟨(key, value), member, rfl⟩)
        simp [getItem, absent, eq_comm]
      · rw [List.mem_cons, getItem, if_neg same, ← ih rest]
        simp [same]

theorem mem_keys (key : κ) : key ∈ dict.keys ↔ ∃ value, dict.get? key = some value := by
  constructor
  · intro member
    obtain ⟨item, present, rfl⟩ := List.mem_map.mp member
    exact ⟨item.2, (mem_items dict item.1 item.2).mp present⟩
  · rintro ⟨value, found⟩
    exact List.mem_map.mpr ⟨(key, value), (mem_items dict key value).mpr found, rfl⟩

theorem get_none_iff (key : κ) : dict.get? key = none ↔ key ∉ dict.keys := by
  rw [mem_keys, Option.eq_none_iff_forall_ne_some, not_exists]

@[simp] theorem get_single (key other : κ) (value : α) :
    (single key value).get? other = if other = key then some value else none := by
  by_cases same : other = key <;> simp [single, get?, getItem, same]

theorem get_set_items (key other : κ) (value : α) (items : List (κ × α)) :
    getItem other (setItems key value items) = if other = key then some value else getItem other items := by
  induction items with
  | nil => by_cases same : other = key <;> simp [setItems, getItem, same]
  | cons item tail ih =>
      obtain ⟨old, kept⟩ := item
      by_cases replaced : old = key
      · subst replaced
        by_cases same : other = old <;> simp [setItems, getItem, same]
      · rw [setItems, if_neg replaced, getItem, getItem, ih]
        by_cases same : other = old
        · simp [same, replaced]
        · simp [same]

@[simp] theorem get_set (dict : Dict κ α) (key other : κ) (value : α) :
    (dict.set key value).get? other = if other = key then some value else dict.get? other :=
  get_set_items key other value dict.items

theorem set_fresh_items (key : κ) (value : α) (fresh : dict.get? key = none) :
    (dict.set key value).items = dict.items ++ [(key, value)] := by
  obtain ⟨items, distinct⟩ := dict
  change setItems key value items = items ++ [(key, value)]
  change getItem key items = none at fresh
  clear distinct
  induction items with
  | nil => rfl
  | cons item tail ih =>
      obtain ⟨old, kept⟩ := item
      rw [getItem] at fresh
      split at fresh
      · cases fresh
      · rename_i other
        rw [setItems, if_neg (Ne.symm other), ih fresh, List.cons_append]

@[simp] theorem get_without (dict : Dict κ α) (removed : List κ) (key : κ) :
    (dict.without removed).get? key = if key ∈ removed then none else dict.get? key := by
  apply Option.ext
  intro value
  by_cases gone : key ∈ removed
  · rw [if_pos gone, ← mem_items]
    simp [without, gone]
  · rw [if_neg gone, ← mem_items, ← mem_items]
    simp [without, gone]

theorem get_map_values {β : Type} (dict : Dict κ α) (change : κ → α → β) (key : κ) :
    (dict.mapValues change).get? key = (dict.get? key).map (change key) := by
  obtain ⟨items, distinct⟩ := dict
  simp only [get?, mapValues]
  clear distinct
  induction items with
  | nil => rfl
  | cons head rest ih =>
      simp only [List.map_cons, getItem]
      split
      case isTrue same =>
        rw [← same]
        rfl
      case isFalse _ => exact ih

theorem items_nil_iff : dict.items = [] ↔ ∀ key, dict.get? key = none := by
  constructor
  · intro nothing key
    simp [get?, getItem, nothing]
  · intro absent
    apply List.eq_nil_iff_forall_not_mem.mpr
    rintro ⟨key, value⟩ member
    have found := (mem_items dict key value).mp member
    simp [absent key] at found

theorem eq_empty_iff : dict = empty ↔ ∀ key, dict.get? key = none := by
  rw [← items_nil_iff]
  constructor
  · rintro rfl
    rfl
  · intro nothing
    obtain ⟨items, distinct⟩ := dict
    simp only at nothing
    subst nothing
    rfl

def sameItems [DecidableEq α] (first second : Dict κ α) : Bool :=
  (first.keys ++ second.keys).all fun key => decide (first.get? key = second.get? key)

theorem same_items_iff [DecidableEq α] (first second : Dict κ α) :
    sameItems first second = true ↔ Same first second := by
  simp only [sameItems, List.all_eq_true, List.mem_append, decide_eq_true_eq]
  constructor
  · intro agree key
    by_cases listed : key ∈ first.keys ∨ key ∈ second.keys
    · exact agree key listed
    · have missing := not_or.mp listed
      rw [(get_none_iff first key).mpr missing.1, (get_none_iff second key).mpr missing.2]
  · exact fun agree key _ => agree key

instance [DecidableEq α] (first second : Dict κ α) : Decidable (Same first second) :=
  decidable_of_iff (sameItems first second = true) (same_items_iff first second)

theorem Same.refl : Same dict dict := fun _ => rfl

omit [DecidableEq κ] in
theorem items_nodup : dict.items.Nodup := dict.distinct.of_map

theorem same_items_perm (first second : Dict κ α) (same : Same first second) :
    first.items.Perm second.items := by
  refine (List.perm_ext_iff_of_nodup (items_nodup first) (items_nodup second)).mpr ?_
  rintro ⟨key, value⟩
  rw [mem_items, mem_items, same key]

section Order

variable [LinearOrder κ]

def keyBefore (first second : κ × α) : Prop := first.1 ≤ second.1

instance : DecidableRel (keyBefore : κ × α → κ × α → Prop) := fun first second =>
  inferInstanceAs (Decidable (first.1 ≤ second.1))

instance : Std.Total (keyBefore : κ × α → κ × α → Prop) := ⟨fun first second => le_total first.1 second.1⟩

instance : IsTrans (κ × α) keyBefore := ⟨fun _ _ _ lower upper => le_trans lower upper⟩

def sorted (dict : Dict κ α) : Dict κ α :=
  ⟨dict.items.insertionSort keyBefore,
    ((List.perm_insertionSort _ dict.items).map Prod.fst).nodup_iff.mpr dict.distinct⟩

@[simp] theorem get_sorted (dict : Dict κ α) (key : κ) : dict.sorted.get? key = dict.get? key := by
  apply Option.ext
  intro value
  rw [← mem_items, ← mem_items]
  exact (List.perm_insertionSort _ dict.items).mem_iff

theorem sorted_eq_of_same (first second : Dict κ α) (same : Same first second) : first.sorted = second.sorted := by
  have perm : first.sorted.items.Perm second.sorted.items :=
    ((List.perm_insertionSort _ _).trans (same_items_perm first second same)).trans (List.perm_insertionSort _ _).symm
  have items : first.sorted.items = second.sorted.items := by
    refine List.Perm.eq_of_pairwise ?_ (List.pairwise_insertionSort _ _) (List.pairwise_insertionSort _ _) perm
    rintro ⟨key, value⟩ ⟨other, held⟩ listed also lower upper
    have agree : key = other := le_antisymm lower upper
    subst agree
    have found := (mem_items first.sorted key value).mp listed
    have again := (mem_items first.sorted key held).mp (perm.mem_iff.mpr also)
    rw [Option.some.inj (found.symm.trans again)]
  cases lower : first.sorted
  cases upper : second.sorted
  simp only [lower, upper] at items
  subst items
  rfl

end Order

end Dict

end Foundation
