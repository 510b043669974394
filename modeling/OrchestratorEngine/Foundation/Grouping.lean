import Mathlib.Algebra.BigOperators.Group.List.Basic
import Mathlib.Data.List.Induction
import OrchestratorEngine.Foundation.Dict

set_option autoImplicit false

namespace Foundation

variable {κ α β : Type}

section Groups

variable [DecidableEq κ]

-- "grouped[key(item)].append(item)" over the items.
def groupBy (key : α → κ) (items : List α) : Dict κ (List α) :=
  items.foldl (fun grouped item => grouped.set (key item) ((grouped.get? (key item)).getD [] ++ [item])) Dict.empty

variable (key : α → κ)

theorem group_by_get (items : List α) (wanted : κ) : (groupBy key items).get? wanted =
    if items.filter (fun item => decide (key item = wanted)) = [] then none
    else some (items.filter fun item => decide (key item = wanted)) := by
  induction items using List.reverseRecOn with
  | nil => rfl
  | append_singleton items item ih =>
      unfold groupBy at ih ⊢
      rw [List.foldl_append, List.foldl_cons, List.foldl_nil, Dict.get_set, List.filter_append]
      by_cases here : wanted = key item
      · subst here
        rw [if_pos rfl, ih]
        split
        · rename_i none
          simp [none]
        · simp
      · have elsewhere : key item ≠ wanted := fun same => here same.symm
        rw [if_neg here, ih]
        simp [elsewhere]

theorem group_by_mem {key : α → κ} {items : List α} {wanted : κ} {group : List α}
    (listed : (wanted, group) ∈ (groupBy key items).items) :
    group = items.filter (fun item => decide (key item = wanted)) ∧ group ≠ [] := by
  have found := (Dict.mem_items _ _ _).mp listed
  rw [group_by_get] at found
  split at found
  · cases found
  · rename_i some
    cases found
    exact ⟨rfl, some⟩

theorem group_by_listed {items : List α} {item : α} (listed : item ∈ items) :
    (key item, items.filter fun other => decide (key other = key item)) ∈ (groupBy key items).items := by
  rw [Dict.mem_items, group_by_get, if_neg]
  intro none
  exact List.filter_eq_nil_iff.mp none item listed (decide_eq_true rfl)

theorem set_items_perm (key : κ) (group : List α) (item : α) (items : List (κ × List α))
    (found : Dict.getItem key items = some group) :
    ((Dict.setItems key (group ++ [item]) items).flatMap Prod.snd).Perm (items.flatMap Prod.snd ++ [item]) := by
  induction items with
  | nil => cases found
  | cons entry rest ih =>
      obtain ⟨old, held⟩ := entry
      by_cases here : old = key
      · subst here
        rw [Dict.getItem, if_pos rfl] at found
        cases found
        rw [Dict.setItems, if_pos rfl, List.flatMap_cons, List.flatMap_cons, List.append_assoc, List.append_assoc]
        exact List.perm_append_comm.append_left _
      · rw [Dict.getItem, if_neg (Ne.symm here)] at found
        rw [Dict.setItems, if_neg here, List.flatMap_cons, List.flatMap_cons, List.append_assoc]
        exact (ih found).append_left held

theorem group_by_perm (items : List α) : ((groupBy key items).items.flatMap Prod.snd).Perm items := by
  induction items using List.reverseRecOn with
  | nil => exact .nil
  | append_singleton items item ih =>
      unfold groupBy at ih ⊢
      rw [List.foldl_append, List.foldl_cons, List.foldl_nil]
      cases found : (groupBy key items).get? (key item) with
      | none =>
          unfold groupBy at found
          rw [Dict.set_fresh_items _ _ _ found, found, List.flatMap_append]
          exact ih.append_right _
      | some group =>
          unfold groupBy at found
          rw [found]
          exact (set_items_perm (key item) group item _ found).trans (ih.append_right _)

theorem grouped_measure {μ : Type} [AddCommMonoid μ] (key : α → κ) (items : List α) (measure : List α → μ)
    (nothing : measure [] = 0) (adds : ∀ first second, measure (first ++ second) = measure first + measure second)
    (alike : ∀ {first second : List α}, first.Perm second → measure first = measure second)
    {groups : List (κ × List α)} (listed : groups.Perm (groupBy key items).items) :
    measure items = (groups.map fun group => measure group.2).sum := by
  rw [(listed.map _).sum_eq, ← alike (group_by_perm key items)]
  generalize (groupBy key items).items = entries
  induction entries with
  | nil => exact nothing
  | cons entry rest ih => rw [List.flatMap_cons, adds, List.map_cons, List.sum_cons, ih]

end Groups

section Largest

variable [LT κ] [DecidableLT κ]

-- "max(items, key=key)": the first of the largest.
def maxBy (key : α → κ) : List α → Option α
  | [] => none
  | first :: rest => some (rest.foldl (fun best item => if key best < key item then item else best) first)

theorem max_by_mem {key : α → κ} {items : List α} {best : α} (found : maxBy key items = some best) : best ∈ items := by
  cases items with
  | nil => cases found
  | cons first rest =>
      cases found
      have kept : ∀ (items : List α) (start : α),
          items.foldl (fun best item => if key best < key item then item else best) start ∈ start :: items := by
        intro items
        induction items with
        | nil => exact fun start => List.mem_cons_self
        | cons item rest ih =>
            intro start
            rw [List.foldl_cons]
            rcases List.mem_cons.mp (ih (if key start < key item then item else start)) with same | later
            · rw [same]
              split
              · exact List.mem_cons_of_mem _ List.mem_cons_self
              · exact List.mem_cons_self
            · exact List.mem_cons_of_mem _ (List.mem_cons_of_mem _ later)
      exact kept rest first

theorem max_by_some (key : α → κ) {items : List α} (some : items ≠ []) : ∃ best, maxBy key items = .some best := by
  cases items with
  | nil => exact absurd rfl some
  | cons first rest => exact ⟨_, rfl⟩

end Largest

theorem count_grows {fewer more : α → Bool} {items : List α}
    (grows : ∀ item ∈ items, fewer item = true → more item = true)
    {item : α} (listed : item ∈ items) (fails : fewer item = false) (passes : more item = true) :
    items.countP fewer < items.countP more := by
  obtain ⟨before, after, rfl⟩ := List.append_of_mem listed
  have lower := List.countP_mono_left fun item member => grows item (List.mem_append_left _ member)
  have upper := List.countP_mono_left fun item member =>
    grows item (List.mem_append_right _ (List.mem_cons_of_mem _ member))
  rw [List.countP_append, List.countP_append, List.countP_cons_of_neg (by simp [fails]), List.countP_cons_of_pos passes]
  omega

end Foundation
