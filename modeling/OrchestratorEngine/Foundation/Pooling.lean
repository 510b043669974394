import OrchestratorEngine.Foundation.Claims

set_option autoImplicit false

namespace Foundation

variable {κ γ : Type}

-- What several claims come to on one place: nothing, one claim as it is, or the
-- sum of shared claims of one class.
def Pooled (claims : List (Claim γ)) : Option (Claim γ) → Prop
  | none => claims = []
  | some total => claims = [total] ∨ claims ≠ [] ∧ total.mode = .shared ∧ total.units = unitsHeld claims ∧
      ∀ claim ∈ claims, claim.mode = .shared ∧ claim.compatibility = total.compatibility

variable [DecidableEq γ]

def joinAll : Option (Claim γ) → List (Claim γ) → Option (Option (Claim γ))
  | held, [] => some held
  | held, claim :: rest => (claim.join held).bind fun joined => joinAll (some joined) rest

theorem join_held_iff (claim held joined : Claim γ) : claim.join (some held) = some joined ↔
    claim.mode = .shared ∧ held.mode = .shared ∧ held.compatibility = claim.compatibility ∧
      joined = ⟨.shared, claim.units + held.units, claim.compatibility⟩ := by
  obtain ⟨mode, units, group⟩ := claim
  rw [Claim.join]
  by_cases apart : mode ≠ .shared ∨ held.mode ≠ mode ∨ held.compatibility ≠ group
  · rw [if_pos apart]
    simp only [reduceCtorEq, false_iff]
    rintro ⟨shared, same, group, _⟩
    subst shared
    simp [same, group] at apart
  · rw [if_neg apart, Option.some.injEq]
    simp only [ne_eq, not_or, not_not] at apart
    obtain ⟨shared, same, class_⟩ := apart
    subst shared
    simp [same, class_, eq_comm]

theorem join_all_held (held : Claim γ) (claims : List (Claim γ)) (value : Option (Claim γ)) :
    joinAll (some held) claims = some value ↔ claims = [] ∧ value = some held ∨ claims ≠ [] ∧ held.mode = .shared ∧
      (∀ claim ∈ claims, claim.mode = .shared ∧ claim.compatibility = held.compatibility) ∧
        value = some ⟨.shared, held.units + unitsHeld claims, held.compatibility⟩ := by
  induction claims generalizing held with
  | nil => simp [joinAll, eq_comm]
  | cons claim rest ih =>
      simp only [joinAll, Option.bind_eq_some_iff, join_held_iff, ih, ne_eq, reduceCtorEq, not_false_eq_true, false_and,
        true_and, false_or, List.forall_mem_cons, units_held_cons]
      constructor
      · rintro ⟨joined, ⟨mode, shared, group, rfl⟩, ⟨rfl, rfl⟩ | ⟨_, _, others, rfl⟩⟩
        · exact ⟨shared, ⟨⟨mode, group.symm⟩, by simp⟩, by simp [unitsHeld, group, Nat.add_comm]⟩
        · refine ⟨shared, ⟨⟨mode, group.symm⟩, fun other listed => ?_⟩, ?_⟩
          · exact ⟨(others other listed).1, (others other listed).2.trans group.symm⟩
          · simp only [group, Option.some.injEq, Claim.mk.injEq, true_and, and_true]
            omega
      · rintro ⟨shared, ⟨⟨mode, group⟩, others⟩, rfl⟩
        refine ⟨_, ⟨mode, shared, group.symm, rfl⟩, ?_⟩
        cases rest with
        | nil => exact .inl ⟨rfl, by simp [unitsHeld, group, Nat.add_comm]⟩
        | cons other later =>
            refine .inr ⟨List.cons_ne_nil _ _, rfl, fun claim' listed => ?_, ?_⟩
            · exact ⟨(others claim' listed).1, (others claim' listed).2.trans group.symm⟩
            · simp only [group, Option.some.injEq, Claim.mk.injEq, true_and, and_true]
              omega

theorem pooled_iff (claims : List (Claim γ)) (value : Option (Claim γ)) :
    Pooled claims value ↔ joinAll none claims = some value := by
  cases claims with
  | nil => cases value <;> simp [Pooled, joinAll]
  | cons claim rest =>
      simp only [joinAll, Claim.join, Option.bind_some, join_all_held]
      cases value with
      | none => simp [Pooled]
      | some total =>
          simp only [Pooled, List.cons.injEq, ne_eq, reduceCtorEq, not_false_eq_true, true_and, units_held_cons,
            List.forall_mem_cons, Option.some.injEq]
          constructor
          · rintro (⟨rfl, rfl⟩ | ⟨shared, units, ⟨mode, group⟩, others⟩)
            · exact .inl ⟨rfl, rfl⟩
            · obtain ⟨_, _, _⟩ := total
              cases shared
              cases units
              cases rest with
              | nil =>
                  refine .inl ⟨rfl, ?_⟩
                  obtain ⟨_, _, _⟩ := claim
                  cases mode
                  cases group
                  simp [unitsHeld]
              | cons other later =>
                  refine .inr ⟨List.cons_ne_nil _ _, mode, fun claim' listed => ?_, ?_⟩
                  · exact ⟨(others claim' listed).1, (others claim' listed).2.trans group.symm⟩
                  · simp [group]
          · rintro (⟨rfl, rfl⟩ | ⟨_, mode, others, rfl⟩)
            · exact .inl ⟨rfl, rfl⟩
            · exact .inr ⟨rfl, rfl, ⟨mode, rfl⟩, others⟩

variable [DecidableEq κ]

theorem take_all_iff (claim : Claim γ) (places : List κ) (distinct : places.Nodup) (start final : Allocation κ γ)
    (taken : takeAll claim places start = some final) (place : κ) :
    (place ∈ places → claim.join (start.get? place) = final.get? place) ∧
      (place ∉ places → final.get? place = start.get? place) := by
  refine ⟨fun listed => ?_, take_all_get claim places start final place taken⟩
  induction places generalizing start with
  | nil => simp at listed
  | cons head rest ih =>
      obtain ⟨fresh, once⟩ := List.nodup_cons.mp distinct
      obtain ⟨next, first, later⟩ := Option.bind_eq_some_iff.mp taken
      rcases List.mem_cons.mp listed with rfl | inRest
      · obtain ⟨joined, done, rfl⟩ := take_some claim start next place first
        rw [take_all_get claim rest _ final place later fresh, done, Dict.get_set, if_pos rfl]
      · rw [← take_get claim start next head place first (fun same => fresh (same ▸ inRest))]
        exact ih once next later inRest

theorem take_all_total (claim : Claim γ) (places : List κ) (distinct : places.Nodup) (start : Allocation κ γ)
    (joins : ∀ place ∈ places, (claim.join (start.get? place)).isSome = true) :
    ∃ final, takeAll claim places start = some final := by
  induction places generalizing start with
  | nil => exact ⟨start, rfl⟩
  | cons head rest ih =>
      obtain ⟨fresh, once⟩ := List.nodup_cons.mp distinct
      obtain ⟨joined, done⟩ := Option.isSome_iff_exists.mp (joins head List.mem_cons_self)
      obtain ⟨final, later⟩ := ih once (start.set head joined) fun place listed => by
        have different : place ≠ head := by
          rintro rfl
          exact fresh listed
        rw [Dict.get_set, if_neg different]
        exact joins place (List.mem_cons_of_mem _ listed)
      exact ⟨final, by simp [takeAll, take, done, later]⟩

end Foundation
