import Mathlib.Algebra.BigOperators.Group.List.Basic
import Mathlib.Algebra.Order.BigOperators.Group.List
import Mathlib.Algebra.Order.Group.Nat
import Mathlib.Data.List.Forall2
import Mathlib.Data.List.Perm.Subperm
import Mathlib.Algebra.GroupWithZero.Nat
import OrchestratorEngine.Foundation.Dict

set_option autoImplicit false

namespace Foundation

inductive Mode where
  | exclusive
  | shared
deriving DecidableEq, Repr

-- A claim takes some units of one place of bounded capacity. An exclusive
-- claim tolerates no neighbour; shared claims tolerate their own class.
structure Claim (γ : Type) where
  mode : Mode
  units : Nat
  compatibility : Option γ
deriving DecidableEq, Repr

variable {κ γ : Type}

def unitsHeld (claims : List (Claim γ)) : Nat := (claims.map Claim.units).sum

def Coexist (capacity : Nat) (claims : List (Claim γ)) : Prop :=
  (∃ claim, claims = [claim] ∧ claim.mode = .exclusive ∧ claim.units ≤ capacity) ∨
    (∃ group, ∀ claim ∈ claims, claim.mode = .shared ∧ claim.compatibility = group) ∧ unitsHeld claims ≤ capacity

def Admits (capacity : Nat) (claim : Claim γ) (held : List (Claim γ)) : Prop :=
  claim.units ≤ capacity ∧ (held = [] ∨ claim.mode = .shared ∧
    (∀ other ∈ held, other.mode = .shared ∧ other.compatibility = claim.compatibility) ∧
    claim.units + unitsHeld held ≤ capacity)

instance [DecidableEq γ] (capacity : Nat) (claim : Claim γ) (held : List (Claim γ)) :
    Decidable (Admits capacity claim held) := by
  unfold Admits
  infer_instance

@[simp] theorem units_held_cons (claim : Claim γ) (held : List (Claim γ)) :
    unitsHeld (claim :: held) = claim.units + unitsHeld held := by
  simp [unitsHeld]

theorem units_held_perm (first second : List (Claim γ)) (perm : first.Perm second) :
    unitsHeld first = unitsHeld second :=
  (perm.map Claim.units).sum_eq

variable (fewer more : List (Claim γ))

theorem units_held_sublist (sublist : fewer.Sublist more) :
    unitsHeld fewer ≤ unitsHeld more :=
  (sublist.map Claim.units).sum_le_sum (fun units _ => Nat.zero_le units)

theorem coexist_nil (capacity : Nat) : Coexist capacity ([] : List (Claim γ)) :=
  .inr ⟨⟨none, by simp⟩, by simp [unitsHeld]⟩

theorem coexist_perm (capacity : Nat) (first second : List (Claim γ)) (perm : first.Perm second)
    (together : Coexist capacity first) : Coexist capacity second := by
  rcases together with ⟨claim, rfl, exclusive, bounded⟩ | ⟨⟨group, shared⟩, bounded⟩
  · exact .inl ⟨claim, List.singleton_perm.mp perm |>.symm, exclusive, bounded⟩
  · refine .inr ⟨⟨group, fun claim member => shared claim (perm.mem_iff.mpr member)⟩, ?_⟩
    rwa [← units_held_perm first second perm]

theorem coexist_sublist (capacity : Nat) (fewer more : List (Claim γ)) (sublist : fewer.Sublist more)
    (together : Coexist capacity more) : Coexist capacity fewer := by
  rcases together with ⟨claim, rfl, exclusive, bounded⟩ | ⟨⟨group, shared⟩, bounded⟩
  · rcases List.sublist_singleton.mp sublist with rfl | rfl
    · exact coexist_nil capacity
    · exact .inl ⟨claim, rfl, exclusive, bounded⟩
  · exact .inr ⟨⟨group, fun claim member => shared claim (sublist.subset member)⟩,
      Nat.le_trans (units_held_sublist fewer more sublist) bounded⟩

theorem coexist_cons (capacity : Nat) (claim : Claim γ) (held : List (Claim γ)) :
    Coexist capacity (claim :: held) ↔ Admits capacity claim held ∧ Coexist capacity held := by
  constructor
  · intro together
    refine ⟨?_, coexist_sublist capacity held (claim :: held) (List.sublist_cons_self claim held) together⟩
    rcases together with ⟨only, alone, exclusive, bounded⟩ | ⟨⟨group, shared⟩, bounded⟩
    · obtain ⟨rfl, rfl⟩ := List.cons_eq_cons.mp alone
      exact ⟨bounded, .inl rfl⟩
    · rw [units_held_cons] at bounded
      obtain ⟨mode, class_⟩ := shared claim (by simp)
      refine ⟨by omega, .inr ⟨mode, fun other member => ?_, bounded⟩⟩
      obtain ⟨otherMode, otherClass⟩ := shared other (by simp [member])
      exact ⟨otherMode, otherClass.trans class_.symm⟩
  · rintro ⟨⟨small, alone | ⟨mode, classes, bounded⟩⟩, together⟩
    · subst alone
      cases mode : claim.mode with
      | exclusive => exact .inl ⟨claim, rfl, mode, small⟩
      | shared => exact .inr ⟨⟨claim.compatibility, by simp [mode]⟩, by simpa [unitsHeld] using small⟩
    · refine .inr ⟨⟨claim.compatibility, fun other member => ?_⟩, by simpa using bounded⟩
      rcases List.mem_cons.mp member with rfl | later
      · exact ⟨mode, rfl⟩
      · exact classes other later

theorem admits_subperm (capacity : Nat) (claim : Claim γ) (fewer more : List (Claim γ))
    (subperm : fewer.Subperm more) (admitted : Admits capacity claim more) : Admits capacity claim fewer := by
  obtain ⟨listed, perm, sublist⟩ := subperm
  obtain ⟨small, alone | ⟨mode, classes, bounded⟩⟩ := admitted
  · subst alone
    rw [List.sublist_nil.mp sublist] at perm
    exact ⟨small, .inl (List.nil_perm.mp perm)⟩
  · refine ⟨small, .inr ⟨mode, fun other member => ?_, ?_⟩⟩
    · exact classes other (sublist.subset (perm.mem_iff.mpr member))
    · rw [← units_held_perm listed fewer perm]
      have fewerUnits := units_held_sublist listed more sublist
      omega

structure Claim.Smaller (part whole : Claim γ) : Prop where
  mode : part.mode = whole.mode
  compatibility : part.compatibility = whole.compatibility
  units : part.units ≤ whole.units

theorem admits_smaller (capacity : Nat) (part whole : Claim γ) (held : List (Claim γ))
    (smaller : part.Smaller whole) (admitted : Admits capacity whole held) : Admits capacity part held := by
  obtain ⟨mode, compatibility, units⟩ := smaller
  obtain ⟨small, alone | ⟨shared, classes, bounded⟩⟩ := admitted
  · exact ⟨Nat.le_trans units small, .inl alone⟩
  · exact ⟨Nat.le_trans units small, .inr ⟨mode.trans shared, by rwa [compatibility], by omega⟩⟩

abbrev Allocation (κ γ : Type) := Dict κ (Claim γ)

variable [DecidableEq κ]

def claimsOn (place : κ) (allocations : List (Allocation κ γ)) : List (Claim γ) :=
  allocations.filterMap (fun allocation => allocation.get? place)

def Fits (capacity : κ → Nat) (allocations : List (Allocation κ γ)) : Prop :=
  ∀ place, Coexist (capacity place) (claimsOn place allocations)

def Accepts (capacity : κ → Nat) (allocation : Allocation κ γ) (others : List (Allocation κ γ)) : Prop :=
  ∀ place claim, allocation.get? place = some claim → Admits (capacity place) claim (claimsOn place others)

variable (place : κ)

variable (allocation : Allocation κ γ)

theorem claims_on_cons (others : List (Allocation κ γ)) :
    claimsOn place (allocation :: others) = (allocation.get? place).toList ++ claimsOn place others := by
  cases found : allocation.get? place <;> simp [claimsOn, found]

theorem claims_on_append (first second : List (Allocation κ γ)) :
    claimsOn place (first ++ second) = claimsOn place first ++ claimsOn place second := by
  simp [claimsOn]

theorem claims_on_perm (first second : List (Allocation κ γ)) (perm : first.Perm second) :
    (claimsOn place first).Perm (claimsOn place second) :=
  perm.filterMap _

theorem claims_on_subperm (fewer more : List (Allocation κ γ)) (subperm : fewer.Subperm more) :
    (claimsOn place fewer).Subperm (claimsOn place more) := by
  obtain ⟨listed, perm, sublist⟩ := subperm
  exact ⟨claimsOn place listed, claims_on_perm place listed fewer perm, sublist.filterMap _⟩

variable (capacity : κ → Nat)

theorem fits_nil : Fits capacity ([] : List (Allocation κ γ)) :=
  fun place => coexist_nil (capacity place)

theorem fits_cons (allocation : Allocation κ γ) (others : List (Allocation κ γ)) :
    Fits capacity (allocation :: others) ↔ Accepts capacity allocation others ∧ Fits capacity others := by
  constructor
  · intro fits
    refine ⟨fun place claim found => ?_, fun place => ?_⟩
    · have together := fits place
      rw [claims_on_cons, found] at together
      exact ((coexist_cons _ claim _).mp together).1
    · exact coexist_sublist _ _ _ (by rw [claims_on_cons]; exact List.sublist_append_right _ _) (fits place)
  · rintro ⟨accepts, fits⟩ place
    rw [claims_on_cons]
    cases found : allocation.get? place with
    | none => exact fits place
    | some claim => exact (coexist_cons _ claim _).mpr ⟨accepts place claim found, fits place⟩

theorem fits_perm (first second : List (Allocation κ γ)) (perm : first.Perm second)
    (fits : Fits capacity first) : Fits capacity second :=
  fun place => coexist_perm _ _ _ (claims_on_perm place first second perm) (fits place)

theorem fits_sublist (fewer more : List (Allocation κ γ)) (sublist : fewer.Sublist more)
    (fits : Fits capacity more) : Fits capacity fewer :=
  fun place => coexist_sublist _ _ _ (sublist.filterMap _) (fits place)

theorem accepts_subperm (allocation : Allocation κ γ) (fewer more : List (Allocation κ γ))
    (subperm : fewer.Subperm more) (accepts : Accepts capacity allocation more) :
    Accepts capacity allocation fewer :=
  fun place claim found =>
    admits_subperm _ claim _ _ (claims_on_subperm place fewer more subperm) (accepts place claim found)

-- One allocation lies within another when each of its claims is a part of
-- the other's claim on the same place.
def Within (part whole : Allocation κ γ) : Prop :=
  ∀ place claim, part.get? place = some claim → ∃ larger, whole.get? place = some larger ∧ claim.Smaller larger

theorem Within.refl : Within allocation allocation :=
  fun _ claim found => ⟨claim, found, rfl, rfl, Nat.le_refl _⟩

theorem Within.trans {first second third : Allocation κ γ} (lower : Within first second)
    (upper : Within second third) : Within first third := by
  intro place claim found
  obtain ⟨middle, foundMiddle, smaller⟩ := lower place claim found
  obtain ⟨larger, foundLarger, bigger⟩ := upper place middle foundMiddle
  exact ⟨larger, foundLarger, smaller.mode.trans bigger.mode,
    smaller.compatibility.trans bigger.compatibility, Nat.le_trans smaller.units bigger.units⟩

theorem accepts_within (part whole : Allocation κ γ) (others : List (Allocation κ γ))
    (within : Within part whole) (accepts : Accepts capacity whole others) : Accepts capacity part others := by
  intro place claim found
  obtain ⟨larger, foundLarger, smaller⟩ := within place claim found
  exact admits_smaller _ claim larger _ smaller (accepts place larger foundLarger)

theorem units_held_smaller (smaller : List.SublistForall₂ Claim.Smaller fewer more) :
    unitsHeld fewer ≤ unitsHeld more := by
  induction smaller with
  | nil => exact Nat.zero_le _
  | cons head _ ih =>
      rw [units_held_cons, units_held_cons]
      exact Nat.add_le_add head.units ih
  | cons_right _ ih =>
      rw [units_held_cons]
      exact Nat.le_trans ih (Nat.le_add_left _ _)

theorem smaller_mem (smaller : List.SublistForall₂ Claim.Smaller fewer more)
    (claim : Claim γ) (listed : claim ∈ fewer) : ∃ larger ∈ more, claim.Smaller larger := by
  induction smaller with
  | nil => simp at listed
  | cons head _ ih =>
      rcases List.mem_cons.mp listed with rfl | later
      · exact ⟨_, List.mem_cons_self, head⟩
      · obtain ⟨larger, present, found⟩ := ih later
        exact ⟨larger, List.mem_cons_of_mem _ present, found⟩
  | cons_right _ ih =>
      obtain ⟨larger, present, found⟩ := ih listed
      exact ⟨larger, List.mem_cons_of_mem _ present, found⟩

theorem coexist_smaller (capacity : Nat) (fewer more : List (Claim γ))
    (smaller : List.SublistForall₂ Claim.Smaller fewer more) (together : Coexist capacity more) :
    Coexist capacity fewer := by
  rcases together with ⟨claim, rfl, exclusive, bounded⟩ | ⟨⟨group, shared⟩, bounded⟩
  · cases smaller with
    | nil => exact coexist_nil capacity
    | cons head rest =>
        cases rest with
        | nil => exact .inl ⟨_, rfl, head.mode.trans exclusive, Nat.le_trans head.units bounded⟩
    | cons_right rest =>
        cases rest with
        | nil => exact coexist_nil capacity
  · refine .inr ⟨⟨group, fun claim listed => ?_⟩, Nat.le_trans (units_held_smaller fewer more smaller) bounded⟩
    obtain ⟨larger, present, found⟩ := smaller_mem fewer more smaller claim listed
    obtain ⟨mode, class_⟩ := shared larger present
    exact ⟨found.mode.trans mode, found.compatibility.trans class_⟩

theorem claims_on_within (parts wholes : List (Allocation κ γ))
    (within : List.Forall₂ Within parts wholes) :
    List.SublistForall₂ Claim.Smaller (claimsOn place parts) (claimsOn place wholes) := by
  induction within with
  | nil => exact .nil
  | cons head _ ih =>
      rename_i part whole parts wholes _
      rw [claims_on_cons, claims_on_cons]
      cases found : part.get? place with
      | none =>
          cases whole.get? place with
          | none => exact ih
          | some _ => exact .cons_right ih
      | some claim =>
          obtain ⟨larger, held, smaller⟩ := head place claim found
          rw [held]
          exact .cons smaller ih

theorem fits_within (parts wholes : List (Allocation κ γ))
    (within : List.Forall₂ Within parts wholes) (fits : Fits capacity wholes) : Fits capacity parts :=
  fun place => coexist_smaller _ _ _ (claims_on_within place parts wholes within) (fits place)

theorem without_within (released : List κ) :
    Within (allocation.without released) allocation := by
  intro place claim found
  rw [Dict.get_without] at found
  split at found
  · cases found
  · exact ⟨claim, found, rfl, rfl, Nat.le_refl _⟩

def Claim.join [DecidableEq γ] (claim : Claim γ) : Option (Claim γ) → Option (Claim γ)
  | none => some claim
  | some held =>
      if claim.mode ≠ .shared ∨ held.mode ≠ claim.mode ∨ held.compatibility ≠ claim.compatibility then none
      else some { claim with units := claim.units + held.units }

def take [DecidableEq γ] (claim : Claim γ) (allocation : Allocation κ γ) (place : κ) : Option (Allocation κ γ) :=
  (claim.join (allocation.get? place)).map (allocation.set place)

def takeAll [DecidableEq γ] (claim : Claim γ) : List κ → Allocation κ γ → Option (Allocation κ γ)
  | [], allocation => some allocation
  | place :: rest, allocation => (take claim allocation place).bind (takeAll claim rest)

theorem join_smaller [DecidableEq γ] (claim joined : Claim γ) (held : Option (Claim γ))
    (done : claim.join held = some joined) :
    claim.Smaller joined ∧ ∀ old, held = some old → old.Smaller joined := by
  cases held with
  | none =>
      cases done
      exact ⟨⟨rfl, rfl, Nat.le_refl _⟩, by simp⟩
  | some old =>
      rw [Claim.join] at done
      by_cases apart : claim.mode ≠ .shared ∨ old.mode ≠ claim.mode ∨ old.compatibility ≠ claim.compatibility
      · simp [apart] at done
      · rw [if_neg apart, Option.some.injEq] at done
        subst done
        simp only [ne_eq, not_or, not_not] at apart
        refine ⟨⟨rfl, rfl, Nat.le_add_right _ _⟩, fun other same => ?_⟩
        cases same
        exact ⟨apart.2.1, apart.2.2, Nat.le_add_left _ _⟩

theorem take_some [DecidableEq γ] (claim : Claim γ) (start next : Allocation κ γ) (place : κ)
    (taken : take claim start place = some next) :
    ∃ joined, claim.join (start.get? place) = some joined ∧ next = start.set place joined := by
  obtain ⟨joined, done, same⟩ := Option.map_eq_some_iff.mp taken
  exact ⟨joined, done, same.symm⟩

theorem take_get [DecidableEq γ] (claim : Claim γ) (start next : Allocation κ γ) (place other : κ)
    (taken : take claim start place = some next) (different : other ≠ place) :
    next.get? other = start.get? other := by
  obtain ⟨joined, _, rfl⟩ := take_some claim start next place taken
  rw [Dict.get_set, if_neg different]

theorem take_within [DecidableEq γ] (claim : Claim γ) (start next : Allocation κ γ) (place : κ)
    (taken : take claim start place = some next) : Within start next := by
  intro other held found
  by_cases same : other = place
  · subst same
    obtain ⟨joined, done, rfl⟩ := take_some claim start next other taken
    exact ⟨joined, by rw [Dict.get_set, if_pos rfl], (join_smaller claim joined _ done).2 held found⟩
  · exact ⟨held, (take_get claim start next place other taken same).trans found, rfl, rfl, Nat.le_refl _⟩

theorem take_all_get [DecidableEq γ] (claim : Claim γ) (places : List κ) (start final : Allocation κ γ) (other : κ)
    (taken : takeAll claim places start = some final) (absent : other ∉ places) :
    final.get? other = start.get? other := by
  induction places generalizing start with
  | nil =>
      cases taken
      rfl
  | cons place rest ih =>
      obtain ⟨next, first, later⟩ := Option.bind_eq_some_iff.mp taken
      obtain ⟨different, elsewhere⟩ := not_or.mp (mt List.mem_cons.mpr absent)
      rw [ih next later elsewhere, take_get claim start next place other first different]

theorem take_all_within [DecidableEq γ] (claim : Claim γ) (places : List κ) (start final : Allocation κ γ)
    (taken : takeAll claim places start = some final) : Within start final := by
  induction places generalizing start with
  | nil =>
      cases taken
      exact Within.refl _
  | cons place rest ih =>
      obtain ⟨next, first, later⟩ := Option.bind_eq_some_iff.mp taken
      exact (take_within claim start next place first).trans (ih next later)

theorem take_all_held [DecidableEq γ] (claim : Claim γ) (places : List κ) (start final : Allocation κ γ)
    (taken : takeAll claim places start = some final) (place : κ) (listed : place ∈ places) :
    ∃ held, final.get? place = some held ∧ claim.Smaller held := by
  induction places generalizing start with
  | nil => simp at listed
  | cons head rest ih =>
      obtain ⟨next, first, later⟩ := Option.bind_eq_some_iff.mp taken
      rcases List.mem_cons.mp listed with rfl | inRest
      · obtain ⟨joined, done, rfl⟩ := take_some claim start next place first
        obtain ⟨larger, kept, grown⟩ := take_all_within claim rest _ final later place joined
          (by rw [Dict.get_set, if_pos rfl])
        have smaller := (join_smaller claim joined _ done).1
        exact ⟨larger, kept, smaller.mode.trans grown.mode,
          smaller.compatibility.trans grown.compatibility, Nat.le_trans smaller.units grown.units⟩
      · exact ih next later inRest

theorem fits_capacity (capacity changed : κ → Nat) (allocations : List (Allocation κ γ))
    (same : ∀ place allocation claim, allocation ∈ allocations → allocation.get? place = some claim →
      changed place = capacity place) (fits : Fits capacity allocations) : Fits changed allocations := by
  intro place
  cases held : claimsOn place allocations with
  | nil => exact coexist_nil _
  | cons claim rest =>
      have member : claim ∈ claimsOn place allocations := by simp [held]
      obtain ⟨allocation, listed, found⟩ := List.mem_filterMap.mp member
      rw [same place allocation claim listed found, ← held]
      exact fits place

end Foundation
