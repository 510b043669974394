import Mathlib.Data.Finset.Sort
import Mathlib.Data.Finset.Union
import OrchestratorEngine.Foundation.Selector

set_option autoImplicit false

namespace Foundation

variable {κ : Type} [LinearOrder κ]

-- The sets of places that a selector may stand for: the place itself, what one
-- of the members stands for, or what all members stand for without overlap.
inductive Selects (graph : κ → Option (Node κ)) : κ → Finset κ → Prop where
  | leaf (name : κ) (known : graph name = some .leaf) : Selects graph name {name}
  | any (name member : κ) (members : List κ) (places : Finset κ) (known : graph name = some (.any members))
      (listed : member ∈ members) (chosen : Selects graph member places) : Selects graph name places
  | all (name : κ) (members : List κ) (part : κ → Finset κ) (known : graph name = some (.all members))
      (chosen : ∀ member ∈ members, Selects graph member (part member))
      (disjoint : ∀ first ∈ members, ∀ second ∈ members, first ≠ second → Disjoint (part first) (part second)) :
      Selects graph name (members.toFinset.biUnion part)

theorem parts_function (relation : κ → List κ → Prop) (members : List κ) (parts : List (List κ))
    (distinct : members.Nodup) (chosen : List.Forall₂ relation members parts) :
    ∃ part : κ → List κ, parts = members.map part ∧ ∀ member ∈ members, relation member (part member) := by
  induction chosen with
  | nil => exact ⟨fun _ => [], rfl, by simp⟩
  | cons head rest ih =>
      rename_i member places members parts
      obtain ⟨fresh, others⟩ := List.nodup_cons.mp distinct
      obtain ⟨part, rfl, related⟩ := ih others
      have different : ∀ name ∈ members, name ≠ member := by
        rintro name listed rfl
        exact fresh listed
      refine ⟨fun name => if name = member then places else part name, ?_, ?_⟩
      · rw [List.map_cons, if_pos rfl, List.cons.injEq]
        refine ⟨rfl, List.map_congr_left fun name listed => ?_⟩
        rw [if_neg (different name listed)]
      · intro name listed
        rcases List.mem_cons.mp listed with rfl | later
        · simpa using head
        · simpa [different name later] using related name later

theorem flatten_distinct (members : List κ) (part : κ → List κ) (distinct : members.Nodup) :
    (members.map part).flatten.Nodup ↔ (∀ member ∈ members, (part member).Nodup) ∧
      ∀ first ∈ members, ∀ second ∈ members, first ≠ second → Disjoint (part first).toFinset
      (part second).toFinset := by
  rw [List.nodup_flatten, List.forall_mem_map, List.pairwise_map]
  refine and_congr_right fun _ => ?_
  have sets : ∀ first second : List κ, Disjoint first.toFinset second.toFinset ↔ List.Disjoint first second :=
    fun first second => by simp [Finset.disjoint_left, List.disjoint_left]
  simp only [sets]
  have symmetric : Std.Symm fun first second => List.Disjoint (part first) (part second) :=
    ⟨fun _ _ => List.Disjoint.symm⟩
  constructor
  · intro apart first listed second also different
    exact apart.forall listed also different
  · intro apart
    exact distinct.imp_of_mem fun listed also different => apart _ listed _ also different

theorem flatten_places (members : List κ) (part : κ → List κ) :
    (members.map part).flatten.toFinset = members.toFinset.biUnion fun member => (part member).toFinset := by
  ext place
  simp [List.mem_flatten]

theorem sorted_places (places : List κ) : (places.insertionSort (· ≤ ·)).toFinset = places.toFinset := by
  ext place
  simp

section Distinct

variable (graph : κ → Option (Node κ))
  (distinct : ∀ name members, graph name = some (.all members) → members.Nodup)

include distinct

theorem selects_of_chooses (depth : Nat) (name : κ) (choice : List κ) (chosen : ChoosesWithin graph depth name choice) :
    Selects graph name choice.toFinset := by
  induction depth generalizing name choice with
  | zero => exact False.elim chosen
  | succ depth ih =>
      rw [ChoosesWithin] at chosen
      cases known : graph name with
      | none => simp [known] at chosen
      | some node =>
          cases node with
          | leaf =>
              simp only [known] at chosen
              subst chosen
              exact .leaf name known
          | any members =>
              simp only [known] at chosen
              obtain ⟨member, listed, found⟩ := chosen
              exact .any name member members _ known listed (ih member choice found)
          | all members =>
              simp only [known] at chosen
              obtain ⟨parts, found, apart, rfl⟩ := chosen
              have once := distinct name members known
              obtain ⟨part, rfl, related⟩ := parts_function _ members parts once found
              rw [sorted_places, flatten_places]
              exact .all name members _ known (fun member listed => ih member _ (related member listed))
                ((flatten_distinct members part once).mp apart).2

omit distinct in
theorem common_depth (members : List κ) (choice : κ → List κ)
    (each : ∀ member ∈ members, Chooses graph member (choice member)) :
    ∃ depth, ∀ member ∈ members, ChoosesWithin graph depth member (choice member) := by
  induction members with
  | nil => exact ⟨0, by simp⟩
  | cons head rest ih =>
      obtain ⟨level, found⟩ := each head List.mem_cons_self
      obtain ⟨depth, others⟩ := ih fun member listed => each member (List.mem_cons_of_mem _ listed)
      refine ⟨max level depth, fun member listed => ?_⟩
      rcases List.mem_cons.mp listed with rfl | later
      · exact chooses_within_le graph level _ (le_max_left _ _) member _ found
      · exact chooses_within_le graph depth _ (le_max_right _ _) member _ (others member later)

theorem chooses_of_selects (name : κ) (places : Finset κ) (selected : Selects graph name places) :
    ∃ choice, Chooses graph name choice ∧ choice.toFinset = places := by
  induction selected with
  | leaf name known => exact ⟨[name], ⟨1, by simp [ChoosesWithin, known]⟩, by simp⟩
  | any name member members places known listed _ ih =>
      obtain ⟨choice, ⟨depth, found⟩, same⟩ := ih
      exact ⟨choice, ⟨depth + 1, by simpa only [ChoosesWithin, known] using ⟨member, listed, found⟩⟩, same⟩
  | all name members part known chosen disjoint ih =>
      have once := distinct name members known
      have every : ∀ member, ∃ choice, member ∈ members → Chooses graph member choice ∧
        choice.toFinset = part member := by
        intro member
        by_cases listed : member ∈ members
        · exact (ih member listed).imp fun _ found _ => found
        · exact ⟨[], fun wrong => absurd wrong listed⟩
      choose choice found using every
      obtain ⟨depth, deep⟩ := common_depth graph members choice fun member listed => (found member listed).1
      have apart : (members.map choice).flatten.Nodup := by
        refine (flatten_distinct members choice once).mpr ⟨fun member listed => ?_, ?_⟩
        · exact chooses_nodup graph member _ (found member listed).1
        · intro first listed second also different
          rw [(found first listed).2, (found second also).2]
          exact disjoint first listed second also different
      refine ⟨(members.map choice).flatten.insertionSort (· ≤ ·), ⟨depth + 1, ?_⟩, ?_⟩
      · simp only [ChoosesWithin, known]
        exact ⟨members.map choice, List.forall₂_map_right_iff.mpr (List.forall₂_same.mpr deep), apart, rfl⟩
      · rw [sorted_places, flatten_places]
        exact Finset.biUnion_congr rfl fun member listed => (found member (List.mem_toFinset.mp listed)).2

theorem selects_iff (name : κ) (places : Finset κ) :
    Selects graph name places ↔ ∃ choice, Chooses graph name choice ∧ choice.toFinset = places := by
  constructor
  · exact chooses_of_selects graph distinct name places
  · rintro ⟨choice, ⟨depth, found⟩, rfl⟩
    exact selects_of_chooses graph distinct depth name choice found

end Distinct

end Foundation
