import Mathlib.Data.List.Perm.Basic
import Mathlib.Data.List.Sort
import OrchestratorEngine.Foundation.Outcome

set_option autoImplicit false

namespace Foundation

inductive Node (κ : Type) where
  | leaf
  | any (members : List κ)
  | all (members : List κ)

def Node.members {κ : Type} : Node κ → List κ
  | .leaf => []
  | .any members => members
  | .all members => members

variable {κ : Type}

inductive LeafOf (graph : κ → Option (Node κ)) (leaf : κ) : κ → Prop where
  | self (known : graph leaf = some .leaf) : LeafOf graph leaf leaf
  | nested (name member : κ) (node : Node κ) (known : graph name = some node)
      (listed : member ∈ node.members) (inside : LeafOf graph leaf member) : LeafOf graph leaf name

variable (graph : κ → Option (Node κ))

theorem leaf_of_known (leaf name : κ) (inside : LeafOf graph leaf name) :
    graph leaf = some .leaf := by
  induction inside with
  | self known => exact known
  | nested _ _ _ _ _ _ ih => exact ih

theorem leaf_of_unfold (leaf name : κ) (node : Node κ)
    (known : graph name = some node) :
    LeafOf graph leaf name ↔ node = .leaf ∧ leaf = name ∨ ∃ member ∈ node.members, LeafOf graph leaf member := by
  constructor
  · intro inside
    cases inside with
    | self isLeaf => exact .inl ⟨Option.some.inj (known.symm.trans isLeaf), rfl⟩
    | nested _ member other found listed inner =>
        have same : node = other := Option.some.inj (known.symm.trans found)
        subst same
        exact .inr ⟨member, listed, inner⟩
  · rintro (⟨rfl, rfl⟩ | ⟨member, listed, inner⟩)
    · exact .self known
    · exact .nested name member node known listed inner

variable [LinearOrder κ]

-- A bundle's members must be chosen without overlap; its choice is listed in
-- order because only the set of places matters.
def ChoosesWithin (graph : κ → Option (Node κ)) : Nat → κ → List κ → Prop
  | 0, _, _ => False
  | depth + 1, name, choice =>
      match graph name with
      | none => False
      | some .leaf => choice = [name]
      | some (.any members) => ∃ member ∈ members, ChoosesWithin graph depth member choice
      | some (.all members) => ∃ parts, List.Forall₂ (ChoosesWithin graph depth) members parts ∧
          parts.flatten.Nodup ∧ choice = parts.flatten.insertionSort (· ≤ ·)

def Chooses (graph : κ → Option (Node κ)) (name : κ) (choice : List κ) : Prop :=
  ∃ depth, ChoosesWithin graph depth name choice

theorem chooses_within_mono (depth : Nat) (name : κ) (choice : List κ)
    (chosen : ChoosesWithin graph depth name choice) : ChoosesWithin graph (depth + 1) name choice := by
  induction depth generalizing name choice with
  | zero => exact False.elim chosen
  | succ depth ih =>
      rw [ChoosesWithin] at chosen ⊢
      cases known : graph name with
      | none => simp [known] at chosen
      | some node =>
          cases node with
          | leaf => simpa [known] using chosen
          | any members =>
              simp only [known] at chosen ⊢
              obtain ⟨member, listed, inner⟩ := chosen
              exact ⟨member, listed, ih member choice inner⟩
          | all members =>
              simp only [known] at chosen ⊢
              obtain ⟨parts, inner, disjoint, same⟩ := chosen
              exact ⟨parts, inner.imp (fun member part found => ih member part found), disjoint, same⟩

theorem chooses_within_le (depth more : Nat) (bound : depth ≤ more)
    (name : κ) (choice : List κ) (chosen : ChoosesWithin graph depth name choice) :
    ChoosesWithin graph more name choice := by
  induction bound with
  | refl => exact chosen
  | step _ ih => exact chooses_within_mono graph _ name choice ih

theorem mem_flatten_forall₂ {α β : Type} (relation : α → List β → Prop) (names : List α) (parts : List (List β))
    (related : List.Forall₂ relation names parts) (item : β) (member : item ∈ parts.flatten) :
    ∃ name ∈ names, ∃ part, relation name part ∧ item ∈ part := by
  induction related with
  | nil => simp at member
  | cons head _ ih =>
      rw [List.flatten_cons, List.mem_append] at member
      rcases member with here | later
      · exact ⟨_, List.mem_cons_self, _, head, here⟩
      · obtain ⟨name, listed, found⟩ := ih later
        exact ⟨name, List.mem_cons_of_mem _ listed, found⟩

theorem chooses_within_leaf (depth : Nat) (name : κ) (choice : List κ)
    (chosen : ChoosesWithin graph depth name choice) (leaf : κ) (member : leaf ∈ choice) :
    LeafOf graph leaf name := by
  induction depth generalizing name choice with
  | zero => exact False.elim chosen
  | succ depth ih =>
      rw [ChoosesWithin] at chosen
      cases known : graph name with
      | none => simp [known] at chosen
      | some node =>
          cases node with
          | leaf =>
              simp only [known] at chosen
              rw [chosen, List.mem_singleton] at member
              subst member
              exact .self known
          | any members =>
              simp only [known] at chosen
              obtain ⟨inner, listed, found⟩ := chosen
              exact .nested name inner _ known listed (ih inner choice found member)
          | all members =>
              simp only [known] at chosen
              obtain ⟨parts, inner, _, rfl⟩ := chosen
              have flat : leaf ∈ parts.flatten := (List.perm_insertionSort _ _).mem_iff.mp member
              obtain ⟨selector, listed, part, found, inPart⟩ :=
                mem_flatten_forall₂ _ members parts inner leaf flat
              exact .nested name selector _ known listed (ih selector part found inPart)

theorem chooses_within_nodup (depth : Nat) (name : κ) (choice : List κ)
    (chosen : ChoosesWithin graph depth name choice) : choice.Nodup := by
  induction depth generalizing name choice with
  | zero => exact False.elim chosen
  | succ depth ih =>
      rw [ChoosesWithin] at chosen
      cases known : graph name with
      | none => simp [known] at chosen
      | some node =>
          cases node with
          | leaf =>
              simp only [known] at chosen
              rw [chosen]
              exact List.nodup_singleton name
          | any members =>
              simp only [known] at chosen
              obtain ⟨inner, _, found⟩ := chosen
              exact ih inner choice found
          | all members =>
              simp only [known] at chosen
              obtain ⟨parts, _, disjoint, rfl⟩ := chosen
              exact (List.perm_insertionSort _ _).nodup_iff.mpr disjoint

theorem chooses_leaf (name : κ) (choice : List κ)
    (chosen : Chooses graph name choice) (leaf : κ) (member : leaf ∈ choice) : LeafOf graph leaf name := by
  obtain ⟨depth, within⟩ := chosen
  exact chooses_within_leaf graph depth name choice within leaf member

theorem chooses_nodup (name : κ) (choice : List κ)
    (chosen : Chooses graph name choice) : choice.Nodup := by
  obtain ⟨depth, within⟩ := chosen
  exact chooses_within_nodup graph depth name choice within

-- A necessary condition for a choice that ignores overlap inside bundles: every
-- mandatory branch still has a place that passes the test.
def PossibleWithin (graph : κ → Option (Node κ)) (test : κ → Prop) : Nat → κ → Prop
  | 0, _ => False
  | depth + 1, name =>
      match graph name with
      | none => False
      | some .leaf => test name
      | some (.any members) => ∃ member ∈ members, PossibleWithin graph test depth member
      | some (.all members) => ∀ member ∈ members, PossibleWithin graph test depth member

theorem bundle_part (parts : List (List κ)) (part : List κ) (listed : part ∈ parts) (leaf : κ)
    (inside : leaf ∈ part) : leaf ∈ parts.flatten.insertionSort (· ≤ ·) :=
  (List.perm_insertionSort _ _).mem_iff.mpr (List.mem_flatten.mpr ⟨part, listed, inside⟩)

theorem possible_of_choice (test : κ → Prop) (depth : Nat) (name : κ)
    (choice : List κ) (chosen : ChoosesWithin graph depth name choice) (passes : ∀ leaf ∈ choice, test leaf) :
    PossibleWithin graph test depth name := by
  induction depth generalizing name choice with
  | zero => exact False.elim chosen
  | succ depth ih =>
      rw [ChoosesWithin] at chosen
      rw [PossibleWithin]
      cases known : graph name with
      | none => simp [known] at chosen
      | some node =>
          cases node with
          | leaf =>
              simp only [known] at chosen
              exact passes name (by simp [chosen])
          | any members =>
              simp only [known] at chosen
              obtain ⟨member, listed, found⟩ := chosen
              exact ⟨member, listed, ih member choice found passes⟩
          | all members =>
              simp only [known] at chosen
              obtain ⟨parts, inner, _, rfl⟩ := chosen
              intro member listed
              obtain ⟨part, present, found⟩ := forall₂_mem_left _ members parts inner member listed
              exact ih member part found (fun leaf inside => passes leaf (bundle_part parts part present leaf inside))

theorem forall₂_and_right_mem {α β : Type} {relation : α → β → Prop} {inputs : List α} {outputs : List β}
    (related : List.Forall₂ relation inputs outputs) :
    List.Forall₂ (fun input output => relation input output ∧ output ∈ outputs) inputs outputs := by
  have both : List.Forall₂ (fun output input => output ∈ outputs ∧ relation input output) outputs inputs :=
    (List.forall₂_and_left outputs inputs).mpr ⟨fun _ listed => listed, related.flip⟩
  exact both.flip.imp fun _ _ found => found.symm

theorem bundle_perm (relation : κ → List κ → Prop) (members visited : List κ) (perm : visited.Perm members)
    (parts : List (List κ)) (chosen : List.Forall₂ relation visited parts) (disjoint : parts.flatten.Nodup) :
    ∃ others, List.Forall₂ relation members others ∧ others.flatten.Nodup ∧
      parts.flatten.insertionSort (· ≤ ·) = others.flatten.insertionSort (· ≤ ·) := by
  obtain ⟨others, related, reordered⟩ := List.perm_comp_forall₂ perm.symm chosen
  have flat : others.flatten.Perm parts.flatten := reordered.flatten
  refine ⟨others, related, flat.nodup_iff.mpr disjoint, ?_⟩
  exact List.Perm.eq_of_pairwise' (List.pairwise_insertionSort _ _) (List.pairwise_insertionSort _ _)
    ((List.perm_insertionSort _ _).trans (flat.symm.trans (List.perm_insertionSort _ _).symm))

end Foundation
