import OrchestratorEngine.Foundation.Dict

set_option autoImplicit false

namespace Foundation.Dict

variable {κ α β : Type} {relation : κ → α → β → Prop}

def Alike (relation : κ → α → β → Prop) (first : Dict κ α) (second : Dict κ β) : Prop :=
  List.Forall₂ (fun left right => left.1 = right.1 ∧ relation left.1 left.2 right.2) first.items second.items

theorem Alike.empty : Alike relation (Dict.empty : Dict κ α) Dict.empty := .nil

variable [DecidableEq κ]

inductive Alike.Found (relation : α → β → Prop) : Option α → Option β → Prop where
  | neither : Alike.Found relation none none
  | both {left : α} {right : β} (related : relation left right) : Alike.Found relation (some left) (some right)

theorem Alike.get {first : Dict κ α} {second : Dict κ β} (alike : Alike relation first second) (key : κ) :
    Alike.Found (relation key) (first.get? key) (second.get? key) := by
  unfold Alike at alike
  unfold get?
  generalize first.items = items at alike
  generalize second.items = others at alike
  induction alike with
  | nil => exact .neither
  | @cons left right items others same rest ih =>
      obtain ⟨old, held⟩ := left
      obtain ⟨other, kept⟩ := right
      obtain ⟨rfl, related⟩ := same
      by_cases found : key = old
      · subst found
        simpa only [getItem, if_true] using Alike.Found.both related
      · simpa only [getItem, if_neg found] using ih

theorem Alike.set {first : Dict κ α} {second : Dict κ β} (alike : Alike relation first second) (key : κ) {left : α}
    {right : β} (related : relation key left right) : Alike relation (first.set key left) (second.set key right) := by
  unfold Alike at alike
  change List.Forall₂ _ (setItems key left first.items) (setItems key right second.items)
  generalize first.items = items at alike
  generalize second.items = others at alike
  induction alike with
  | nil => exact .cons ⟨rfl, related⟩ .nil
  | @cons item other items others same rest ih =>
      obtain ⟨old, held⟩ := item
      obtain ⟨also, kept⟩ := other
      obtain ⟨rfl, agree⟩ := same
      by_cases found : old = key
      · simpa only [setItems, if_pos found] using List.Forall₂.cons ⟨rfl, related⟩ rest
      · simpa only [setItems, if_neg found] using List.Forall₂.cons ⟨rfl, agree⟩ ih

end Foundation.Dict
