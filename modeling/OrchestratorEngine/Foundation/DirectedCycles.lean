import Mathlib.Data.List.Cycle
import Mathlib.Data.List.Sort
import Mathlib.Data.List.Lex
import Mathlib.Logic.Relation

set_option autoImplicit false

namespace Foundation

variable {α : Type} {edge : α → α → Prop}

def SimpleCycle (edge : α → α → Prop) (cycle : List α) : Prop :=
  cycle ≠ [] ∧ cycle.Nodup ∧ (cycle : Cycle α).Chain edge

def Mutual (edge : α → α → Prop) (first second : α) : Prop :=
  Relation.ReflTransGen edge first second ∧ Relation.ReflTransGen edge second first

variable {first second : α}

theorem Mutual.symm (mutual_ : Mutual edge first second) : Mutual edge second first :=
  ⟨mutual_.2, mutual_.1⟩

theorem Mutual.trans {first second third : α} (lower : Mutual edge first second) (upper : Mutual edge second third) :
    Mutual edge first third :=
  ⟨lower.1.trans upper.1, upper.2.trans lower.2⟩

theorem SimpleCycle.rotated {cycle other : List α} (simple : SimpleCycle edge cycle) (rotation : cycle ~r other) :
    SimpleCycle edge other := by
  obtain ⟨some_, distinct, chain⟩ := simple
  refine ⟨?_, rotation.nodup_iff.mp distinct, ?_⟩
  · rintro rfl
    exact some_ (List.isRotated_nil_iff.mp rotation)
  · rwa [← Cycle.coe_eq_coe.mpr rotation]

theorem simple_cycle_cons (first : α) (rest : List α) (distinct : (first :: rest).Nodup)
    (path : (first :: rest).IsChain edge) (back : ∀ last ∈ (first :: rest).getLast?, edge last first) :
    SimpleCycle edge (first :: rest) := by
  refine ⟨List.cons_ne_nil _ _, distinct, ?_⟩
  rw [Cycle.chain_coe_cons, ← List.cons_append]
  refine List.isChain_append.mpr ⟨path, List.isChain_singleton _, ?_⟩
  intro last found next same
  cases same
  exact back last found

theorem chain_reaches (first : α) (rest : List α) (path : (first :: rest).IsChain edge) :
    ∀ node ∈ first :: rest, Relation.ReflTransGen edge first node := by
  induction rest generalizing first with
  | nil =>
      intro node listed
      rw [List.mem_singleton.mp listed]
  | cons second rest ih =>
      obtain ⟨step, onward⟩ := List.isChain_cons_cons.mp path
      intro node listed
      rcases List.mem_cons.mp listed with rfl | later
      · exact .refl
      · exact (ih second onward node later).head step

theorem chain_ends (path : List α) (chain : path.IsChain edge) (last : α) (ends : last ∈ path.getLast?) :
    ∀ node ∈ path, Relation.ReflTransGen edge node last := by
  induction path with
  | nil => nofun
  | cons first rest ih =>
      cases rest with
      | nil =>
          intro node listed
          cases ends
          rw [List.mem_singleton.mp listed]
          exact .refl
      | cons second rest =>
          obtain ⟨step, onward⟩ := List.isChain_cons_cons.mp chain
          rw [List.getLast?_cons_cons] at ends
          intro node listed
          rcases List.mem_cons.mp listed with rfl | later
          · exact (ih onward ends second List.mem_cons_self).head step
          · exact ih onward ends node later

theorem SimpleCycle.mutual_of {cycle : List α} (simple : SimpleCycle edge cycle) :
    ∀ first ∈ cycle, ∀ second ∈ cycle, Mutual edge first second := by
  obtain ⟨-, -, chain⟩ := simple
  cases cycle with
  | nil => nofun
  | cons start rest =>
      rw [Cycle.chain_coe_cons, ← List.cons_append] at chain
      have out := chain_reaches start (rest ++ [start]) chain
      have back := chain_ends ((start :: rest) ++ [start]) chain start (by rw [List.getLast?_append]; rfl)
      have round : ∀ node ∈ start :: rest, Mutual edge start node := fun node listed =>
        ⟨out node (List.mem_append_left _ listed), back node (List.mem_append_left _ listed)⟩
      exact fun first one second two => (round first one).symm.trans (round second two)

theorem SimpleCycle.trans_gen {cycle : List α} (simple : SimpleCycle edge cycle) :
    ∀ node ∈ cycle, Relation.TransGen edge node node := by
  obtain ⟨some_, distinct, chain⟩ := simple
  cases cycle with
  | nil => nofun
  | cons start rest =>
      intro node listed
      have mutual_ := SimpleCycle.mutual_of ⟨some_, distinct, chain⟩
      rw [Cycle.chain_coe_cons] at chain
      have loop : Relation.TransGen edge start start := by
        cases rest with
        | nil => exact .single (List.isChain_cons_cons.mp chain).1
        | cons second rest =>
            have step : edge start second := (List.isChain_cons_cons.mp chain).1
            exact .head' step (mutual_ second (List.mem_cons_of_mem _ List.mem_cons_self) start List.mem_cons_self).1
      exact .trans_right (mutual_ node listed start List.mem_cons_self).1
        (.trans_left loop (mutual_ start List.mem_cons_self node listed).1)

-- An order in which a walk finishes: every edge leads to what was finished
-- before, that is, to a node later in the list, except where it is excused.
def Finished (edge : α → α → Prop) (excused : α → Prop) : List α → Prop
  | [] => True
  | node :: rest => (∀ next, edge node next → next ∈ rest ∨ excused node) ∧ Finished edge excused rest

variable {nodes : List α}

theorem Finished.weaken {excused also : α → Prop} (weaker : ∀ node, excused node → also node)
    (finished : Finished edge excused nodes) : Finished edge also nodes := by
  induction nodes with
  | nil => trivial
  | cons node rest ih => exact ⟨fun next step => (finished.1 next step).imp_right (weaker node), ih finished.2⟩

variable {excused : α → Prop}

theorem Finished.onward (finished : Finished edge excused nodes)
    (listed : first ∈ nodes) (step : edge first second) (strict : ¬ excused first) : second ∈ nodes := by
  induction nodes with
  | nil => cases listed
  | cons node rest ih =>
      rcases List.mem_cons.mp listed with rfl | later
      · exact List.mem_cons_of_mem _ ((finished.1 second step).resolve_right strict)
      · exact List.mem_cons_of_mem _ (ih finished.2 later)

theorem Finished.descends [DecidableEq α] (distinct : nodes.Nodup)
    (finished : Finished edge excused nodes) (listed : first ∈ nodes) (step : edge first second)
    (strict : ¬ excused first) : nodes.idxOf first < nodes.idxOf second := by
  induction nodes with
  | nil => cases listed
  | cons node rest ih =>
      obtain ⟨fresh, distinct⟩ := List.nodup_cons.mp distinct
      rcases List.mem_cons.mp listed with rfl | later
      · have reached := (finished.1 second step).resolve_right strict
        have apart : first ≠ second := fun same => fresh (same ▸ reached)
        rw [List.idxOf_cons_self, List.idxOf_cons_ne _ apart]
        exact Nat.succ_pos _
      · have reached := finished.2.onward later step strict
        have firstApart : node ≠ first := fun same => fresh (same ▸ later)
        have secondApart : node ≠ second := fun same => fresh (same ▸ reached)
        rw [List.idxOf_cons_ne _ firstApart, List.idxOf_cons_ne _ secondApart]
        exact Nat.succ_lt_succ (ih distinct finished.2 later)

theorem Finished.excuses [DecidableEq α] (distinct : nodes.Nodup)
    (finished : Finished edge excused nodes) (whole : ∀ first second, edge first second → first ∈ nodes) {start : α}
    (loop : Relation.TransGen edge start start) : ∃ node, Mutual edge start node ∧ excused node := by
  by_contra none
  have descends : ∀ node, Relation.TransGen edge start node → Relation.ReflTransGen edge node start →
      nodes.idxOf start < nodes.idxOf node := by
    intro node reached
    induction reached with
    | single step =>
        intro _
        exact finished.descends distinct (whole _ _ step) step fun excuse => none ⟨start, ⟨.refl, .refl⟩, excuse⟩
    | @tail middle next before step ih =>
        intro back
        have returns : Relation.ReflTransGen edge middle start := back.head step
        have below := finished.descends distinct (whole _ _ step) step fun excuse =>
          none ⟨middle, ⟨before.to_reflTransGen, returns⟩, excuse⟩
        exact (ih returns).trans below
  exact absurd (descends start loop .refl) (lt_irrefl _)

end Foundation
