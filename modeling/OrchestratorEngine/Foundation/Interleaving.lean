import Mathlib.Logic.Function.Basic

set_option autoImplicit false

namespace Foundation

variable {ι σ : Type}

def follow (step : ι → σ → Option σ) : List ι → σ → Option σ
  | [], state => some state
  | label :: rest, state => (step label state).bind (follow step rest)

def Meets (step : ι → σ → Option σ) (condition : ι → σ → Prop) : List ι → σ → Prop
  | [], _ => True
  | label :: rest, state => condition label state ∧
      match step label state with
      | none => True
      | some next => Meets step condition rest next

instance decidableMeets (step : ι → σ → Option σ) (condition : ι → σ → Prop)
    [∀ label state, Decidable (condition label state)] :
    ∀ (schedule : List ι) (state : σ), Decidable (Meets step condition schedule state)
  | [], _ => isTrue trivial
  | label :: rest, state =>
      match taken : step label state with
      | none => decidable_of_iff (condition label state) (by simp [Meets, taken])
      | some next =>
          have := decidableMeets step condition rest next
          decidable_of_iff (condition label state ∧ Meets step condition rest next) (by simp [Meets, taken])

theorem follow_append (step : ι → σ → Option σ) (front back : List ι) (state : σ) :
    follow step (front ++ back) state = (follow step front state).bind (follow step back) := by
  induction front generalizing state with
  | nil => rfl
  | cons label rest ih =>
      rw [List.cons_append, follow, follow]
      cases step label state with
      | none => rfl
      | some next => exact ih next

variable {step : ι → σ → Option σ} {condition : ι → σ → Prop}

theorem Meets.cons {label : ι} {rest : List ι} {state next : σ}
    (fine : condition label state) (taken : step label state = some next) (later : Meets step condition rest next) :
    Meets step condition (label :: rest) state := by
  refine ⟨fine, ?_⟩
  rw [taken]
  exact later

theorem Meets.append_inv (front back : List ι) (start middle : σ)
    (met : Meets step condition (front ++ back) start) (reached : follow step front start = some middle) :
    Meets step condition front start ∧ Meets step condition back middle := by
  induction front generalizing start with
  | nil =>
      cases reached
      exact ⟨trivial, met⟩
  | cons label rest ih =>
      obtain ⟨fine, later⟩ := met
      obtain ⟨next, taken, onward⟩ := Option.bind_eq_some_iff.mp reached
      rw [taken] at later
      obtain ⟨early, late⟩ := ih next later onward
      refine ⟨⟨fine, ?_⟩, late⟩
      rw [taken]
      exact early

theorem meets_of_forall (step : ι → σ → Option σ) (condition : ι → σ → Prop)
    (always : ∀ label state, condition label state)
    (schedule : List ι) (state : σ) : Meets step condition schedule state := by
  induction schedule generalizing state with
  | nil => trivial
  | cons label rest ih =>
      refine ⟨always label state, ?_⟩
      cases step label state with
      | none => trivial
      | some next => exact ih next

theorem Meets.listed (property : ι → Prop) (schedule : List ι)
    (state : σ) (met : Meets step condition schedule state) (every : ∀ label ∈ schedule, property label) :
    Meets step (fun label state => property label ∧ condition label state) schedule state := by
  induction schedule generalizing state with
  | nil => trivial
  | cons label rest ih =>
      obtain ⟨fine, later⟩ := met
      refine ⟨⟨every label List.mem_cons_self, fine⟩, ?_⟩
      cases taken : step label state with
      | none => trivial
      | some next =>
          rw [taken] at later
          exact ih next later fun other listed => every other (List.mem_cons_of_mem _ listed)

theorem follow_invariant (invariant : σ → Prop)
    (kept : ∀ label state next, invariant state → condition label state → step label state = some next →
      invariant next)
    (schedule : List ι) (start final : σ) (initial : invariant start) (met : Meets step condition schedule start)
    (reached : follow step schedule start = some final) : invariant final := by
  induction schedule generalizing start with
  | nil =>
      cases reached
      exact initial
  | cons label rest ih =>
      obtain ⟨fine, later⟩ := met
      obtain ⟨next, taken, onward⟩ := Option.bind_eq_some_iff.mp reached
      rw [taken] at later
      exact ih next (kept label start next initial fine taken) later onward

theorem follow_kept (invariant : σ → Prop)
    (kept : ∀ label state next, invariant state → step label state = some next → invariant next)
    (schedule : List ι) (start final : σ) (initial : invariant start)
    (reached : follow step schedule start = some final) : invariant final := by
  have met : Meets step (fun _ _ => True) schedule start := meets_of_forall _ _ (fun _ _ => trivial) schedule start
  exact follow_invariant invariant (fun label state next held _ => kept label state next held) schedule
    start final initial
    met reached

theorem Meets.guided {condition goal : ι → σ → Prop} (invariant : σ → Prop)
    (kept : ∀ label state next, invariant state → condition label state → step label state = some next →
      invariant next)
    (follows : ∀ label state, invariant state → condition label state → goal label state)
    (schedule : List ι) (start : σ) (initial : invariant start) (met : Meets step condition schedule start) :
    Meets step goal schedule start := by
  induction schedule generalizing start with
  | nil => trivial
  | cons label rest ih =>
      obtain ⟨fine, later⟩ := met
      refine ⟨follows label start initial fine, ?_⟩
      cases taken : step label start with
      | none => trivial
      | some next =>
          rw [taken] at later
          exact ih next (kept label start next initial fine taken) later

end Foundation
