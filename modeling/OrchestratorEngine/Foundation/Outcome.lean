import Mathlib.Data.List.Forall2

set_option autoImplicit false

namespace Foundation

variable {ε α β : Type}

@[simp] theorem bind_ok (value : α) (next : α → Except ε β) : (Except.ok value >>= next) = next value := rfl

@[simp] theorem bind_error (error : ε) (next : α → Except ε β) :
    ((Except.error error : Except ε α) >>= next) = .error error := rfl

@[simp] theorem pure_ok (value : α) : (pure value : Except ε α) = .ok value := rfl

theorem bind_ok_iff (first : Except ε α) (next : α → Except ε β) (result : β) :
    (first >>= next) = .ok result ↔ ∃ value, first = .ok value ∧ next value = .ok result := by
  cases first with
  | error error => simp
  | ok value => simp

-- A guard that fails when something is wrong, as in "if bad: raise error".
def refuse (bad : Prop) [Decidable bad] (error : ε) : Except ε Unit := if bad then .error error else .ok ()

@[simp] theorem refuse_ok_iff (bad : Prop) [Decidable bad] (error : ε) (done : Unit) :
    refuse bad error = .ok done ↔ ¬ bad := by
  by_cases wrong : bad <;> simp [refuse, wrong]

theorem ok_of_check (result : Except ε α) (good : α → Bool)
    (evaluated : (match result with
      | .ok value => good value
      | .error _ => false) = true) : ∃ value, result = .ok value ∧ good value = true := by
  cases result with
  | error error => cases evaluated
  | ok value => exact ⟨value, rfl, evaluated⟩

variable (step : α → Except ε β)

variable (relation : α → β → Prop)

theorem mapM_ok (inputs : List α)
    (total : ∀ input ∈ inputs, ∃ output, step input = .ok output ∧ relation input output) :
    ∃ outputs, inputs.mapM step = .ok outputs ∧ List.Forall₂ relation inputs outputs := by
  induction inputs with
  | nil => exact ⟨[], rfl, .nil⟩
  | cons input tail ih =>
      obtain ⟨output, done, related⟩ := total input List.mem_cons_self
      obtain ⟨outputs, rest, relatedRest⟩ := ih (fun later member => total later (List.mem_cons_of_mem _ member))
      exact ⟨output :: outputs, by simp [List.mapM_cons, done, rest], .cons related relatedRest⟩

theorem mapM_ok_inv (inputs : List α) (outputs : List β)
    (done : inputs.mapM step = .ok outputs) :
    List.Forall₂ (fun input output => step input = .ok output) inputs outputs := by
  induction inputs generalizing outputs with
  | nil =>
      cases done
      exact .nil
  | cons input tail ih =>
      rw [List.mapM_cons, bind_ok_iff] at done
      obtain ⟨output, first, rest⟩ := done
      rw [bind_ok_iff] at rest
      obtain ⟨later, second, finish⟩ := rest
      cases finish
      exact .cons first (ih later second)

theorem forall₂_mem_left (inputs : List α) (outputs : List β)
    (related : List.Forall₂ relation inputs outputs) (input : α) (member : input ∈ inputs) :
    ∃ output ∈ outputs, relation input output := by
  induction related with
  | nil => simp at member
  | cons head _ ih =>
      rcases List.mem_cons.mp member with rfl | later
      · exact ⟨_, List.mem_cons_self, head⟩
      · obtain ⟨output, listed, found⟩ := ih later
        exact ⟨output, List.mem_cons_of_mem _ listed, found⟩

theorem forall₂_mem_right (inputs : List α) (outputs : List β)
    (related : List.Forall₂ relation inputs outputs) (output : β) (member : output ∈ outputs) :
    ∃ input ∈ inputs, relation input output := by
  induction related with
  | nil => simp at member
  | cons head _ ih =>
      rcases List.mem_cons.mp member with rfl | later
      · exact ⟨_, List.mem_cons_self, head⟩
      · obtain ⟨input, listed, found⟩ := ih later
        exact ⟨input, List.mem_cons_of_mem _ listed, found⟩

theorem forall₂_compose {δ : Type} (first : α → β → Prop) (second : β → δ → Prop) (inputs : List α)
    (middle : List β) (outputs : List δ) (left : List.Forall₂ first inputs middle)
    (right : List.Forall₂ second middle outputs) :
    List.Forall₂ (fun input output => ∃ between, first input between ∧ second between output) inputs outputs := by
  induction left generalizing outputs with
  | nil =>
      cases right
      exact .nil
  | cons head _ ih =>
      cases right with
      | cons next rest => exact .cons ⟨_, head, next⟩ (ih _ rest)

theorem forall₂_of_forall₂_mem {first second : α → β → Prop} {inputs : List α} {outputs : List β}
    (related : List.Forall₂ first inputs outputs)
    (step : ∀ input output, input ∈ inputs → first input output → second input output) :
    List.Forall₂ second inputs outputs := by
  induction related with
  | nil => exact .nil
  | cons head _ ih =>
      exact .cons (step _ _ List.mem_cons_self head)
        (ih fun input output member => step input output (List.mem_cons_of_mem _ member))

theorem mapM_pure (value : α → β) (inputs : List α)
    (total : ∀ input ∈ inputs, step input = .ok (value input)) : inputs.mapM step = .ok (inputs.map value) := by
  induction inputs with
  | nil => rfl
  | cons input tail ih =>
      simp [List.mapM_cons, total input List.mem_cons_self,
        ih (fun later member => total later (List.mem_cons_of_mem _ member))]

variable (test : α → Except ε Bool)

variable (inputs : List α)

theorem anyM_ok
    (total : ∀ input ∈ inputs, ∃ verdict, test input = .ok verdict) :
    ∃ verdict, inputs.anyM test = .ok verdict ∧ (verdict = true ↔ ∃ input ∈ inputs, test input = .ok true) := by
  induction inputs with
  | nil => exact ⟨false, rfl, by simp⟩
  | cons input tail ih =>
      obtain ⟨here, done⟩ := total input List.mem_cons_self
      obtain ⟨later, rest, found⟩ := ih (fun other member => total other (List.mem_cons_of_mem _ member))
      cases here with
      | true => exact ⟨true, by simp [List.anyM, done], by simp [done]⟩
      | false => exact ⟨later, by simp [List.anyM, done, rest], by simp [done, found]⟩

theorem anyM_found (found : inputs.anyM test = .ok true) :
    ∃ input ∈ inputs, test input = .ok true := by
  induction inputs with
  | nil => cases found
  | cons input tail ih =>
      rw [List.anyM, bind_ok_iff] at found
      obtain ⟨here, done, rest⟩ := found
      cases here with
      | true => exact ⟨input, List.mem_cons_self, done⟩
      | false =>
          obtain ⟨other, member, also⟩ := ih rest
          exact ⟨other, List.mem_cons_of_mem _ member, also⟩

theorem allM_ok
    (total : ∀ input ∈ inputs, ∃ verdict, test input = .ok verdict) :
    ∃ verdict, inputs.allM test = .ok verdict ∧ (verdict = true ↔ ∀ input ∈ inputs, test input = .ok true) := by
  induction inputs with
  | nil => exact ⟨true, rfl, by simp⟩
  | cons input tail ih =>
      obtain ⟨here, done⟩ := total input List.mem_cons_self
      obtain ⟨later, rest, found⟩ := ih (fun other member => total other (List.mem_cons_of_mem _ member))
      cases here with
      | true => exact ⟨later, by simp [List.allM, done, rest], by simp [done, found]⟩
      | false => exact ⟨false, by simp [List.allM, done], by simp [done]⟩

def filterOk (test : α → Except ε Bool) : List α → Except ε (List α)
  | [] => .ok []
  | input :: tail => do
      let wanted ← test input
      let rest ← filterOk test tail
      return if wanted then input :: rest else rest

theorem filter_ok
    (total : ∀ input ∈ inputs, ∃ verdict, test input = .ok verdict) :
    ∃ kept, filterOk test inputs = .ok kept ∧ ∀ input, input ∈ kept ↔ input ∈ inputs ∧ test input = .ok true := by
  induction inputs with
  | nil => exact ⟨[], rfl, by simp⟩
  | cons input tail ih =>
      obtain ⟨here, done⟩ := total input List.mem_cons_self
      obtain ⟨kept, rest, found⟩ := ih (fun other member => total other (List.mem_cons_of_mem _ member))
      cases here with
      | true =>
          refine ⟨input :: kept, by simp [filterOk, done, rest], fun other => ?_⟩
          rw [List.mem_cons, List.mem_cons, found]
          constructor
          · rintro (rfl | ⟨member, passed⟩)
            · exact ⟨.inl rfl, done⟩
            · exact ⟨.inr member, passed⟩
          · rintro ⟨rfl | member, passed⟩
            · exact .inl rfl
            · exact .inr ⟨member, passed⟩
      | false =>
          refine ⟨kept, by simp [filterOk, done, rest], fun other => ?_⟩
          rw [List.mem_cons, found]
          constructor
          · exact fun ⟨member, passed⟩ => ⟨.inr member, passed⟩
          · rintro ⟨rfl | member, passed⟩
            · simp [done] at passed
            · exact ⟨member, passed⟩

theorem filter_ok_inv (inputs kept : List α) (done : filterOk test inputs = .ok kept) :
    (∀ input ∈ inputs, ∃ verdict, test input = .ok verdict) ∧
      ∀ input, input ∈ kept ↔ input ∈ inputs ∧ test input = .ok true := by
  have total : ∀ input ∈ inputs, ∃ verdict, test input = .ok verdict := by
    induction inputs generalizing kept with
    | nil => simp
    | cons input tail ih =>
        obtain ⟨wanted, here, after⟩ := (bind_ok_iff _ _ _).mp done
        obtain ⟨rest, later, _⟩ := (bind_ok_iff _ _ _).mp after
        intro other listed
        rcases List.mem_cons.mp listed with rfl | member
        · exact ⟨wanted, here⟩
        · exact ih rest later other member
  obtain ⟨same, found, members⟩ := filter_ok test inputs total
  rw [found] at done
  cases done
  exact ⟨total, members⟩

theorem foldlM_ok_inv (step : β → α → Except ε β) (invariant : β → Prop) (inputs : List α) (start final : β)
    (initial : invariant start)
    (preserved : ∀ state, ∀ input ∈ inputs, ∀ next, invariant state → step state input = .ok next → invariant next)
    (done : inputs.foldlM step start = .ok final) : invariant final := by
  induction inputs generalizing start with
  | nil =>
      cases done
      exact initial
  | cons input tail ih =>
      rw [List.foldlM_cons, bind_ok_iff] at done
      obtain ⟨middle, first, rest⟩ := done
      exact ih middle (preserved start input List.mem_cons_self middle initial first)
        (fun state later member => preserved state later (List.mem_cons_of_mem _ member)) rest

theorem foldlM_total (step : β → α → Except ε β) (invariant : β → Prop) (inputs : List α) (start : β)
    (initial : invariant start)
    (progress : ∀ state, ∀ input ∈ inputs, invariant state → ∃ next, step state input = .ok next ∧ invariant next) :
    ∃ final, inputs.foldlM step start = .ok final := by
  induction inputs generalizing start with
  | nil => exact ⟨start, rfl⟩
  | cons input tail ih =>
      obtain ⟨middle, first, kept⟩ := progress start input List.mem_cons_self initial
      obtain ⟨final, rest⟩ := ih middle kept (fun state later member =>
        progress state later (List.mem_cons_of_mem _ member))
      exact ⟨final, by rw [List.foldlM_cons, first, bind_ok, rest]⟩

theorem mapM_total (inputs : List α)
    (total : ∀ input ∈ inputs, ∃ output, step input = .ok output) : ∃ outputs, inputs.mapM step = .ok outputs := by
  obtain ⟨outputs, done, _⟩ := mapM_ok step (fun _ _ => True) inputs
    (fun input listed => (total input listed).imp fun _ done => ⟨done, trivial⟩)
  exact ⟨outputs, done⟩

theorem mapM_related {γ : Type} (relation : α → γ → Prop) (other : γ → Except ε β) (first : List α) (second : List γ)
    (related : List.Forall₂ relation first second) (agree : ∀ one two, relation one two → step one = other two) :
    first.mapM step = second.mapM other := by
  induction related with
  | nil => rfl
  | cons head _ ih => rw [List.mapM_cons, List.mapM_cons, agree _ _ head, ih]

def Fails (outcome : Except ε α) : Prop := ∃ error, outcome = .error error

theorem fails_iff (outcome : Except ε α) : Fails outcome ↔ ∀ value, outcome ≠ .ok value := by
  cases outcome with
  | error error => exact ⟨fun _ value => by simp, fun _ => ⟨error, rfl⟩⟩
  | ok value => exact ⟨fun ⟨_, wrong⟩ => (by cases wrong), fun never => absurd rfl (never value)⟩

theorem not_fails (outcome : Except ε α) (sound : ¬ Fails outcome) : ∃ value, outcome = .ok value := by
  cases outcome with
  | error error => exact absurd ⟨error, rfl⟩ sound
  | ok value => exact ⟨value, rfl⟩

theorem succeeds_iff (outcome : Except ε α) : (∃ value, outcome = .ok value) ↔ ¬ Fails outcome :=
  ⟨fun ⟨value, done⟩ failed => (fails_iff outcome).mp failed value done, not_fails outcome⟩

theorem anyM_fails :
    Fails (inputs.anyM test) ↔ ∃ front input back, inputs = front ++ input :: back ∧
      (∀ earlier ∈ front, test earlier = .ok false) ∧ Fails (test input) := by
  induction inputs with
  | nil =>
      refine ⟨fun ⟨_, wrong⟩ => (by cases wrong), ?_⟩
      rintro ⟨front, input, back, split, _⟩
      simp at split
  | cons input tail ih =>
      rw [List.anyM]
      cases here : test input with
      | error error =>
          refine ⟨fun _ => ⟨[], input, tail, rfl, by simp, error, here⟩, fun _ => ⟨error, rfl⟩⟩
      | ok verdict =>
          cases verdict with
          | true =>
              refine ⟨fun ⟨_, wrong⟩ => (by cases wrong), ?_⟩
              rintro ⟨front, other, back, split, passed, error, failed⟩
              cases front with
              | nil =>
                  cases split
                  cases here.symm.trans failed
              | cons first rest =>
                  cases split
                  cases here.symm.trans (passed input List.mem_cons_self)
          | false =>
              refine Iff.trans ih ⟨?_, ?_⟩
              · rintro ⟨front, other, back, rfl, passed, failed⟩
                refine ⟨input :: front, other, back, rfl, fun earlier member => ?_, failed⟩
                rcases List.mem_cons.mp member with rfl | later
                · exact here
                · exact passed earlier later
              · rintro ⟨front, other, back, split, passed, failed⟩
                cases front with
                | nil =>
                    cases split
                    obtain ⟨_, wrong⟩ := failed
                    cases here.symm.trans wrong
                | cons first rest =>
                    cases split
                    exact ⟨rest, other, back, rfl, fun earlier member => passed earlier (List.mem_cons_of_mem _ member),
                      failed⟩

theorem anyM_map (test : β → Except ε Bool) (value : α → β) (inputs : List α) :
    (inputs.map value).anyM test = inputs.anyM (fun input => test (value input)) := by
  induction inputs with
  | nil => rfl
  | cons input tail ih => rw [List.map_cons, List.anyM, List.anyM, ih]

theorem anyM_append (first second : List α) :
    (first ++ second).anyM test = (do if ← first.anyM test then return true else second.anyM test) := by
  induction first with
  | nil => rfl
  | cons input tail ih =>
      rw [List.cons_append, List.anyM, List.anyM]
      cases test input with
      | error error => rfl
      | ok verdict => cases verdict <;> simp [ih]

theorem anyM_nested (test : β → Except ε Bool) (expand : α → List β) (inputs : List α) :
    inputs.anyM (fun input => (expand input).anyM test) = (inputs.flatMap expand).anyM test := by
  induction inputs with
  | nil => rfl
  | cons input tail ih =>
      rw [List.flatMap_cons, anyM_append, List.anyM]
      cases (expand input).anyM test with
      | error error => rfl
      | ok verdict => cases verdict <;> simp [ih]

theorem filter_fails :
    Fails (filterOk test inputs) ↔ ∃ input ∈ inputs, Fails (test input) := by
  constructor
  · intro failed
    by_contra sound
    obtain ⟨kept, done, _⟩ := filter_ok test inputs fun input listed =>
      not_fails _ fun failed => sound ⟨input, listed, failed⟩
    exact (fails_iff _).mp failed kept done
  · rintro ⟨input, listed, failed⟩
    induction inputs with
    | nil => simp at listed
    | cons head tail ih =>
        rw [filterOk]
        cases here : test head with
        | error error => exact ⟨error, rfl⟩
        | ok wanted =>
            rcases List.mem_cons.mp listed with rfl | later
            · obtain ⟨_, wrong⟩ := failed
              cases here.symm.trans wrong
            · obtain ⟨error, wrong⟩ := ih later
              exact ⟨error, by rw [bind_ok, wrong, bind_error]⟩

end Foundation
