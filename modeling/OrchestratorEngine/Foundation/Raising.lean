import OrchestratorEngine.Foundation.Outcome

set_option autoImplicit false

namespace Foundation

variable {ε α β : Type} {allowed : ε → Prop}

-- Whatever a computation raises is one of the errors that its callers expect.
def Confined (allowed : ε → Prop) (outcome : Except ε α) : Prop := ∀ error, outcome = .error error → allowed error

@[simp] theorem confined_ok (value : α) : Confined allowed (Except.ok value : Except ε α) := nofun

@[simp] theorem confined_error (error : ε) : Confined allowed (Except.error error : Except ε α) ↔ allowed error := by
  constructor
  · intro confined
    exact confined error rfl
  · rintro fine _ ⟨⟩
    exact fine

@[simp] theorem confined_bind (first : Except ε α) (next : α → Except ε β) :
    Confined allowed (first >>= next) ↔ Confined allowed first ∧ ∀ value, first = .ok value → Confined allowed
    (next value) := by
  cases first with
  | error error => simp
  | ok value => simp

@[simp] theorem confined_refuse (bad : Prop) [Decidable bad] (error : ε) :
    Confined allowed (refuse bad error) ↔ (bad → allowed error) := by
  by_cases wrong : bad
  · simp [refuse, wrong]
  · simp [refuse, wrong]

theorem confined_map_m_cons (step : α → Except ε β) (input : α) (rest : List α) :
    Confined allowed ((input :: rest).mapM step) ↔
      Confined allowed (step input) ∧ ∀ output, step input = .ok output → Confined allowed (rest.mapM step) := by
  rw [List.mapM_cons, confined_bind]
  apply and_congr_right
  intro _
  apply forall_congr'
  intro output
  simp

def reached (good safe : α → Bool) : List α → Bool
  | [] => true
  | input :: rest => safe input && (!good input || reached good safe rest)

theorem confined_map_m (step : α → Except ε β) (good safe : α → Bool)
    (safely : ∀ input, Confined allowed (step input) ↔ safe input = true)
    (well : ∀ input, (∃ output, step input = .ok output) ↔ good input = true) (inputs : List α) :
    Confined allowed (inputs.mapM step) ↔ reached good safe inputs = true := by
  induction inputs with
  | nil => simp [reached]
  | cons input rest ih =>
      rw [confined_map_m_cons, reached, safely, ih, Bool.and_eq_true]
      apply and_congr_right
      intro _
      by_cases accepted : good input = true
      · obtain ⟨output, done⟩ := (well input).mpr accepted
        simp [accepted, done]
      · have refused : ∀ output, step input ≠ .ok output := fun output done => accepted ((well input).mp ⟨output, done⟩)
        simp [accepted, refused]

theorem map_m_ok_iff (step : α → Except ε β) (good : α → Bool)
    (well : ∀ input, (∃ output, step input = .ok output) ↔ good input = true) (inputs : List α) :
    (∃ outputs, inputs.mapM step = .ok outputs) ↔ inputs.all good = true := by
  induction inputs with
  | nil => simp
  | cons input rest ih =>
      simp only [List.mapM_cons, bind_ok_iff, pure_ok, List.all_cons, Bool.and_eq_true, ← ih, ← well]
      constructor
      · rintro ⟨_, output, done, outputs, rest, _⟩
        exact ⟨⟨output, done⟩, outputs, rest⟩
      · rintro ⟨⟨output, done⟩, outputs, rest⟩
        exact ⟨_, output, done, outputs, rest, rfl⟩

-- Every step of a fold is taken in a state that is good for it, as long as
-- the steps before it are not refused.
def Along {σ : Type} (step : σ → α → Except ε σ) (good : σ → α → List α → Prop) : List α → σ → Prop
  | [], _ => True
  | item :: rest, state => good state item rest ∧ ∀ next, step state item = .ok next → Along step good rest next

section Folds

variable {σ : Type} {step : σ → α → Except ε σ}

@[simp] theorem fold_nil_ok (state final : σ) : ([] : List α).foldlM step state = .ok final ↔ state = final := by
  rw [List.foldlM_nil, pure_ok, Except.ok.injEq]

theorem fold_cons_ok (item : α) (rest : List α) (state final : σ) : (item :: rest).foldlM step state = .ok final ↔
    ∃ next, step state item = .ok next ∧ rest.foldlM step next = .ok final := by
  rw [List.foldlM_cons, bind_ok_iff]

theorem fold_kept (relation : σ → σ → Prop) (refl : ∀ state, relation state state)
    (trans : ∀ {first second third}, relation first second → relation second third → relation first third)
    (kept : ∀ state item next, step state item = .ok next → relation state next) (items : List α) (state final : σ)
    (done : items.foldlM step state = .ok final) : relation state final := by
  induction items generalizing state with
  | nil =>
      rw [fold_nil_ok] at done
      exact done ▸ refl state
  | cons item rest ih =>
      obtain ⟨next, taken, onward⟩ := (fold_cons_ok item rest state final).mp done
      exact trans (kept state item next taken) (ih next onward)

theorem fold_keeps (good : σ → Prop) (kept : ∀ state item next, step state item = .ok next → good state → good next)
    (items : List α) (state final : σ) (done : items.foldlM step state = .ok final) (start : good state) :
    good final := by
  refine fold_kept (fun before after => good before → good after) (fun _ => id) ?_ kept items state final done start
  intro first second third lower upper held
  exact upper (lower held)

theorem Along.alike {good : σ → α → List α → Prop} (alike : σ → σ → Prop)
    (goods : ∀ {first second item rest}, alike first second → good first item rest → good second item rest)
    (steps : ∀ {first second item next}, alike first second → step second item = .ok next →
      ∃ other, step first item = .ok other ∧ alike other next) (items : List α) {first second : σ}
    (same : alike first second) (along : Along step good items first) : Along step good items second := by
  induction items generalizing first second with
  | nil => trivial
  | cons item rest ih =>
      refine ⟨goods same along.1, fun next taken => ?_⟩
      obtain ⟨other, before, onward⟩ := steps same taken
      exact ih onward (along.2 other before)

theorem fold_simulates {τ γ : Type} {other : τ → γ → Except ε τ} (states : σ → τ → Prop) (inputs : α → γ → Prop)
    (steps : ∀ {first second item image next}, states first second → inputs item image → step first item = .ok next →
      ∃ after, other second image = .ok after ∧ states next after) {items : List α} {images : List γ}
    (related : List.Forall₂ inputs items images) {start final : σ} {begun : τ} (initially : states start begun)
    (done : items.foldlM step start = .ok final) : ∃ ended, images.foldlM other begun = .ok ended ∧
    states final ended := by
  induction related generalizing start begun with
  | nil =>
      rw [fold_nil_ok] at done
      exact ⟨begun, rfl, done ▸ initially⟩
  | @cons item image rest later same _ ih =>
      obtain ⟨next, taken, onward⟩ := (fold_cons_ok item rest start final).mp done
      obtain ⟨after, also, agree⟩ := steps initially same taken
      obtain ⟨ended, ran, last⟩ := ih agree onward
      exact ⟨ended, by rw [List.foldlM_cons, also, bind_ok, ran], last⟩

end Folds

end Foundation
