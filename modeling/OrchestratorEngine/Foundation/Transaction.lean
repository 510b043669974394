import OrchestratorEngine.Foundation.Outcome

set_option autoImplicit false

namespace Foundation

-- A write transaction over a store. It may raise, and then nothing of it is
-- kept; what it inserts into the table under study is written to a log, each
-- entry beside the store it was inserted into.
structure Session (σ ι : Type) where
  store : σ
  log : List ι

def Tx (σ ι ε α : Type) := Session σ ι → Except ε (α × Session σ ι)

namespace Tx

variable {σ ι ε α β ρ : Type}

instance : Monad (Tx σ ι ε) where
  pure value := fun session => .ok (value, session)
  bind first next := fun session => first session >>= fun done => next done.1 done.2

def raise (error : ε) : Tx σ ι ε α := fun _ => .error error

def read (query : σ → Except ε α) : Tx σ ι ε α := fun session => query session.store >>= fun row => .ok (row, session)

def ask (query : σ → α) : Tx σ ι ε α := fun session => .ok (query session.store, session)

def edit (change : σ → σ) : Tx σ ι ε Unit := fun session => .ok ((), { session with store := change session.store })

def note (entry : σ → ι) : Tx σ ι ε Unit := fun session =>
  .ok ((), { session with log := session.log ++ [entry session.store] })

def require (bad : Prop) [Decidable bad] (error : ε) : Tx σ ι ε Unit := if bad then raise error else pure ()

def lift (outcome : Except ε α) : Tx σ ι ε α := fun session => outcome >>= fun value => .ok (value, session)

def each (step : ρ → Tx σ ι ε Unit) : List ρ → Tx σ ι ε Unit
  | [] => pure ()
  | row :: rows => do
      step row
      each step rows

def gather (step : ρ → Tx σ ι ε (List β)) : List ρ → Tx σ ι ε (List β)
  | [] => pure []
  | row :: rows => do
      let here ← step row
      let later ← gather step rows
      return here ++ later

variable {session after : Session σ ι} {value : α}

@[simp] theorem pure_done (kept : α) :
    (pure kept : Tx σ ι ε α) session = .ok (value, after) ↔ value = kept ∧ after = session := by
  constructor
  · intro done
    cases done
    exact ⟨rfl, rfl⟩
  · rintro ⟨rfl, rfl⟩
    rfl

@[simp] theorem bind_done (first : Tx σ ι ε β) (next : β → Tx σ ι ε α) :
    (first >>= next) session = .ok (value, after) ↔
      ∃ between middle, first session = .ok (between, middle) ∧ next between middle = .ok (value, after) := by
  constructor
  · intro done
    obtain ⟨⟨between, middle⟩, here, rest⟩ := (bind_ok_iff _ _ _).mp done
    exact ⟨between, middle, here, rest⟩
  · rintro ⟨between, middle, here, rest⟩
    exact (bind_ok_iff _ _ _).mpr ⟨(between, middle), here, rest⟩

@[simp] theorem raise_done (error : ε) : (raise error : Tx σ ι ε α) session = .ok (value, after) ↔ False :=
  ⟨fun done => (by cases done), False.elim⟩

@[simp] theorem read_done (query : σ → Except ε α) :
    (read query : Tx σ ι ε α) session = .ok (value, after) ↔ query session.store = .ok value ∧ after = session := by
  constructor
  · intro done
    obtain ⟨row, found, finish⟩ := (bind_ok_iff _ _ _).mp done
    cases finish
    exact ⟨found, rfl⟩
  · rintro ⟨found, rfl⟩
    exact (bind_ok_iff _ _ _).mpr ⟨value, found, rfl⟩

@[simp] theorem ask_done (query : σ → α) :
    (ask query : Tx σ ι ε α) session = .ok (value, after) ↔ value = query session.store ∧ after = session := by
  constructor
  · intro done
    cases done
    exact ⟨rfl, rfl⟩
  · rintro ⟨rfl, rfl⟩
    rfl

@[simp] theorem edit_done (change : σ → σ) (done : Unit) :
    (edit change : Tx σ ι ε Unit) session = .ok (done, after) ↔
      after = { session with store := change session.store } := by
  constructor
  · intro finish
    cases finish
    rfl
  · rintro rfl
    rfl

@[simp] theorem note_done (entry : σ → ι) (done : Unit) :
    (note entry : Tx σ ι ε Unit) session = .ok (done, after) ↔
      after = { session with log := session.log ++ [entry session.store] } := by
  constructor
  · intro finish
    cases finish
    rfl
  · rintro rfl
    rfl

@[simp] theorem require_done (bad : Prop) [Decidable bad] (error : ε) (done : Unit) :
    (require bad error : Tx σ ι ε Unit) session = .ok (done, after) ↔ ¬ bad ∧ after = session := by
  by_cases wrong : bad <;> simp [require, wrong]

@[simp] theorem lift_done (outcome : Except ε α) :
    (lift outcome : Tx σ ι ε α) session = .ok (value, after) ↔ outcome = .ok value ∧ after = session := by
  cases outcome with
  | error error => exact ⟨fun done => (by cases done), fun done => (by cases done.1)⟩
  | ok kept =>
      constructor
      · intro done
        cases done
        exact ⟨rfl, rfl⟩
      · rintro ⟨same, rfl⟩
        cases same
        rfl

theorem each_rule (step : ρ → Tx σ ι ε Unit) (invariant : List ρ → Session σ ι → Prop) (rows : List ρ)
    (start final : Session σ ι) (done : Unit) (initial : invariant [] start)
    (preserved : ∀ front row back before next, rows = front ++ row :: back → invariant front before →
      step row before = .ok ((), next) → invariant (front ++ [row]) next)
    (run : each step rows start = .ok (done, final)) : invariant rows final := by
  suffices general : ∀ visited left before, rows = visited ++ left → invariant visited before →
      each step left before = .ok (done, final) → invariant rows final from
    general [] rows start rfl initial run
  intro visited left
  induction left generalizing visited with
  | nil =>
      intro before split held finish
      obtain ⟨_, rfl⟩ := (pure_done _).mp finish
      rwa [split, List.append_nil]
  | cons row tail ih =>
      intro before split held finish
      obtain ⟨_, middle, here, rest⟩ := (bind_done _ _).mp finish
      refine ih (visited ++ [row]) middle ?_ (preserved visited row tail before middle split held here) rest
      rw [split, List.append_assoc, List.singleton_append]

theorem gather_rule (step : ρ → Tx σ ι ε (List β)) (invariant : List ρ → List β → Session σ ι → Prop)
    (rows : List ρ) (start final : Session σ ι) (yield : List β) (initial : invariant [] [] start)
    (preserved : ∀ front row back before next yielded here, rows = front ++ row :: back →
      invariant front yielded before → step row before = .ok (here, next) →
      invariant (front ++ [row]) (yielded ++ here) next)
    (run : gather step rows start = .ok (yield, final)) : invariant rows yield final := by
  suffices general : ∀ visited left before yielded rest, rows = visited ++ left → invariant visited yielded before →
      gather step left before = .ok (rest, final) → invariant rows (yielded ++ rest) final from
    general [] rows start [] yield rfl initial run
  intro visited left
  induction left generalizing visited with
  | nil =>
      intro before yielded rest split held finish
      obtain ⟨rfl, rfl⟩ := (pure_done _).mp finish
      rw [split, List.append_nil, List.append_nil]
      exact held
  | cons row tail ih =>
      intro before yielded rest split held finish
      obtain ⟨here, middle, first, others⟩ := (bind_done _ _).mp finish
      obtain ⟨later, last, second, closing⟩ := (bind_done _ _).mp others
      obtain ⟨rfl, rfl⟩ := (pure_done _).mp closing
      rw [← List.append_assoc]
      refine ih (visited ++ [row]) middle (yielded ++ here) later ?_
        (preserved visited row tail before middle yielded here split held first) second
      rw [split, List.append_assoc, List.singleton_append]

end Tx

end Foundation
