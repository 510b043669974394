import OrchestratorEngine.Foundation.Journal

set_option autoImplicit false

namespace Foundation

-- A program over shared state, one atomic step at a time. A step that is not
-- ready waits; between two steps anything else may happen to the state.
inductive Thread (σ ε α : Type) where
  | ret (value : α)
  | fail (error : ε)
  | look (next : σ → Thread σ ε α)
  | move (ready : σ → Bool) (change : σ → σ) (next : σ → Thread σ ε α)

namespace Thread

variable {σ ε α β ρ : Type}

def bind : Thread σ ε α → (α → Thread σ ε β) → Thread σ ε β
  | ret value, next => next value
  | fail error, _ => fail error
  | look rest, next => look fun state => bind (rest state) next
  | move ready change rest, next => move ready change fun state => bind (rest state) next

instance : Monad (Thread σ ε) where
  pure := ret
  bind := bind

def ask (query : σ → α) : Thread σ ε α := look fun state => ret (query state)

def lift : Except ε α → Thread σ ε α
  | .ok value => ret value
  | .error error => fail error

def require (bad : Prop) [Decidable bad] (error : ε) : Thread σ ε Unit := if bad then fail error else ret ()

def write (change : σ → σ) : Thread σ ε Unit := move (fun _ => true) change fun _ => ret ()

def exchange (query : σ → α) (change : σ → σ) : Thread σ ε α :=
  move (fun _ => true) change fun state => ret (query state)

def await (ready : σ → Bool) (change : σ → σ) : Thread σ ε Unit := move ready change fun _ => ret ()

def attempt : Thread σ ε α → Thread σ ε (Except ε α)
  | ret value => ret (.ok value)
  | fail error => ret (.error error)
  | look rest => look fun state => attempt (rest state)
  | move ready change rest => move ready change fun state => attempt (rest state)

def each (step : ρ → Thread σ ε Unit) : List ρ → Thread σ ε Unit
  | [] => ret ()
  | row :: rows => do
      step row
      each step rows

def journal : Thread σ ε α → Journal σ ε α
  | ret value => pure value
  | fail error => Journal.raise error
  | look rest => ⟨fun state => (journal (rest state)).run state⟩
  | move _ change rest => ⟨fun state =>
      let later := (journal (rest state)).run (change state)
      (change state :: later.1, later.2)⟩

@[simp] theorem journal_pure (value : α) : journal (pure value : Thread σ ε α) = pure value := rfl

theorem journal_run_ext {first second : Journal σ ε α} (same : ∀ state, first.run state = second.run state) :
    first = second := by
  cases first
  cases second
  exact congrArg Journal.mk (funext same)

@[simp] theorem journal_bind (first : Thread σ ε β) (next : β → Thread σ ε α) :
    journal (first >>= next) = journal first >>= fun value => journal (next value) := by
  change journal (bind first next) = Journal.bind (journal first) fun value => journal (next value)
  refine journal_run_ext fun state => ?_
  induction first generalizing state with
  | ret value => exact Prod.ext (List.nil_append _).symm rfl
  | fail error => rfl
  | look rest ih => exact ih state state
  | move ready change rest ih =>
      have later := ih state (change state)
      simp only [bind, journal, Journal.bind] at later ⊢
      rw [later]
      rcases (journal (rest state)).run (change state) with ⟨visited, error | value⟩
      · rfl
      · cases visited with
        | nil => rfl
        | cons head tail => rfl

@[simp] theorem journal_ask (query : σ → α) : journal (ask query : Thread σ ε α) = Journal.ask query := rfl

@[simp] theorem journal_lift (outcome : Except ε α) : journal (lift outcome : Thread σ ε α) = Journal.lift outcome := by
  cases outcome <;> rfl

@[simp] theorem journal_fail (error : ε) : journal (fail error : Thread σ ε α) = Journal.raise error := rfl

@[simp] theorem journal_require (bad : Prop) [Decidable bad] (error : ε) :
    journal (require bad error : Thread σ ε Unit) = Journal.require bad error := by
  by_cases wrong : bad
  · rw [require, Journal.require, if_pos wrong, if_pos wrong]
    rfl
  · rw [require, Journal.require, if_neg wrong, if_neg wrong]
    rfl

@[simp] theorem journal_write (change : σ → σ) : journal (write change : Thread σ ε Unit) = Journal.write change := rfl

@[simp] theorem journal_await (ready : σ → Bool) (change : σ → σ) :
    journal (await ready change : Thread σ ε Unit) = Journal.write change := rfl

@[simp] theorem journal_attempt (thread : Thread σ ε α) : journal (attempt thread) = Journal.attempt
    (journal thread) := by
  refine journal_run_ext fun state => ?_
  induction thread generalizing state with
  | ret value => rfl
  | fail error => rfl
  | look rest ih => exact ih state state
  | move ready change rest ih =>
      have later := ih state (change state)
      simp only [attempt, journal, Journal.attempt] at later ⊢
      rw [later]

@[simp] theorem journal_ite (condition : Prop) [Decidable condition] (first second : Thread σ ε α) :
    journal (if condition then first else second) = if condition then journal first else journal second := by
  by_cases holds : condition
  · rw [if_pos holds, if_pos holds]
  · rw [if_neg holds, if_neg holds]

end Thread

end Foundation
