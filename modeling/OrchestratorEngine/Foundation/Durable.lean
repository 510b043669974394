import OrchestratorEngine.Foundation.Outcome

set_option autoImplicit false

namespace Foundation

-- What can befall one durable step: it goes through, or an exception is raised
-- or the process stops, before its effect or after it.
inductive Fault (ε : Type) where
  | none
  | raisesBefore (error : ε)
  | raisesAfter (error : ε)
  | stopsBefore
  | stopsAfter
deriving DecidableEq, Repr

inductive Ending (ε α : Type) where
  | returned (value : α)
  | raised (error : ε)
  | stopped
deriving DecidableEq, Repr

-- A program over durable state. A stop leaves the state as it is: no handler
-- and no cleanup runs after it.
structure Durable (σ ε α : Type) where
  run : σ → σ × Ending ε α

namespace Durable

variable {σ ε α β : Type}

def bind (first : Durable σ ε α) (next : α → Durable σ ε β) : Durable σ ε β where
  run state := match first.run state with
    | (after, .returned value) => (next value).run after
    | (after, .raised error) => (after, .raised error)
    | (after, .stopped) => (after, .stopped)

instance : Monad (Durable σ ε) where
  pure value := ⟨fun state => (state, .returned value)⟩
  bind := bind

def raise (error : ε) : Durable σ ε α where
  run state := (state, .raised error)

def lift (result : Except ε α) : Durable σ ε α :=
  match result with
  | .ok value => pure value
  | .error error => raise error

def look (reading : σ → Except ε α) : Durable σ ε α where
  run state := (lift (reading state)).run state

def step (fault : Fault ε) (change : σ → Except ε σ) : Durable σ ε Unit where
  run state := match fault with
    | .raisesBefore error => (state, .raised error)
    | .stopsBefore => (state, .stopped)
    | .none => match change state with
      | .ok next => (next, .returned ())
      | .error error => (state, .raised error)
    | .raisesAfter interruption => match change state with
      | .ok next => (next, .raised interruption)
      | .error error => (state, .raised error)
    | .stopsAfter => match change state with
      | .ok next => (next, .stopped)
      | .error error => (state, .raised error)

def rescue (body : Durable σ ε α) (handler : ε → Durable σ ε α) : Durable σ ε α where
  run state := match body.run state with
    | (after, .raised error) => (handler error).run after
    | ended => ended

def ensure (body : Durable σ ε α) (cleanup : Durable σ ε Unit) : Durable σ ε α where
  run state := match body.run state with
    | (after, .stopped) => (after, .stopped)
    | (after, .returned value) => (do cleanup; return value : Durable σ ε α).run after
    | (after, .raised error) => (do cleanup; raise error : Durable σ ε α).run after

def suppress (harmless : ε → Bool) (body : Durable σ ε Unit) : Durable σ ε Unit :=
  rescue body fun error => if harmless error then pure () else raise error

@[simp] theorem pure_run (value : α) (state : σ) :
    (pure value : Durable σ ε α).run state = (state, .returned value) := rfl

@[simp] theorem raise_run (error : ε) (state : σ) :
    (raise error : Durable σ ε α).run state = (state, .raised error) := rfl

@[simp] theorem look_run (reading : σ → Except ε α) (state : σ) :
    (look reading).run state = (lift (reading state)).run state := rfl

@[simp] theorem lift_ok (value : α) : (lift (.ok value) : Durable σ ε α) = pure value := rfl

@[simp] theorem lift_error (error : ε) : (lift (.error error) : Durable σ ε α) = raise error := rfl

variable (first : Durable σ ε α)

theorem bind_returned (next : α → Durable σ ε β) (state after : σ) (value : α)
    (done : first.run state = (after, .returned value)) : (first >>= next).run state = (next value).run after := by
  change (bind first next).run state = (next value).run after
  simp only [bind, done]

theorem bind_raised (next : α → Durable σ ε β) (state after : σ) (error : ε)
    (done : first.run state = (after, .raised error)) : (first >>= next).run state = (after, .raised error) := by
  change (bind first next).run state = (after, .raised error)
  simp only [bind, done]

theorem bind_stopped (next : α → Durable σ ε β) (state after : σ)
    (done : first.run state = (after, .stopped)) : (first >>= next).run state = (after, .stopped) := by
  change (bind first next).run state = (after, .stopped)
  simp only [bind, done]

variable (body : Durable σ ε α)

theorem rescue_raised (handler : ε → Durable σ ε α) (state after : σ) (error : ε)
    (done : body.run state = (after, .raised error)) : (rescue body handler).run state = (handler error).run after := by
  simp only [rescue, done]

theorem rescue_returned (handler : ε → Durable σ ε α) (state after : σ) (value : α)
    (done : body.run state = (after, .returned value)) :
    (rescue body handler).run state = (after, .returned value) := by
  simp only [rescue, done]

theorem rescue_stopped (handler : ε → Durable σ ε α) (state after : σ)
    (done : body.run state = (after, .stopped)) : (rescue body handler).run state = (after, .stopped) := by
  simp only [rescue, done]

theorem ensure_stopped (cleanup : Durable σ ε Unit) (state after : σ)
    (done : body.run state = (after, .stopped)) : (ensure body cleanup).run state = (after, .stopped) := by
  simp only [ensure, done]

end Durable

namespace Fault

variable {σ ε : Type}

def takes : Fault ε → Bool
  | .none | .raisesAfter _ | .stopsAfter => true
  | .raisesBefore _ | .stopsBefore => false

def raises : Fault ε → Bool
  | .raisesBefore _ | .raisesAfter _ => true
  | .none | .stopsBefore | .stopsAfter => false

def stops : Fault ε → Bool
  | .stopsBefore | .stopsAfter => true
  | .none | .raisesBefore _ | .raisesAfter _ => false

def passes : Fault ε → Bool
  | .none => true
  | .raisesBefore _ | .raisesAfter _ | .stopsBefore | .stopsAfter => false

def ending : Fault ε → Ending ε Unit
  | .none => .returned ()
  | .raisesBefore error | .raisesAfter error => .raised error
  | .stopsBefore | .stopsAfter => .stopped

inductive Goes (fault : Fault ε) : Prop where
  | on (ending : fault.ending = .returned ()) (takes : fault.takes = true) (passes : fault.passes = true)
      (raises : fault.raises = false) (stops : fault.stops = false)
  | up (error : ε) (ending : fault.ending = .raised error) (passes : fault.passes = false)
      (raises : fault.raises = true) (stops : fault.stops = false)
  | out (ending : fault.ending = .stopped) (passes : fault.passes = false) (raises : fault.raises = false)
      (stops : fault.stops = true)

theorem goes (fault : Fault ε) : fault.Goes := by
  cases fault with
  | none => exact .on rfl rfl rfl rfl rfl
  | raisesBefore error | raisesAfter error => exact .up error rfl rfl rfl rfl
  | stopsBefore | stopsAfter => exact .out rfl rfl rfl rfl

theorem passes_takes (fault : Fault ε) (passes : fault.passes = true) : fault.takes = true := by
  cases fault <;> first | rfl | cases passes

end Fault

namespace Durable

variable {σ ε α β : Type}

theorem step_done (fault : Fault ε) (change : σ → Except ε σ) (state next : σ) (done : change state = .ok next) :
    (step fault change).run state = (if fault.takes then next else state, fault.ending) := by
  cases fault <;> simp [step, done, Fault.takes, Fault.ending]

theorem step_refused (fault : Fault ε) (change : σ → Except ε σ) (state : σ) (error : ε)
    (refused : change state = .error error) : ((step fault change).run state).1 = state := by
  cases fault <;> simp [step, refused]

theorem bind_state (first : Durable σ ε α) (next : α → Durable σ ε β) (state : σ)
    (still : ∀ value after, ((next value).run after).1 = after) :
    ((first >>= next).run state).1 = (first.run state).1 := by
  rcases done : first.run state with ⟨after, value | error | _⟩
  · rw [bind_returned first next state after value done, still]
  · rw [bind_raised first next state after error done]
  · rw [bind_stopped first next state after done]

theorem ensure_state (body : Durable σ ε α) (cleanup : Durable σ ε Unit) (state after : σ) (ending : Ending ε α)
    (done : body.run state = (after, ending)) (goes : ending ≠ .stopped) :
    ((ensure body cleanup).run state).1 = (cleanup.run after).1 := by
  cases ending with
  | stopped => exact absurd rfl goes
  | returned value =>
      simp only [ensure, done]
      exact bind_state cleanup _ after fun _ _ => rfl
  | raised error =>
      simp only [ensure, done]
      exact bind_state cleanup _ after fun _ _ => rfl

theorem suppress_state (harmless : ε → Bool) (body : Durable σ ε Unit) (state : σ) :
    ((suppress harmless body).run state).1 = (body.run state).1 := by
  rw [suppress]
  simp only [rescue]
  rcases body.run state with ⟨after, value | error | _⟩
  · rfl
  · cases kind : harmless error <;> simp [kind]
  · rfl

end Durable

end Foundation
