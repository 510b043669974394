import OrchestratorEngine.Foundation.Threads

set_option autoImplicit false

namespace Foundation

namespace Thread

variable {σ ε α β ρ : Type}

def advance : Thread σ ε α → σ → Option (σ × Thread σ ε α)
  | ret _, _ => none
  | fail _, _ => none
  | look next, state => some (state, next state)
  | move ready change next, state => if ready state then some (change state, next state) else none

-- As long as others change the state only as the thread relies on, each of its
-- own changes is guaranteed and its end meets the condition.
def Safe (rely guar : σ → σ → Prop) (post : Except ε α → σ → Prop) : Thread σ ε α → σ → Prop
  | ret value, state => post (.ok value) state
  | fail error, state => post (.error error) state
  | look next, state => ∀ later, rely state later → Safe rely guar post (next later) later
  | move ready change next, state => ∀ later, rely state later → ready later = true →
      guar later (change later) ∧ Safe rely guar post (next later) (change later)

def Raises (allowed : ε → Prop) : Thread σ ε α → Prop
  | ret _ => True
  | fail error => allowed error
  | look next => ∀ state, Raises allowed (next state)
  | move _ _ next => ∀ state, Raises allowed (next state)

def Within (rely guar : σ → σ → Prop) (kept : σ → Prop) (thread : Thread σ ε α) : Prop :=
  ∀ state, kept state → Safe rely guar (fun _ => kept) thread state

section Rules

variable {rely guar : σ → σ → Prop} {post : Except ε α → σ → Prop} {state : σ}

@[simp] theorem safe_pure (value : α) : Safe rely guar post (pure value : Thread σ ε α) state ↔ post
    (.ok value) state :=
  Iff.rfl

@[simp] theorem safe_fail (error : ε) : Safe rely guar post (fail error : Thread σ ε α) state ↔ post
    (.error error) state :=
  Iff.rfl

@[simp] theorem safe_ask (query : σ → α) :
    Safe rely guar post (ask query : Thread σ ε α) state ↔ ∀ later, rely state later → post (.ok (query later)) later :=
  Iff.rfl

@[simp] theorem safe_lift (outcome : Except ε α) :
    Safe rely guar post (lift outcome : Thread σ ε α) state ↔ post outcome state := by
  cases outcome <;> rfl

@[simp] theorem safe_require (bad : Prop) [Decidable bad] (error : ε) (post : Except ε Unit → σ → Prop) :
    Safe rely guar post (require bad error : Thread σ ε Unit) state ↔
      if bad then post (.error error) state else post (.ok ()) state := by
  by_cases wrong : bad
  · rw [require, if_pos wrong, if_pos wrong]
    rfl
  · rw [require, if_neg wrong, if_neg wrong]
    rfl

@[simp] theorem safe_exchange (query : σ → α) (change : σ → σ) :
    Safe rely guar post (exchange query change : Thread σ ε α) state ↔
      ∀ later, rely state later → guar later (change later) ∧ post (.ok (query later)) (change later) := by
  simp only [exchange, Safe, true_implies]

@[simp] theorem safe_await (ready : σ → Bool) (change : σ → σ) (post : Except ε Unit → σ → Prop) :
    Safe rely guar post (await ready change : Thread σ ε Unit) state ↔
      ∀ later, rely state later → ready later = true → guar later (change later) ∧
      post (.ok ()) (change later) := Iff.rfl

def andThen (rely guar : σ → σ → Prop) (post : Except ε α → σ → Prop) (next : β → Thread σ ε α) :
    Except ε β → σ → Prop
  | .ok value => Safe rely guar post (next value)
  | .error error => post (.error error)

@[simp] theorem and_then_ok (next : β → Thread σ ε α) (value : β) :
    andThen rely guar post next (.ok value) state ↔ Safe rely guar post (next value) state := Iff.rfl

@[simp] theorem and_then_error (next : β → Thread σ ε α) (error : ε) :
    andThen rely guar post next (.error error) state ↔ post (.error error) state := Iff.rfl

@[simp] theorem safe_bind (first : Thread σ ε β) (next : β → Thread σ ε α) :
    Safe rely guar post (first >>= next) state ↔ Safe rely guar (andThen rely guar post next) first state := by
  change Safe rely guar post (bind first next) state ↔ _
  induction first generalizing state with
  | ret value => rfl
  | fail error => rfl
  | look rest ih => exact forall_congr' fun later => imp_congr_right fun _ => ih later
  | move ready change rest ih =>
      exact forall_congr' fun later => imp_congr_right fun _ => imp_congr_right fun _ =>
        and_congr_right fun _ => ih later

@[simp] theorem safe_attempt (body : Thread σ ε α) (post : Except ε (Except ε α) → σ → Prop) :
    Safe rely guar post (attempt body) state ↔ Safe rely guar (fun outcome => post (.ok outcome)) body state := by
  induction body generalizing state with
  | ret value => rfl
  | fail error => rfl
  | look rest ih => exact forall_congr' fun later => imp_congr_right fun _ => ih later
  | move ready change rest ih =>
      exact forall_congr' fun later => imp_congr_right fun _ => imp_congr_right fun _ =>
        and_congr_right fun _ => ih later

variable {thread : Thread σ ε α}

theorem Safe.mono {wider : σ → σ → Prop} {weaker : Except ε α → σ → Prop}
    (safe : Safe rely guar post thread state) (more : ∀ before after, guar before after → wider before after)
    (less : ∀ outcome later, post outcome later → weaker outcome later) : Safe rely wider weaker thread state := by
  induction thread generalizing state with
  | ret value => exact less _ _ safe
  | fail error => exact less _ _ safe
  | look rest ih => exact fun later reached => ih later (safe later reached)
  | move ready change rest ih =>
      intro later reached free
      obtain ⟨guaranteed, onward⟩ := safe later reached free
      exact ⟨more _ _ guaranteed, ih later onward⟩

theorem Safe.raises {allowed : ε → Prop} (safe : Safe rely guar post thread state)
    (raises : Raises allowed thread) :
    Safe rely guar (fun outcome later => post outcome later ∧ ∀ error, outcome = .error error → allowed error)
    thread state := by
  induction thread generalizing state with
  | ret value => exact ⟨safe, fun _ wrong => (by cases wrong)⟩
  | fail error =>
      refine ⟨safe, fun other same => ?_⟩
      cases same
      exact raises
  | look rest ih => exact fun later reached => ih later (safe later reached) (raises later)
  | move ready change rest ih =>
      intro later reached free
      obtain ⟨guaranteed, onward⟩ := safe later reached free
      exact ⟨guaranteed, ih later onward (raises later)⟩

theorem safe_of_journal {good : σ → Prop} {start : σ}
    (every : ∀ visited ∈ (journal thread).states start, good visited)
    (finish : post ((journal thread).run start).2 ((journal thread).final start)) :
    Safe Eq (fun _ after => good after) post thread start := by
  induction thread generalizing start with
  | ret value => exact finish
  | fail error => exact finish
  | look rest ih =>
      rintro later rfl
      exact ih start every finish
  | move ready change rest ih =>
      rintro later rfl -
      have onward : ∀ visited ∈ (journal (rest start)).states (change start), good visited := by
        intro visited member
        refine every visited (List.mem_cons_of_mem _ ?_)
        exact member
      refine ⟨onward _ List.mem_cons_self, ih start onward ?_⟩
      rw [Journal.final, journal, List.getLastD_cons] at finish
      exact finish

theorem safe_of_leads {good : σ → Prop} {start : σ} {finish : α → σ → Prop}
    (leads : Journal.Leads good finish (journal thread) start) (initial : good start) :
    Safe Eq (fun _ after => good after) (fun outcome later => ∃ value, outcome = .ok value ∧ finish value later)
      thread start := by
  obtain ⟨visited, value, done, every, ended⟩ := leads
  have ran : (journal thread).run start = (visited, .ok value) := done
  refine safe_of_journal (fun state member => ?_) ⟨value, by rw [ran], ?_⟩
  · rw [Journal.states, ran] at member
    rcases List.mem_cons.mp member with rfl | later
    · exact initial
    · exact every state later
  · rw [done.final]
    exact ended

theorem Safe.advance {thread next : Thread σ ε α} {after : σ} (safe : Safe rely guar post thread state)
    (idle : rely state state) (taken : thread.advance state = some (after, next)) :
    (after = state ∨ guar state after) ∧ Safe rely guar post next after := by
  cases thread with
  | ret value => cases taken
  | fail error => cases taken
  | look rest =>
      cases taken
      exact ⟨.inl rfl, safe state idle⟩
  | move ready change rest =>
      rw [Thread.advance] at taken
      split at taken
      case isTrue free =>
        cases taken
        obtain ⟨guaranteed, onward⟩ := safe state idle free
        exact ⟨.inr guaranteed, onward⟩
      case isFalse _ => cases taken

end Rules

section Errors

variable {allowed : ε → Prop}

theorem raises_pure (value : α) : Raises allowed (pure value : Thread σ ε α) := trivial

theorem raises_ask (query : σ → α) : Raises allowed (ask query : Thread σ ε α) := fun _ => trivial

theorem raises_write (change : σ → σ) : Raises allowed (write change : Thread σ ε Unit) := fun _ => trivial

theorem raises_exchange (query : σ → α) (change : σ → σ) : Raises allowed (exchange query change : Thread σ ε α) :=
  fun _ => trivial

theorem raises_bind {first : Thread σ ε β} {next : β → Thread σ ε α} (early : Raises allowed first)
    (late : ∀ value, Raises allowed (next value)) : Raises allowed (first >>= next) := by
  change Raises allowed (bind first next)
  induction first with
  | ret value => exact late value
  | fail error => exact early
  | look rest ih => exact fun state => ih state (early state)
  | move ready change rest ih => exact fun state => ih state (early state)

end Errors

section Kept

variable {rely guar : σ → σ → Prop} {kept : σ → Prop}

theorem within_pure (value : α) : Within rely guar kept (pure value : Thread σ ε α) := fun _ fine => fine

theorem within_fail (error : ε) : Within rely guar kept (fail error : Thread σ ε α) := fun _ fine => fine

theorem within_lift (outcome : Except ε α) : Within rely guar kept (lift outcome : Thread σ ε α) := by
  intro state fine
  rw [safe_lift]
  exact fine

theorem within_require (bad : Prop) [Decidable bad] (error : ε) :
    Within rely guar kept (require bad error : Thread σ ε Unit) := by
  intro state fine
  rw [safe_require]
  split <;> exact fine

theorem within_bind {first : Thread σ ε β} {next : β → Thread σ ε α} (early : Within rely guar kept first)
    (late : ∀ value, Within rely guar kept (next value)) : Within rely guar kept (first >>= next) := by
  intro state fine
  rw [safe_bind]
  refine (early state fine).mono (fun _ _ step => step) fun outcome later held => ?_
  cases outcome with
  | ok value => exact late value later held
  | error error => exact held

theorem within_attempt {body : Thread σ ε α} (inner : Within rely guar kept body) :
    Within rely guar kept (attempt body) := by
  intro state fine
  rw [safe_attempt]
  exact inner state fine

theorem within_each {step : ρ → Thread σ ε Unit} (rows : List ρ)
    (every : ∀ row ∈ rows, Within rely guar kept (step row)) :
    Within rely guar kept (each step rows) := by
  induction rows with
  | nil => exact within_pure ()
  | cons row rest ih =>
      exact within_bind (every row List.mem_cons_self) fun _ => ih fun other listed =>
        every other (List.mem_cons_of_mem _ listed)

variable (stable : ∀ before after, kept before → rely before after → kept after)
include stable

theorem within_ask (query : σ → α) : Within rely guar kept (ask query : Thread σ ε α) :=
  fun state fine later reached => stable state later fine reached

variable {change : σ → σ}

theorem within_write (own : ∀ state, kept state → guar state (change state) ∧ kept (change state)) :
    Within rely guar kept (write change : Thread σ ε Unit) :=
  fun state fine later reached _ => own later (stable state later fine reached)

theorem within_exchange {query : σ → α}
    (own : ∀ state, kept state → guar state (change state) ∧ kept (change state)) :
    Within rely guar kept (exchange query change : Thread σ ε α) :=
  fun state fine later reached _ => own later (stable state later fine reached)

theorem within_await {ready : σ → Bool}
    (own : ∀ state, kept state → ready state = true → guar state (change state) ∧ kept (change state)) :
    Within rely guar kept (await ready change : Thread σ ε Unit) :=
  fun state fine later reached free => own later (stable state later fine reached) free

theorem within_ask_bind {query : σ → β} {next : β → Thread σ ε α}
    (known : ∀ state, kept state → Safe rely guar (fun _ => kept) (next (query state)) state) :
    Within rely guar kept (ask query >>= next) := by
  intro state fine
  rw [safe_bind]
  exact fun later reached => known later (stable state later fine reached)

end Kept

end Thread

end Foundation
