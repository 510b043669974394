import OrchestratorEngine.Foundation.Outcome

set_option autoImplicit false

namespace Foundation

-- A program over durable state that lists the states after each of its writes,
-- so that a stop between two writes leaves one of them.
structure Journal (σ ε α : Type) where
  run : σ → List σ × Except ε α

namespace Journal

variable {σ ε α β ρ : Type}

def bind (first : Journal σ ε α) (next : α → Journal σ ε β) : Journal σ ε β where
  run state := match first.run state with
    | (visited, .error error) => (visited, .error error)
    | (visited, .ok value) =>
        let later := (next value).run (visited.getLastD state)
        (visited ++ later.1, later.2)

instance : Monad (Journal σ ε) where
  pure value := ⟨fun _ => ([], .ok value)⟩
  bind := bind

def raise (error : ε) : Journal σ ε α := ⟨fun _ => ([], .error error)⟩

def ask (query : σ → α) : Journal σ ε α := ⟨fun state => ([], .ok (query state))⟩

def lift (outcome : Except ε α) : Journal σ ε α := ⟨fun _ => ([], outcome)⟩

def require (bad : Prop) [Decidable bad] (error : ε) : Journal σ ε Unit := if bad then raise error else pure ()

def write (change : σ → σ) : Journal σ ε Unit := ⟨fun state => ([change state], .ok ())⟩

def attempt (body : Journal σ ε α) : Journal σ ε (Except ε α) where
  run state := ((body.run state).1, .ok (body.run state).2)

def each (step : ρ → Journal σ ε Unit) : List ρ → Journal σ ε Unit
  | [] => pure ()
  | row :: rows => do
      step row
      each step rows

def Done (body : Journal σ ε α) (start : σ) (visited : List σ) (value : α) :
    Prop := body.run start = (visited, .ok value)

variable {start : σ} {visited : List σ} {value : α}

@[simp] theorem pure_done (kept : α) :
    Done (pure kept : Journal σ ε α) start visited value ↔ value = kept ∧ visited = [] := by
  constructor
  · intro done
    cases done
    exact ⟨rfl, rfl⟩
  · rintro ⟨rfl, rfl⟩
    rfl

@[simp] theorem bind_done (first : Journal σ ε β) (next : β → Journal σ ε α) :
    Done (first >>= next) start visited value ↔ ∃ front between back, Done first start front between ∧
      Done (next between) (front.getLastD start) back value ∧ visited = front ++ back := by
  change (bind first next).run start = _ ↔ _
  simp only [bind, Done]
  rcases ran : first.run start with ⟨front, error | between⟩
  · constructor
    · intro done
      cases done
    · rintro ⟨_, _, _, done, _, _⟩
      cases done
  · constructor
    · intro done
      obtain ⟨rfl, outcome⟩ := Prod.mk.injEq _ _ _ _ ▸ done
      exact ⟨front, between, _, rfl, Prod.ext rfl outcome, rfl⟩
    · rintro ⟨_, _, back, same, later, rfl⟩
      cases same
      simp only [later]

@[simp] theorem raise_done (error : ε) : Done (raise error : Journal σ ε α) start visited value ↔ False :=
  ⟨fun done => (by cases done), False.elim⟩

@[simp] theorem ask_done (query : σ → α) :
    Done (ask query : Journal σ ε α) start visited value ↔ value = query start ∧ visited = [] := by
  constructor
  · intro done
    cases done
    exact ⟨rfl, rfl⟩
  · rintro ⟨rfl, rfl⟩
    rfl

@[simp] theorem lift_done (outcome : Except ε α) :
    Done (lift outcome : Journal σ ε α) start visited value ↔ outcome = .ok value ∧ visited = [] := by
  constructor
  · intro done
    cases done
    exact ⟨rfl, rfl⟩
  · rintro ⟨rfl, rfl⟩
    rfl

@[simp] theorem require_done (bad : Prop) [Decidable bad] (error : ε) (done : Unit) :
    Done (require bad error : Journal σ ε Unit) start visited done ↔ ¬ bad ∧ visited = [] := by
  by_cases wrong : bad <;> simp [require, wrong]

@[simp] theorem write_done (change : σ → σ) (done : Unit) :
    Done (write change : Journal σ ε Unit) start visited done ↔ visited = [change start] := by
  constructor
  · intro finish
    cases finish
    rfl
  · rintro rfl
    rfl

@[simp] theorem attempt_done (body : Journal σ ε α) (outcome : Except ε α) :
    Done (attempt body) start visited outcome ↔ body.run start = (visited, outcome) := by
  constructor
  · intro done
    cases done
    rfl
  · intro ran
    simp only [Done, attempt, ran]

variable {first : Journal σ ε α}

theorem Done.bind_run (done : Done first start visited value) (next : α → Journal σ ε β) :
    (first >>= next).run start = (visited ++ ((next value).run (visited.getLastD start)).1,
      ((next value).run (visited.getLastD start)).2) := by
  have ran : first.run start = (visited, .ok value) := done
  change (match first.run start with
    | (visited, .error error) => (visited, Except.error error)
    | (visited, .ok value) => (visited ++ ((next value).run (visited.getLastD start)).1,
        ((next value).run (visited.getLastD start)).2)) = _
  rw [ran]

variable {error : ε}

theorem failed_bind_run (failed : first.run start = (visited, .error error))
    (next : α → Journal σ ε β) : (first >>= next).run start = (visited, .error error) := by
  change (match first.run start with
    | (visited, .error error) => (visited, Except.error error)
    | (visited, .ok value) => (visited ++ ((next value).run (visited.getLastD start)).1,
        ((next value).run (visited.getLastD start)).2)) = _
  rw [failed]

theorem Done.silent_run (done : Done first start [] value) (next : α → Journal σ ε β) :
    (first >>= next).run start = (next value).run start := done.bind_run next

theorem require_bind_run {bad : Prop} [Decidable bad] (right : ¬ bad) (next : Unit → Journal σ ε β) :
    (require bad error >>= next).run start = (next ()).run start :=
  ((require_done bad error ()).mpr ⟨right, rfl⟩).silent_run next

theorem refused_bind_run {bad : Prop} [Decidable bad] (wrong : bad) (next : Unit → Journal σ ε β) :
    (require bad error >>= next).run start = ([], .error error) := by
  refine failed_bind_run ?_ next
  rw [require, if_pos wrong]
  rfl

theorem lift_bind_run {outcome : Except ε α} (finish : outcome = .ok value) (next : α → Journal σ ε β) :
    (lift outcome >>= next).run start = (next value).run start :=
  ((lift_done outcome).mpr ⟨finish, rfl⟩).silent_run next

theorem lift_failed_run {outcome : Except ε α} (failed : outcome = .error error) (next : α → Journal σ ε β) :
    (lift outcome >>= next).run start = ([], .error error) :=
  failed_bind_run (congrArg (Prod.mk []) failed) next

theorem ask_bind_run (query : σ → α) (next : α → Journal σ ε β) :
    (ask query >>= next).run start = (next (query start)).run start :=
  ((ask_done query).mpr ⟨rfl, rfl⟩).silent_run next

def states (body : Journal σ ε α) (state : σ) : List σ := state :: (body.run state).1

def final (body : Journal σ ε α) (state : σ) : σ := (body.run state).1.getLastD state

theorem final_mem_states (body : Journal σ ε α) (state : σ) : body.final state ∈ body.states state := by
  rw [final, states]
  cases visited : (body.run state).1 with
  | nil => exact List.mem_cons_self
  | cons head tail =>
      rw [List.getLastD_cons]
      exact List.mem_cons_of_mem _ List.getLastD_mem_cons

variable {body : Journal σ ε α}

theorem Done.final (done : Done body start visited value) :
    body.final start = visited.getLastD start := by
  rw [Journal.final, show body.run start = _ from done]

def Keeps (good : σ → Prop) (post : α → σ → Prop) (body : Journal σ ε α) (start : σ) : Prop :=
  (∀ state ∈ (body.run start).1, good state) ∧ ∀ value, (body.run start).2 = .ok value → post value (body.final start)

def Leads (good : σ → Prop) (post : α → σ → Prop) (body : Journal σ ε α) (start : σ) : Prop :=
  ∃ visited value, Done body start visited value ∧ (∀ state ∈ visited, good state) ∧ post value (visited.getLastD start)

section Rules

variable {good : σ → Prop} {post : α → σ → Prop}

@[simp] theorem keeps_pure (kept : α) : Keeps good post (pure kept : Journal σ ε α) start ↔ post kept start := by
  constructor
  · intro keeps
    exact keeps.2 kept rfl
  · intro fine
    refine ⟨fun _ member => (by cases member), fun value finish => ?_⟩
    cases finish
    exact fine

@[simp] theorem keeps_raise (error : ε) : Keeps good post (raise error : Journal σ ε α) start ↔ True :=
  ⟨fun _ => trivial, fun _ => ⟨fun _ member => (by cases member), fun _ finish => (by cases finish)⟩⟩

@[simp] theorem keeps_ask (query : σ → α) :
    Keeps good post (ask query : Journal σ ε α) start ↔ post (query start) start :=
  keeps_pure (query start)

@[simp] theorem keeps_lift (outcome : Except ε α) :
    Keeps good post (lift outcome : Journal σ ε α) start ↔ ∀ value, outcome = .ok value → post value start := by
  constructor
  · intro keeps value finish
    exact keeps.2 value finish
  · exact fun fine => ⟨fun _ member => (by cases member), fine⟩

@[simp] theorem keeps_require (bad : Prop) [Decidable bad] (error : ε) (post : Unit → σ → Prop) :
    Keeps good post (require bad error : Journal σ ε Unit) start ↔ (¬ bad → post () start) := by
  by_cases wrong : bad <;> simp [require, wrong]

@[simp] theorem keeps_write (change : σ → σ) (post : Unit → σ → Prop) :
    Keeps good post (write change : Journal σ ε Unit) start ↔ good (change start) ∧ post () (change start) := by
  constructor
  · intro keeps
    exact ⟨keeps.1 _ List.mem_cons_self, keeps.2 () rfl⟩
  · rintro ⟨fine, finish⟩
    refine ⟨fun state member => ?_, fun _ _ => finish⟩
    rw [List.mem_singleton.mp member]
    exact fine

theorem get_last_append (front back : List σ) (state : σ) :
    (front ++ back).getLastD state = back.getLastD (front.getLastD state) := by
  cases back with
  | nil => simp
  | cons head tail => simp [List.getLastD_eq_getLast?, List.getLast?_append]

@[simp] theorem keeps_bind (first : Journal σ ε β) (next : β → Journal σ ε α) :
    Keeps good post (first >>= next) start ↔
      Keeps good (fun value state => Keeps good post (next value) state) first start := by
  change Keeps good post (bind first next) start ↔ _
  simp only [Keeps, bind, final]
  rcases ran : first.run start with ⟨visited, error | between⟩
  · simp
  · simp only [List.mem_append, get_last_append, Except.ok.injEq, forall_eq']
    constructor
    · rintro ⟨every, finish⟩
      exact ⟨fun state member => every state (.inl member), fun state member => every state (.inr member), finish⟩
    · rintro ⟨early, late, finish⟩
      exact ⟨fun state member => member.elim (early state) (late state), finish⟩

theorem Leads.keeps (leads : Leads good post body start) : Keeps good post body start := by
  obtain ⟨visited, value, done, every, finish⟩ := leads
  have ran : body.run start = (visited, .ok value) := done
  refine ⟨?_, fun other ended => ?_⟩
  · rw [ran]
    exact every
  · rw [ran] at ended
    cases ended
    rw [done.final]
    exact finish

variable {next : β → Journal σ ε α}

theorem Leads.bind {first : Journal σ ε β} {middle : β → σ → Prop}
    (early : Leads good middle first start)
    (late : ∀ value state, middle value state → Leads good post (next value) state) :
    Leads good post (first >>= next) start := by
  obtain ⟨front, between, done, every, met⟩ := early
  obtain ⟨back, value, finish, later, ended⟩ := late between _ met
  refine ⟨front ++ back, value, (bind_done first next).mpr ⟨front, between, back, done, finish, rfl⟩, ?_, ?_⟩
  · intro state member
    exact (List.mem_append.mp member).elim (every state) (later state)
  · rw [get_last_append]
    exact ended

theorem Leads.through {first : Journal σ ε β} (middle : β → σ → Prop)
    (early : Leads good middle first start)
    (late : ∀ value state, middle value state → Leads good post (next value) state) :
    Leads good post (first >>= next) start := early.bind late

theorem Leads.assoc {γ : Type} {first : Journal σ ε γ} {second : γ → Journal σ ε β} {third : β → Journal σ ε α}
    (leads : Leads good post ((first >>= second) >>= third) start) :
    Leads good post (first >>= fun value => second value >>= third) start := by
  obtain ⟨visited, value, done, kept⟩ := leads
  refine ⟨visited, value, ?_, kept⟩
  simp only [bind_done] at done ⊢
  obtain ⟨_, between, back, ⟨front, early, middle, first, second, rfl⟩, third, rfl⟩ := done
  rw [get_last_append] at third
  exact ⟨front, early, middle ++ back, first, ⟨middle, between, back, second, third, rfl⟩, (List.append_assoc _ _ _)⟩

theorem leads_pure (kept : α) (fine : post kept start) : Leads good post (pure kept : Journal σ ε α) start :=
  ⟨[], kept, rfl, fun _ member => (by cases member), fine⟩

theorem leads_ask (query : σ → β) (later : Leads good post (next (query start)) start) :
    Leads good post (ask query >>= next) start := later

theorem leads_lift {outcome : Except ε β} (value : β) (finish : outcome = .ok value)
    (later : Leads good post (next value) start) : Leads good post (lift outcome >>= next) start := by
  rw [finish]
  exact later

theorem leads_require {bad : Prop} [Decidable bad] {next : Unit → Journal σ ε α} (right : ¬ bad)
    (later : Leads good post (next ()) start) : Leads good post (require bad error >>= next) start := by
  rw [require, if_neg right]
  exact later

theorem leads_write {change : σ → σ} {post : Unit → σ → Prop} (kept : good (change start))
    (fine : post () (change start)) : Leads good post (write change : Journal σ ε Unit) start := by
  refine ⟨[change start], (), rfl, fun state member => ?_, fine⟩
  rw [List.mem_singleton.mp member]
  exact kept

theorem leads_write_bind {change : σ → σ} {next : Unit → Journal σ ε α} (kept : good (change start))
    (later : Leads good post (next ()) (change start)) : Leads good post (write change >>= next) start := by
  obtain ⟨visited, value, done, every, finish⟩ := later
  refine ⟨change start :: visited, value, (bind_done _ next).mpr ⟨[change start], (), visited, rfl, done, rfl⟩, ?_, ?_⟩
  · intro state member
    rcases List.mem_cons.mp member with rfl | rest
    · exact kept
    · exact every state rest
  · cases visited <;> exact finish

@[simp] theorem keeps_attempt (body : Journal σ ε α) (post : Except ε α → σ → Prop) :
    Keeps good post (attempt body) start ↔
      (∀ state ∈ (body.run start).1, good state) ∧ post (body.run start).2 (body.final start) := by
  constructor
  · exact fun keeps => ⟨keeps.1, keeps.2 _ rfl⟩
  · rintro ⟨every, finish⟩
    refine ⟨every, fun value ended => ?_⟩
    cases ended
    exact finish

theorem leads_attempt (leads : Leads good post body start) :
    Leads good (fun outcome state => ∃ value, outcome = .ok value ∧ post value state) (attempt body) start := by
  obtain ⟨visited, value, done, every, finish⟩ := leads
  exact ⟨visited, .ok value, (attempt_done body _).mpr done, every, value, rfl, finish⟩

theorem Leads.mono {better : σ → Prop} {stronger : α → σ → Prop}
    (leads : Leads good post body start) (wider : ∀ state, good state → better state)
    (weaker : ∀ value state, post value state → stronger value state) : Leads better stronger body start := by
  obtain ⟨visited, value, done, every, finish⟩ := leads
  exact ⟨visited, value, done, fun state member => wider state (every state member), weaker value _ finish⟩

theorem Keeps.mono {better : σ → Prop} {stronger : α → σ → Prop}
    (keeps : Keeps good post body start) (wider : ∀ state, good state → better state)
    (weaker : ∀ value state, post value state → stronger value state) : Keeps better stronger body start :=
  ⟨fun state member => wider state (keeps.1 state member), fun value finish => weaker value _ (keeps.2 value finish)⟩

end Rules

end Journal

end Foundation
