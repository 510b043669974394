import OrchestratorEngine.Continuity.Edits

set_option autoImplicit false

namespace OrchestratorEngine.Continuity

open Foundation

-- What code may create, whatever the store: it appends only such activations
-- and leaves those that are there alone.
def Creates {α : Type} (allowed : Activation → Prop) (body : Transaction α) : Prop :=
  ∀ start value final, body start = .ok (value, final) →
    ∃ created, final.store.activations = start.store.activations ++ created ∧ ∀ activation ∈ created, allowed activation

section Rules

variable {α β : Type} {allowed : Activation → Prop}

theorem creates_pure (value : α) : Creates allowed (pure value : Transaction α) := by
  intro start kept final run
  obtain ⟨_, rfl⟩ := (Tx.pure_done _).mp run
  exact ⟨[], by simp, by simp⟩

theorem creates_read (query : Store → Except Error α) : Creates allowed (Tx.read query : Transaction α) := by
  intro start value final run
  obtain ⟨_, rfl⟩ := (Tx.read_done _).mp run
  exact ⟨[], by simp, by simp⟩

theorem creates_ask (query : Store → α) : Creates allowed (Tx.ask query : Transaction α) := by
  intro start value final run
  obtain ⟨_, rfl⟩ := (Tx.ask_done _).mp run
  exact ⟨[], by simp, by simp⟩

theorem creates_edit (change : Store → Store) (same : ∀ store, (change store).activations = store.activations) :
    Creates allowed (Tx.edit change : Transaction Unit) := by
  intro start value final run
  have same' := (Tx.edit_done _ _).mp run
  subst same'
  exact ⟨[], by simp [same], by simp⟩

theorem creates_bind (first : Transaction β) (next : β → Transaction α) (begins : Creates allowed first)
    (goes : ∀ value, Creates allowed (next value)) : Creates allowed (first >>= next) := by
  intro start value final run
  obtain ⟨between, middle, here, rest⟩ := (Tx.bind_done _ _).mp run
  obtain ⟨early, earlier, one⟩ := begins start between middle here
  obtain ⟨late, later, two⟩ := goes between middle value final rest
  refine ⟨early ++ late, by rw [later, earlier, List.append_assoc], fun activation listed => ?_⟩
  exact (List.mem_append.mp listed).elim (one activation) (two activation)

theorem creates_query (query : Store → Except Error β) (next : β → Transaction α)
    (goes : ∀ store value, query store = .ok value → Creates allowed (next value)) :
    Creates allowed (Tx.read query >>= next) := by
  intro start value final run
  obtain ⟨between, middle, here, rest⟩ := (Tx.bind_done _ _).mp run
  obtain ⟨found, rfl⟩ := (Tx.read_done _).mp here
  exact goes middle.store between found middle value final rest

theorem creates_ite (test : Prop) [Decidable test] (yes no : Transaction α) (first : Creates allowed yes)
    (second : Creates allowed no) : Creates allowed (if test then yes else no) := by
  split
  · exact first
  · exact second

theorem creates_each {ρ : Type} (step : ρ → Transaction Unit) (rows : List ρ)
    (rounds : ∀ row ∈ rows, Creates allowed (step row)) : Creates allowed (Tx.each step rows) := by
  induction rows with
  | nil => exact creates_pure ()
  | cons row rest ih =>
      exact creates_bind _ _ (rounds row (by simp)) fun _ => ih fun other listed => rounds other (by simp [listed])

theorem creates_new (world : World) (work : Work) (actorId : String) (reason : Reason) (manifest : List Mark)
    (notBefore : Option Int) (generation : Option Nat)
    (fits : ∀ activation : Activation, activation.workId = work.workId → activation.reason = reason →
      activation.manifest = manifest → allowed activation) :
    Creates allowed (createActivation world work actorId reason manifest notBefore generation) := by
  intro start id final run
  obtain ⟨actor, _, rfl, rfl⟩ := create_activation_done world work actorId reason manifest notBefore generation
    start final id run
  exact ⟨_, rfl, fun activation listed => by
    cases List.mem_singleton.mp listed
    exact fits _ rfl rfl rfl⟩

end Rules

def Serving (obligationId : String) (activation : Activation) : Prop :=
  (∀ id, Mark.obligation id ∈ activation.manifest → id = obligationId) ∧
    activation.reason ≠ .requestReply ∧ activation.reason ≠ .continueCheckpoint ∧
      activation.reason ≠ .ownershipTransferred

variable (world : World)

theorem evaluate_assignment_creates (obligationId : String) :
    Creates (Serving obligationId) (evaluateAssignmentWait world obligationId) := by
  rw [evaluateAssignmentWait]
  refine creates_bind _ _ (creates_ask _) fun obligation? => creates_bind _ _ (creates_ask _) fun row? => ?_
  cases obligation? with
  | none => exact creates_pure _
  | some obligation =>
      cases row? with
      | none => exact creates_pure _
      | some row =>
          refine creates_ite _ _ _ (creates_pure _) (creates_bind _ _ (creates_read _) fun allowed => ?_)
          refine creates_ite _ _ _ (creates_pure _) (creates_bind _ _ (creates_ask _) fun satisfied => ?_)
          cases satisfied with
          | none => exact creates_pure _
          | some outcomes =>
              refine creates_bind _ _ (creates_read _) fun active => ?_
              cases active with
              | some current => exact creates_pure _
              | none =>
                  refine creates_bind _ _ (creates_read _) fun work => creates_bind _ _ ?_ fun _ => creates_pure _
                  refine creates_new _ _ _ _ _ _ _ fun activation _ reason manifest => ⟨fun id marked => ?_, ?_⟩
                  · simpa [manifest] using marked
                  · simp [reason]

theorem rearm_route_creates (work : Work) (obligation : Obligation) (request : Option Request)
    (assignment : Option AssignmentCheckpoint) :
    Creates (Serving obligation.obligationId) (rearmObligationRoute world work obligation request assignment) := by
  rw [rearmObligationRoute]
  refine creates_bind _ _ (creates_ask _) fun stopped => ?_
  refine creates_ite _ _ _ (creates_pure _) (creates_ite _ _ _ (creates_pure _) ?_)
  cases assignment with
  | some row =>
      refine creates_ite _ _ _ (evaluate_assignment_creates world obligation.obligationId) ?_
      refine creates_bind _ _ (creates_read _) fun claim => ?_
      cases claim with
      | some current => exact creates_pure _
      | none =>
          refine creates_bind _ _ (creates_read _) fun active => ?_
          cases active with
          | some current => exact creates_pure _
          | none =>
              refine creates_bind _ _ ?_ fun _ => creates_pure _
              refine creates_new _ _ _ _ _ _ _ fun activation _ reason manifest => ⟨fun id marked => ?_, ?_⟩
              · simpa [manifest] using marked
              · rw [reason]
                split <;> simp
  | none =>
      cases request with
      | some linked =>
          refine creates_ite _ _ _ (creates_pure _) (creates_bind _ _ (creates_read _) fun active => ?_)
          split
          · exact creates_pure _
          · refine creates_bind _ _ ?_ fun _ => creates_bind _ _ (creates_edit _ fun _ => rfl) fun _ => creates_pure _
            refine creates_new _ _ _ _ _ _ _ fun activation _ reason manifest => ⟨fun id marked => ?_, ?_⟩
            · simpa [manifest] using marked
            · simp [reason]
      | none =>
          refine creates_ite _ _ _ (creates_pure _) ?_
          rw [scheduleObligationActivations]
          refine creates_bind _ _ (creates_ask _) fun _ => creates_ite _ _ _ (creates_pure _) ?_
          refine creates_bind _ _ ?_ fun _ => creates_bind _ _ (creates_each _ _ fun index _ => ?_)
            fun _ => creates_pure _
          · refine creates_new _ _ _ _ _ _ _ fun activation _ reason manifest => ⟨fun id marked => ?_, ?_⟩
            · simpa [manifest] using marked
            · simp [reason]
          · refine creates_bind _ _ ?_ fun _ => creates_pure _
            refine creates_new _ _ _ _ _ _ _ fun activation _ reason manifest => ⟨fun id marked => ?_, ?_⟩
            · simpa [manifest] using marked
            · simp [reason]

def Answering (requestId : String) (activation : Activation) : Prop :=
  activation.reason = .requestReply ∧ (∀ id, Mark.request id ∈ activation.manifest → id = requestId) ∧
    ∀ id, Mark.obligation id ∉ activation.manifest

theorem rebind_reply_creates (request : Request) :
    Creates (Answering request.requestId) (rebindReply world request) := by
  rw [rebindReply]
  refine creates_bind _ _ (creates_read _) fun work => creates_bind _ _ (creates_ask _) fun stopped => ?_
  refine creates_ite _ _ _ (creates_pure _) ?_
  refine creates_bind _ _ ?_ fun _ => creates_edit _ fun _ => rfl
  refine creates_new _ _ _ _ _ _ _ fun activation _ reason manifest =>
    ⟨reason, fun id marked => ?_, fun id marked => ?_⟩
  · simpa [manifest] using marked
  · simp [manifest] at marked

theorem evaluate_wait_creates (workId : String) :
    Creates (fun activation => activation.workId = workId ∧ activation.reason = .waitSatisfied)
      (evaluateWait world workId) := by
  rw [evaluateWait]
  refine creates_bind _ _ (creates_ask _) fun satisfied => creates_ite _ _ _ (creates_pure _) ?_
  refine creates_query _ _ fun store work found => creates_ite _ _ _ (creates_pure _) ?_
  refine creates_bind _ _ (creates_ask _) fun manifest => creates_bind _ _ (creates_read _) fun route => ?_
  cases route with
  | some active =>
      refine creates_bind _ _ ?_ fun _ => creates_pure _
      exact creates_ite _ _ _ (creates_bind _ _ (creates_read _) fun owner => creates_edit _ fun _ => rfl)
        (creates_pure _)
  | none =>
      refine creates_bind _ _ ?_ fun _ => creates_pure _
      refine creates_new _ _ _ _ _ _ _ fun activation place reason _ => ⟨?_, reason⟩
      exact place.trans (work_row_id (require_work_ok _ _ _ found))

theorem rebind_work_creates (work : Work) :
    Creates (fun activation => activation.workId = work.workId) (rebindWork world work) := by
  rw [rebindWork]
  refine creates_bind _ _ (creates_ask _) fun stopped => creates_ite _ _ _ (creates_pure _) ?_
  refine creates_ite _ _ _ ?_ (creates_ite _ _ _ ?_ (creates_pure _))
  · exact creates_bind _ _ (creates_new _ _ _ _ _ _ _ fun _ place _ _ => place) fun _ => creates_pure _
  · refine creates_bind _ _ ?_ fun _ => creates_pure _
    intro start value final run
    obtain ⟨created, same, all⟩ := evaluate_wait_creates world work.workId start value final run
    exact ⟨created, same, fun activation listed => (all activation listed).1⟩

end OrchestratorEngine.Continuity
