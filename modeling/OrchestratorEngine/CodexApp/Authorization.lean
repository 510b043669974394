import OrchestratorEngine.CodexApp.Delivery
import OrchestratorEngine.Foundation.Interleaving

set_option autoImplicit false

namespace OrchestratorEngine.CodexApp

open Foundation

-- What lets another attempt follow an attempt: its receipt recorded that the command
-- could not be launched, or a retry was called after it had begun.
def Excused (world : World) (attempt : Nat) : Prop :=
  attempt ∈ world.launchFailures ∨ ∃ called ∈ world.retries, attempt < called

instance (world : World) (attempt : Nat) : Decidable (Excused world attempt) := inferInstanceAs (Decidable (_ ∨ _))

def Licensed (world : World) : Prop :=
  world.acknowledged = false ∧ ∀ attempt < world.attempts, Excused world attempt

instance (world : World) : Decidable (Licensed world) := inferInstanceAs (Decidable (_ ∧ _))

def Authorized : Step → World → Prop
  | .begin call, world => (step (.begin call) world).isSome → Licensed world
  | _, _ => True

instance : ∀ label world, Decidable (Authorized label world)
  | .begin call, world => inferInstanceAs (Decidable ((step (.begin call) world).isSome → Licensed world))
  | .list _, _ | .enter _ _, _ | .look _, _ | .hold _ _, _ | .claim _, _ | .settle _ _, _ | .activate _, _
  | .spawn _ _, _ | .leave _, _ | .stop _, _ | .conclude _ _ _, _ | .load _ _, _ | .finalize _, _
  | .request _, _ | .inspect _, _ | .reopen _, _ => inferInstanceAs (Decidable True)

def pending (world : World) : Bool :=
  match world.holder with
  | some call =>
      match world.phase call with
      | .claimed _ => true
      | _ => false
  | none => false

-- A retry writes its receipt while no attempt is acknowledged, none has begun since it
-- was called and none is about to; a finalizer reads its receipt, or its turn ended.
def settled : Step → World → Bool
  | .reopen call, world =>
      match world.phase call with
      | .reopening attempts _ => decide (world.acknowledged = false ∧ world.attempts = attempts) && !pending world
      | _ => true
  | .load call readable, world =>
      match world.phase call with
      | .concluded turn _ => readable || turn.recorded.isSome
      | _ => true
  | _, _ => true

def Phase.Known (world : World) : Phase → Prop
  | .prepared _ => Licensed world
  | .claimed _ => Licensed world ∧ Closed world.receipt
  | .attempting _ attempt =>
      attempt + 1 = world.attempts ∧ world.acknowledged = false ∧ ∀ earlier < attempt, Excused world earlier
  | .activating | .handingOff | .awaiting | .concluded _ _ => world.acknowledged = true
  | .finalizing turn _ receipt =>
      world.acknowledged = true ∧ (receipt.delivered = true ∨ turn.recorded.isSome = true)
  | .requested attempts | .reopening attempts _ => attempts ∈ world.retries
  | .idle | .entered _ | .returning => True

structure Guarded (world : World) : Prop where
  disciplined : ∀ call, (world.phase call).locked = true → world.holder = some call
  known : ∀ call, (world.phase call).Known world
  closed : Closed world.receipt ∨ Licensed world
  delivered : world.acknowledged = true → ∃ receipt, world.receipt = some receipt ∧ receipt.delivered = true

namespace Phase

theorem Known.kept {world next : World} {phase : Phase} (known : phase.Known world)
    (attempts : phase.locked = true → next.attempts = world.attempts)
    (silent : phase.locked = true → next.acknowledged = world.acknowledged)
    (told : world.acknowledged = true → next.acknowledged = true)
    (failures : world.launchFailures ⊆ next.launchFailures) (retries : world.retries ⊆ next.retries)
    (receipt : (∃ mode, phase = .claimed mode) → Closed next.receipt) : phase.Known next := by
  have excused (attempt : Nat) (excused : Excused world attempt) : Excused next attempt := by
    cases excused with
    | inl failed => exact Or.inl (failures failed)
    | inr retried =>
        obtain ⟨called, listed, later⟩ := retried
        exact Or.inr ⟨called, retries listed, later⟩
  have licensed (same : next.attempts = world.attempts) (quiet : next.acknowledged = world.acknowledged)
      (licensed : Licensed world) : Licensed next := by
    refine ⟨quiet.trans licensed.1, ?_⟩
    intro attempt begun
    rw [same] at begun
    exact excused attempt (licensed.2 attempt begun)
  cases phase with
  | idle | entered | returning => trivial
  | prepared mode => exact licensed (attempts rfl) (silent rfl) known
  | claimed mode => exact ⟨licensed (attempts rfl) (silent rfl) known.1, receipt ⟨mode, rfl⟩⟩
  | attempting mode attempt =>
      obtain ⟨last, unacknowledged, earlier⟩ := known
      refine ⟨last.trans (attempts rfl).symm, (silent rfl).trans unacknowledged, ?_⟩
      intro before begun
      exact excused before (earlier before begun)
  | activating | handingOff | awaiting | concluded => exact told known
  | finalizing turn error delivery => exact ⟨told known.1, known.2⟩
  | requested called | reopening called delivery => exact retries known

end Phase

namespace Guarded

variable {world next : World} {call : Nat} {phase target : Phase}

theorem alone (guarded : Guarded world) (locked : (world.phase call).locked = true) (other : Nat)
    (apart : other ≠ call) :
    (world.phase other).locked = false := by
  rw [Bool.eq_false_iff]
  intro wrong
  have mine := guarded.disciplined call locked
  rw [guarded.disciplined other wrong] at mine
  exact apart (Option.some.inj mine)

theorem moved (guarded : Guarded world) (phases : next.phase = Function.update world.phase call target)
    (holder : ∀ other, other ≠ call → world.holder = some other → next.holder = some other)
    (lock : target.locked = true → next.holder = some call)
    (steady : (world.phase call).locked = true ∨
      (next.attempts = world.attempts ∧ next.acknowledged = world.acknowledged ∧
        ((∃ other mode, world.phase other = .claimed mode) → Closed next.receipt)))
    (told : world.acknowledged = true → next.acknowledged = true)
    (failures : world.launchFailures ⊆ next.launchFailures) (retries : world.retries ⊆ next.retries)
    (known : target.Known next) (closed : Closed next.receipt ∨ Licensed next)
    (delivered : next.acknowledged = true → ∃ receipt, next.receipt = some receipt ∧ receipt.delivered = true) :
    Guarded next := by
  refine ⟨?_, ?_, closed, delivered⟩
  · intro other locked
    rw [phases] at locked
    by_cases same : other = call
    · subst same
      rw [Function.update_self] at locked
      exact lock locked
    · rw [Function.update_of_ne same] at locked
      exact holder other same (guarded.disciplined other locked)
  · intro other
    rw [phases]
    by_cases same : other = call
    · subst same
      rw [Function.update_self]
      exact known
    · rw [Function.update_of_ne same]
      cases steady with
      | inl locked =>
          have free := guarded.alone locked other same
          have never {statement : Prop} (wrong : (world.phase other).locked = true) : statement :=
            absurd wrong (Bool.eq_false_iff.mp free)
          refine (guarded.known other).kept never never told failures retries ?_
          intro claimed
          obtain ⟨mode, claimed⟩ := claimed
          exact never (by rw [claimed]; rfl)
      | inr steady =>
          obtain ⟨attempts, silent, receipt⟩ := steady
          refine (guarded.known other).kept (fun _ => attempts) (fun _ => silent) told failures retries ?_
          intro claimed
          obtain ⟨mode, claimed⟩ := claimed
          exact receipt ⟨other, mode, claimed⟩

theorem claimed_closed (guarded : Guarded world) (claimed : ∃ other mode, world.phase other = .claimed mode) :
    Closed world.receipt := by
  obtain ⟨other, mode, claimed⟩ := claimed
  have known := guarded.known other
  rw [claimed] at known
  exact known.2

theorem claimed_unacknowledged (guarded : Guarded world) (claimed : ∃ other mode, world.phase other = .claimed mode) :
    world.acknowledged = false := by
  obtain ⟨other, mode, claimed⟩ := claimed
  have known := guarded.known other
  rw [claimed] at known
  exact known.1.1

theorem claimed_pending (guarded : Guarded world) (claimed : ∃ other mode, world.phase other = .claimed mode) :
    pending world = true := by
  obtain ⟨other, mode, claimed⟩ := claimed
  have holds := guarded.disciplined other (by rw [claimed]; rfl)
  unfold pending
  rw [holds]
  simp only [claimed]

theorem goto (guarded : Guarded world) (call : Nat) (target : Phase)
    (lock : target.locked = true → (world.phase call).locked = true) (known : target.Known (world.goto call target)) :
    Guarded (world.goto call target) := by
  refine guarded.moved rfl (fun _ _ held => held) ?_ (Or.inr ⟨rfl, rfl, guarded.claimed_closed⟩) id
    (List.Subset.refl _) (List.Subset.refl _) known guarded.closed guarded.delivered
  intro locked
  exact guarded.disciplined call (lock locked)

theorem released (guarded : Guarded world) (call : Nat) : Guarded ((world.goto call .idle).release call) := by
  refine guarded.moved rfl ?_ nofun (Or.inr ⟨rfl, rfl, guarded.claimed_closed⟩) id
    (List.Subset.refl _) (List.Subset.refl _) trivial guarded.closed guarded.delivered
  intro other apart held
  have distinct : world.holder ≠ some call := by
    rw [held]
    exact fun same => apart (Option.some.inj same)
  exact (if_neg distinct).trans held

theorem written (guarded : Guarded world) (locked : (world.phase call).locked = true) (receipt : Receipt)
    (known : target.Known ((world.goto call target).write receipt))
    (closed : Closed (some receipt) ∨ Licensed ((world.goto call target).write receipt))
    (delivered : world.acknowledged = true → receipt.delivered = true) :
    Guarded ((world.goto call target).write receipt) := by
  refine guarded.moved rfl (fun _ _ held => held) ?_ (Or.inl locked) id (List.Subset.refl _) (List.Subset.refl _)
    known closed ?_
  · exact fun _ => guarded.disciplined call locked
  · exact fun acknowledged => ⟨receipt, rfl, delivered acknowledged⟩

theorem acknowledged (guarded : Guarded world) (locked : (world.phase call).locked = true) (receipt : Receipt)
    (known : target.Known ((world.goto call target).acknowledge receipt)) (delivered : receipt.delivered = true) :
    Guarded ((world.goto call target).acknowledge receipt) := by
  refine guarded.moved rfl (fun _ _ held => held) ?_ (Or.inl locked) (fun _ => rfl) (List.Subset.refl _)
    (List.Subset.refl _) known (Or.inl (closed_delivered receipt delivered)) ?_
  · exact fun _ => guarded.disciplined call locked
  · exact fun _ => ⟨receipt, rfl, delivered⟩

end Guarded

theorem outcome_receipt (mode : DeliveryMode) (outcome : Outcome) (receipt : Receipt)
    (told : outcome.receipt mode = some receipt) (launched : ∀ error, outcome ≠ .launchFailed error) :
    receipt.delivered = true ∨ (outcome.next = .returning ∧ receipt.delivered = false ∧ Closed (some receipt)) := by
  cases mode with
  | sessionQueue =>
      cases outcome with
      | launchFailed error => exact absurd rfl (launched error)
      | timedOut | exited | unmatched =>
          cases told
          exact Or.inr ⟨rfl, rfl, closed_ambiguous _ _ rfl⟩
      | acknowledged =>
          cases told
          exact Or.inl rfl
      | failed | running | ended => cases told
  | headlessAppServerTurn =>
      cases outcome with
      | timedOut | launchFailed | exited | unmatched | acknowledged => cases told
      | failed =>
          cases told
          exact Or.inr ⟨rfl, rfl, closed_ambiguous _ _ rfl⟩
      | running =>
          cases told
          exact Or.inl rfl
      | ended turn =>
          cases turn with
          | failed =>
              cases told
              exact Or.inr ⟨rfl, rfl, closed_ambiguous _ _ rfl⟩
          | completed | interrupted | running | other =>
              cases told
              exact Or.inl (started_delivered _)

theorem next_known (outcome : Outcome) (world : World) (acknowledged : world.acknowledged = true) :
    outcome.next.Known world := by
  cases outcome with
  | acknowledged | running => exact acknowledged
  | timedOut | launchFailed | exited | unmatched | failed | ended => trivial

theorem settle_guarded (world next : World) (call attempt : Nat) (mode : DeliveryMode) (outcome : Outcome)
    (guarded : Guarded world) (attempting : world.phase call = .attempting mode attempt)
    (taken : settle world call attempt mode outcome = some next) : Guarded next := by
  have locked : (world.phase call).locked = true := by
    rw [attempting]
    rfl
  have known := guarded.known call
  rw [attempting] at known
  obtain ⟨last, unacknowledged, earlier⟩ := known
  obtain ⟨receipt, told, rfl⟩ := Option.map_eq_some_iff.mp taken
  have settled (launched : ∀ error, outcome ≠ .launchFailed error) :
      Guarded (if receipt.delivered then (world.goto call outcome.next).acknowledge receipt
        else (world.goto call outcome.next).write receipt) := by
    cases outcome_receipt mode outcome receipt told launched with
    | inl delivered =>
        rw [if_pos delivered]
        exact guarded.acknowledged locked receipt (next_known outcome _ rfl) delivered
    | inr ambiguous =>
        obtain ⟨returns, undelivered, closed⟩ := ambiguous
        rw [undelivered, if_neg Bool.false_ne_true, returns]
        refine guarded.written locked receipt trivial (Or.inl closed) ?_
        exact fun wrong => absurd (unacknowledged.symm.trans wrong) Bool.false_ne_true
  cases outcome with
  | launchFailed error =>
      refine guarded.moved rfl (fun _ _ held => held) (fun _ => guarded.disciplined call locked) (Or.inl locked) id
        (List.subset_cons_self _ _) (List.Subset.refl _) trivial (Or.inr ⟨unacknowledged, ?_⟩) ?_
      · intro before begun
        have ordered : before < attempt ∨ before = attempt := by
          have : before < world.attempts := begun
          omega
        cases ordered with
        | inl less => exact (earlier before less).imp (List.mem_cons_of_mem attempt) id
        | inr same => exact Or.inl (same ▸ List.mem_cons_self)
      · exact fun wrong => absurd (unacknowledged.symm.trans wrong) Bool.false_ne_true
  | timedOut | exited | unmatched | acknowledged | failed | running | ended => exact settled (by simp)

theorem finalize_guarded (world : World) (call : Nat) (turn : TurnStatus) (error : Option String) (receipt : Receipt)
    (guarded : Guarded world) (finalizing : world.phase call = .finalizing turn error receipt) :
    Guarded { (world.goto call .idle).write (receipt.finalized turn error) with
      acknowledged := world.acknowledged || decide (turn = .completed) } := by
  have known := guarded.known call
  rw [finalizing] at known
  obtain ⟨acknowledged, told⟩ := known
  have delivered := finalized_delivered receipt turn error told
  have kept : (world.acknowledged || decide (turn = .completed)) = true := by
    rw [acknowledged, Bool.true_or]
  refine guarded.moved rfl (fun _ _ held => held) nofun (Or.inr ⟨rfl, kept.trans acknowledged.symm, ?_⟩) (fun _ => kept)
    (List.Subset.refl _) (List.Subset.refl _) trivial (Or.inl (closed_delivered _ delivered))
    (fun _ => ⟨_, rfl, delivered⟩)
  intro claimed
  rw [guarded.claimed_unacknowledged claimed] at acknowledged
  exact absurd acknowledged Bool.false_ne_true

theorem reopen_guarded (world : World) (call attempts : Nat) (delivery : Receipt) (guarded : Guarded world)
    (reopening : world.phase call = .reopening attempts delivery) (met : settled (.reopen call) world = true) :
    Guarded ((world.goto call .idle).write delivery.reopened) := by
  have listed := guarded.known call
  rw [reopening] at listed
  simp only [settled, reopening, Bool.and_eq_true, decide_eq_true_eq, Bool.not_eq_true'] at met
  obtain ⟨⟨unacknowledged, current⟩, clear⟩ := met
  refine guarded.moved rfl (fun _ _ held => held) nofun (Or.inr ⟨rfl, rfl, ?_⟩) id
    (List.Subset.refl _) (List.Subset.refl _) trivial (Or.inr ⟨unacknowledged, ?_⟩) ?_
  · intro claimed
    exact absurd (clear.symm.trans (guarded.claimed_pending claimed)) Bool.false_ne_true
  · intro attempt begun
    exact Or.inr ⟨attempts, listed, current ▸ begun⟩
  · exact fun wrong => absurd (unacknowledged.symm.trans wrong) Bool.false_ne_true

theorem list_guarded (world : World) (listed : Bool) (guarded : Guarded world) : Guarded { world with listed } :=
  guarded.moved (Function.update_eq_self 0 world.phase).symm (fun _ _ held => held) (guarded.disciplined 0)
    (Or.inr ⟨rfl, rfl, guarded.claimed_closed⟩) id (List.Subset.refl _) (List.Subset.refl _)
    ((guarded.known 0).kept (fun _ => rfl) (fun _ => rfl) id (List.Subset.refl _) (List.Subset.refl _)
      fun claimed => guarded.claimed_closed ⟨0, claimed⟩)
    guarded.closed guarded.delivered

theorem enter_guarded (world : World) (call : Nat) (mode : DeliveryMode) (guarded : Guarded world)
    (free : world.holder = none) : Guarded { world.goto call (.entered mode) with holder := some call } := by
  refine guarded.moved rfl ?_ (fun _ => rfl) (Or.inr ⟨rfl, rfl, guarded.claimed_closed⟩) id
    (List.Subset.refl _) (List.Subset.refl _) trivial guarded.closed guarded.delivered
  intro other apart held
  rw [free] at held
  cases held

theorem request_guarded (world : World) (call : Nat) (guarded : Guarded world) :
    Guarded { world.goto call (.requested world.attempts) with retries := world.attempts :: world.retries } := by
  refine guarded.moved rfl (fun _ _ held => held) nofun (Or.inr ⟨rfl, rfl, guarded.claimed_closed⟩) id
    (List.Subset.refl _) (List.subset_cons_self _ _) List.mem_cons_self ?_ guarded.delivered
  cases guarded.closed with
  | inl closed => exact Or.inl closed
  | inr licensed =>
      refine Or.inr ⟨licensed.1, ?_⟩
      intro attempt begun
      exact Or.inr ⟨world.attempts, List.mem_cons_self, begun⟩

theorem begin_guarded (world : World) (call : Nat) (mode : DeliveryMode) (guarded : Guarded world)
    (claimed : world.phase call = .claimed mode) :
    Guarded { world.goto call (.attempting mode world.attempts) with attempts := world.attempts + 1 } := by
  have locked : (world.phase call).locked = true := by
    rw [claimed]
    rfl
  have known := guarded.known call
  rw [claimed] at known
  obtain ⟨licensed, closed⟩ := known
  exact guarded.moved rfl (fun _ _ held => held) (fun _ => guarded.disciplined call locked) (Or.inl locked) id
    (List.Subset.refl _) (List.Subset.refl _) ⟨rfl, licensed.1, licensed.2⟩ (Or.inl closed) guarded.delivered

theorem step_guarded (label : Step) (world next : World) (guarded : Guarded world) (met : settled label world = true)
    (taken : step label world = some next) : Guarded next := by
  cases label with
  | list listed =>
      cases taken
      exact list_guarded world listed guarded
  | enter call mode =>
      simp only [step] at taken
      split at taken
      · cases taken
        exact enter_guarded world call mode guarded (by assumption)
      · cases taken
  | look call =>
      simp only [step] at taken
      split at taken
      · rename_i mode entered
        have locked : (world.phase call).locked = true := by
          rw [entered]
          rfl
        split at taken
        · cases taken
          exact guarded.goto call .returning (fun _ => locked) trivial
        · rename_i unanswered
          cases taken
          have opened : ¬ Closed world.receipt := by
            unfold Closed
            rw [unanswered]
            exact Bool.false_ne_true
          exact guarded.goto call (.prepared mode) (fun _ => locked) (guarded.closed.resolve_left opened)
      · cases taken
  | hold call reason =>
      simp only [step] at taken
      split at taken
      · rename_i prepared
        cases taken
        have licensed := guarded.known call
        rw [prepared] at licensed
        refine guarded.written (by rw [prepared]; rfl) _ trivial (Or.inr licensed) ?_
        exact fun wrong => absurd (licensed.1.symm.trans wrong) Bool.false_ne_true
      · cases taken
  | claim call =>
      simp only [step] at taken
      split at taken
      · rename_i mode prepared
        cases taken
        have licensed := guarded.known call
        rw [prepared] at licensed
        refine guarded.written (by rw [prepared]; rfl) _ ⟨licensed, closed_claimed mode⟩
          (Or.inl (closed_claimed mode)) ?_
        exact fun wrong => absurd (licensed.1.symm.trans wrong) Bool.false_ne_true
      · cases taken
  | begin call =>
      simp only [step] at taken
      split at taken
      · rename_i mode claimed
        cases taken
        exact begin_guarded world call mode guarded claimed
      · cases taken
  | settle call outcome =>
      simp only [step] at taken
      split at taken
      · rename_i mode attempt attempting
        exact settle_guarded world next call attempt mode outcome guarded attempting taken
      · cases taken
  | activate call =>
      simp only [step] at taken
      split at taken
      · rename_i activating
        cases taken
        exact guarded.written (by rw [activating]; rfl) _ trivial (Or.inl (closed_delivered _ rfl)) fun _ => rfl
      · cases taken
  | spawn call finalizer =>
      simp only [step] at taken
      split at taken
      · rename_i handing idle
        cases taken
        have acknowledged := guarded.known call
        rw [handing] at acknowledged
        have returned := guarded.goto call .returning (fun _ => by rw [handing]; rfl) trivial
        exact returned.goto finalizer .awaiting nofun acknowledged
      · cases taken
  | leave call =>
      simp only [step] at taken
      split at taken
      · cases taken
        exact guarded.released call
      · cases taken
        exact guarded.released call
      · cases taken
  | stop call =>
      cases taken
      exact guarded.released call
  | conclude call turn error =>
      simp only [step] at taken
      split at taken
      · rename_i awaiting
        cases taken
        have acknowledged := guarded.known call
        rw [awaiting] at acknowledged
        exact guarded.goto call (.concluded turn error) nofun acknowledged
      · cases taken
  | load call readable =>
      simp only [step] at taken
      split at taken
      · rename_i turn error concluded
        cases taken
        have acknowledged := guarded.known call
        rw [concluded] at acknowledged
        simp only [settled, concluded, Bool.or_eq_true] at met
        refine guarded.goto call _ nofun ⟨acknowledged, met.imp ?_ id⟩
        intro readable
        obtain ⟨receipt, present, delivered⟩ := guarded.delivered acknowledged
        rw [loaded, if_pos readable, present]
        exact delivered
      · cases taken
  | finalize call =>
      simp only [step] at taken
      split at taken
      · rename_i turn error receipt finalizing
        cases taken
        exact finalize_guarded world call turn error receipt guarded finalizing
      · cases taken
  | request call =>
      simp only [step] at taken
      split at taken
      · cases taken
        exact request_guarded world call guarded
      · cases taken
  | inspect call =>
      simp only [step] at taken
      split at taken
      · rename_i attempts requested
        have listed := guarded.known call
        rw [requested] at listed
        split at taken
        · split at taken
          · cases taken
            exact guarded.goto call (.reopening attempts _) nofun listed
          · cases taken
            exact guarded.goto call .idle nofun trivial
        · cases taken
          exact guarded.goto call .idle nofun trivial
      · cases taken
  | reopen call =>
      simp only [step] at taken
      split at taken
      · rename_i attempts delivery reopening
        cases taken
        exact reopen_guarded world call attempts delivery guarded reopening met
      · cases taken

theorem start_guarded : Guarded World.start :=
  ⟨nofun, fun _ => trivial, Or.inr (by decide), nofun⟩

theorem guarded_authorized (label : Step) (world : World) (guarded : Guarded world) : Authorized label world := by
  cases label with
  | begin call =>
      intro enabled
      obtain ⟨next, taken⟩ := Option.isSome_iff_exists.mp enabled
      simp only [step] at taken
      split at taken
      · rename_i claimed
        have known := guarded.known call
        rw [claimed] at known
        exact known.1
      · cases taken
  | _ => trivial

theorem deliveries_authorized (schedule : List Step)
    (met : Meets step (fun label world => settled label world = true) schedule World.start) :
    Meets step Authorized schedule World.start :=
  Meets.guided Guarded step_guarded (fun label world guarded _ => guarded_authorized label world guarded) schedule
    World.start start_guarded met

def delivery (call : Nat) (outcome : Outcome) : List Step :=
  [.enter call .sessionQueue, .look call, .claim call, .begin call, .settle call outcome, .leave call]

def retry (call : Nat) : List Step := [.request call, .inspect call, .reopen call]

theorem retried_delivery_authorized :
    Meets step Authorized (delivery 0 (.timedOut "30 seconds") ++ .list true :: retry 1 ++ delivery 0 .acknowledged)
      World.start :=
  deliveries_authorized _ (by decide)

theorem overlapping_retry_redelivers : ¬ ∀ schedule, Meets step Authorized schedule World.start := by
  intro every
  exact absurd (every (delivery 0 (.timedOut "30 seconds") ++ .list true :: retry 1 ++
    [.enter 0 .sessionQueue, .look 0, .claim 0, .request 1, .inspect 1, .begin 0, .settle 0 .acknowledged, .leave 0,
      .reopen 1] ++ delivery 0 .acknowledged)) (by decide)

end OrchestratorEngine.CodexApp
