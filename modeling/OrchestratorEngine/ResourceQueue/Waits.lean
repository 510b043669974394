import Mathlib
import OrchestratorEngine.ResourceQueue.Passes

set_option autoImplicit false

namespace OrchestratorEngine.ResourceQueue

open Foundation

def sumItems : List (Reason × Option Time) → Option Time
  | [] => some 0
  | (_, spent) :: rest => do return (← spent) + (← sumItems rest)

def waited (seconds : Dict Reason (Option Time)) : Option Time := sumItems seconds.items

variable (reason : Reason)

theorem sum_items_cons (spent : Option Time) (rest : List (Reason × Option Time)) (total : Time) :
    sumItems ((reason, spent) :: rest) = some total ↔
      ∃ known, spent = some known ∧ ∃ others, sumItems rest = some others ∧ total = known + others := by
  cases spent with
  | none => simp [sumItems]
  | some known =>
      cases sum : sumItems rest with
      | none => simp [sumItems, sum]
      | some others => simp [sumItems, sum, eq_comm]

theorem sum_known (items : List (Reason × Option Time)) (total : Time)
    (known : sumItems items = some total) : ∃ spent, (Dict.getItem reason items).getD (some 0) = some spent := by
  induction items generalizing total with
  | nil => exact ⟨0, rfl⟩
  | cons item rest ih =>
      obtain ⟨other, kept⟩ := item
      obtain ⟨spent, rfl, others, sum, _⟩ := (sum_items_cons other kept rest total).mp known
      by_cases same : reason = other
      · exact ⟨spent, by simp [Dict.getItem, same]⟩
      · obtain ⟨found, here⟩ := ih others sum
        exact ⟨found, by rw [Dict.getItem, if_neg same, here]⟩

theorem sum_charged (items : List (Reason × Option Time)) (total spent duration : Time)
    (known : sumItems items = some total) (found : (Dict.getItem reason items).getD (some 0) = some spent) :
    sumItems (Dict.setItems reason (some (spent + duration)) items) = some (total + duration) := by
  induction items generalizing total with
  | nil =>
      cases known
      cases found
      simp [Dict.setItems, sumItems]
  | cons item rest ih =>
      obtain ⟨other, kept⟩ := item
      obtain ⟨already, rfl, others, sum, rfl⟩ := (sum_items_cons other kept rest total).mp known
      by_cases same : reason = other
      · subst same
        have here : spent = already := by simpa [Dict.getItem, eq_comm] using found
        rw [Dict.setItems, if_pos rfl]
        exact (sum_items_cons _ _ _ _).mpr ⟨_, rfl, others, sum, by grind⟩
      · rw [Dict.getItem, if_neg same] at found
        rw [Dict.setItems, if_neg (Ne.symm same)]
        exact (sum_items_cons _ _ _ _).mpr ⟨already, rfl, _, ih others sum found, by grind⟩

structure Account where
  state : State
  reason : Option Reason
  seconds : Dict Reason (Option Time)
  transition : Option Time
deriving DecidableEq

def Stage.account (stage : Stage) : Account := ⟨stage.state, stage.reason, stage.waitSeconds, stage.transitionAt⟩

theorem accumulated_waited (old : Stage) (now moment total : Time) (waiting : old.state = .waiting)
    (known : waited old.waitSeconds = some total) (moved : old.transitionAt = some moment) (later : moment ≤ now) :
    waited (accumulated old now) = some (total + (now - moment)) := by
  obtain ⟨spent, found⟩ := sum_known (old.reason.getD .unknown) old.waitSeconds.items total known
  have entry : (old.waitSeconds.get? (old.reason.getD .unknown)).getD (some 0) = some spent := found
  have forward : 0 ≤ now - moment := Int.sub_nonneg_of_le later
  simp only [accumulated, waiting, if_true, moved, Option.getD_some, entry, forward]
  exact sum_charged _ _ total spent (now - moment) known found

-- What saves between two draws of the clock do to one account: while it waits
-- the time that passes is added up, and once it has left waiting it is closed.
structure Accrues (host : Host) (low high : Nat) (old new : Account) : Prop where
  order : low ≤ high
  closed : old.state ≠ .waiting → new = old
  charged : old.state = .waiting → new = old ∨ ∃ draw, low ≤ draw ∧ draw < high ∧
    new.transition = some (host.clock draw) ∧ ∀ total moment, waited old.seconds = some total →
      old.transition = some moment → moment ≤ host.clock low →
        waited new.seconds = some (total + (host.clock draw - moment))

variable (host : Host)

theorem Accrues.refl (low high : Nat) (order : low ≤ high) (account : Account) :
    Accrues host low high account account :=
  ⟨order, fun _ => rfl, fun _ => .inl rfl⟩

theorem Accrues.trans {host : Host} (steady : Monotone host.clock) {low middle high : Nat}
    {first second third : Account}
    (lower : Accrues host low middle first second) (upper : Accrues host middle high second third) :
    Accrues host low high first third := by
  refine ⟨Nat.le_trans lower.order upper.order, fun closed => ?_, fun waiting => ?_⟩
  · have same := lower.closed closed
    exact (upper.closed (same ▸ closed)).trans same
  · rcases lower.charged waiting with rfl | ⟨early, above, below, moved, sum⟩
    · rcases upper.charged waiting with rfl | ⟨late, above, below, moved, sum⟩
      · exact .inl rfl
      · refine .inr ⟨late, Nat.le_trans lower.order above, below, moved, fun total moment known at_ before => ?_⟩
        exact sum total moment known at_ (Int.le_trans before (steady lower.order))
    · have within : early < high := Nat.lt_of_lt_of_le below upper.order
      by_cases still : second.state = .waiting
      · rcases upper.charged still with rfl | ⟨late, above', below', moved', sum'⟩
        · exact .inr ⟨early, above, within, moved, sum⟩
        · refine .inr ⟨late, Nat.le_trans lower.order above', below', moved', fun total moment known at_ before => ?_⟩
          have first := sum total moment known at_ before
          have second := sum' _ _ first moved (steady (Nat.le_of_lt below))
          rw [second]
          congr 1
          grind
      · rw [upper.closed still]
        exact .inr ⟨early, above, within, moved, sum⟩

def Accrue (host : Host) (before after : Ledger) : Prop :=
  ∀ old ∈ before.stages, ∃ new ∈ after.stages, new.id = old.id ∧
    Accrues host before.draws after.draws old.account new.account

theorem Accrue.of_same (before after : Ledger) (order : before.draws ≤ after.draws)
    (kept : ∀ old ∈ before.stages, old ∈ after.stages) : Accrue host before after :=
  fun old stored => ⟨old, kept old stored, rfl, Accrues.refl host _ _ order _⟩

theorem Accrue.trans {host : Host} (steady : Monotone host.clock) {first second third : Ledger}
    (lower : Accrue host first second) (upper : Accrue host second third) : Accrue host first third := by
  intro old stored
  obtain ⟨middle, kept, same, early⟩ := lower old stored
  obtain ⟨new, present, again, late⟩ := upper middle kept
  exact ⟨new, present, again.trans same, early.trans steady late⟩

def Synced (ledger : Ledger) (copy : Stage) : Prop :=
  ∃ row ∈ ledger.stages, row.id = copy.id ∧ row.account = copy.account

variable (ledger : Ledger)

theorem save_account (stage old : Stage)
    (found : row? Stage.id stage.id ledger.stages = some old) :
    stage.state = old.state ∧ stage.reason = old.reason ∧ ledger.save host stage =
        ({ ledger with stages := put Stage.id stage ledger.stages }, stage) ∨
      (ledger.save host stage).2.account =
        ⟨stage.state, stage.reason, accumulated old (host.clock ledger.draws), some (host.clock ledger.draws)⟩ ∧
      (ledger.save host stage).1.draws = ledger.draws + 1 := by
  simp only [Ledger.save, found]
  by_cases same : old.state = stage.state ∧ old.reason = stage.reason
  · exact .inl ⟨same.1.symm, same.2.symm, by rw [if_pos same]⟩
  · rw [if_neg same]
    exact .inr ⟨rfl, rfl⟩

theorem save_accrues (stage copy : Stage) (unique : (stageIds ledger).Nodup)
    (synced : Synced ledger copy) (key : stage.id = copy.id) (seconds : stage.waitSeconds = copy.waitSeconds)
    (transition : stage.transitionAt = copy.transitionAt)
    (closed : copy.state = .waiting ∨ stage.account = copy.account) :
    Accrue host ledger (ledger.save host stage).1 := by
  obtain ⟨row, stored, same, account⟩ := synced
  have saves := save_saves host ledger stage
  have found : row? Stage.id stage.id ledger.stages = some row := by
    rw [key, ← same]
    exact row_of_mem Stage.id ledger.stages unique row stored
  have written : (ledger.save host stage).2 ∈ (ledger.save host stage).1.stages := (saves.mem_iff _).mpr (.inl rfl)
  have rowState : row.state = copy.state := congrArg Account.state account
  have rowReason : row.reason = copy.reason := congrArg Account.reason account
  have rowSeconds : row.waitSeconds = copy.waitSeconds := congrArg Account.seconds account
  have rowTransition : row.transitionAt = copy.transitionAt := congrArg Account.transition account
  intro old present
  by_cases here : old.id = stage.id
  · have match_ : old = row := row_unique Stage.id ledger.stages unique old row present stored
      (here.trans (key.trans same.symm))
    subst match_
    refine ⟨_, written, (fixed_id _ _ saves.alike.1).trans here.symm, ?_⟩
    rcases save_account host ledger stage old found with ⟨state, reason, result⟩ | ⟨charged, draws⟩
    · rw [result]
      have still : stage.account = old.account := by
        simp only [Stage.account, state, reason, seconds, transition, rowSeconds, rowTransition]
      rw [still]
      exact Accrues.refl host _ _ (Nat.le_refl _) _
    · rw [charged, draws]
      refine ⟨Nat.le_succ _, fun done => ?_, fun waiting => .inr ⟨ledger.draws, Nat.le_refl _,
        Nat.lt_succ_self _, rfl, ?_⟩⟩
      · -- a closed account is saved under its own state and reason, so nothing is charged
        have equal : stage.account = old.account :=
          (closed.resolve_left fun waiting => done (rowState.trans waiting)).trans account.symm
        have state : stage.state = old.state := congrArg Account.state equal
        have reason : stage.reason = old.reason := congrArg Account.reason equal
        have result : (ledger.save host stage).1.draws = ledger.draws := by
          simp only [Ledger.save, found, state, reason, and_self, if_true]
        omega
      · exact fun total moment known moved before => accumulated_waited old _ moment total waiting known moved before
  · exact ⟨old, (saves.mem_iff old).mpr (.inr ⟨present, here⟩), rfl, Accrues.refl host _ _ saves.frame.draws _⟩

theorem save_synced (stage : Stage) :
    Synced (ledger.save host stage).1 (ledger.save host stage).2 :=
  ⟨_, ((save_saves host ledger stage).mem_iff _).mpr (.inl rfl), rfl, rfl⟩

theorem save_keeps (stage copy : Stage) (other : copy.id ≠ stage.id)
    (synced : Synced ledger copy) : Synced (ledger.save host stage).1 copy := by
  obtain ⟨row, stored, same, account⟩ := synced
  refine ⟨row, ((save_saves host ledger stage).mem_iff row).mpr (.inr ⟨stored, ?_⟩), same, account⟩
  rwa [same]

theorem Synced.of_stages {before after : Ledger} {copy : Stage} (same : after.stages = before.stages)
    (synced : Synced before copy) : Synced after copy := by
  obtain ⟨row, stored, rest⟩ := synced
  exact ⟨row, same ▸ stored, rest⟩

theorem Accrue.after_draws {host : Host} (steady : Monotone host.clock) {before drawn after : Ledger}
    (stages : drawn.stages = before.stages) (draws : before.draws ≤ drawn.draws) (accrue : Accrue host drawn after) :
    Accrue host before after :=
  (Accrue.of_same host before drawn draws fun _ stored => stages.symm ▸ stored).trans steady accrue

-- What one step of a pass does: accounts accrue, the copy it returns agrees
-- with its row, and the copies of other stages still do.
structure Bills (host : Host) (before : Ledger) (stage : Stage) (after : Ledger) (row : Stage) : Prop where
  ids : stageIds after = stageIds before
  accrue : Accrue host before after
  key : row.id = stage.id
  synced : Synced after row
  others : ∀ copy, copy.id ≠ stage.id → Synced before copy → Synced after copy

theorem save_bills (steady : Monotone host.clock) (before drawn : Ledger) (copy stage : Stage)
    (unique : (stageIds before).Nodup) (stages : drawn.stages = before.stages) (draws : before.draws ≤ drawn.draws)
    (synced : Synced before copy) (key : stage.id = copy.id) (seconds : stage.waitSeconds = copy.waitSeconds)
    (transition : stage.transitionAt = copy.transitionAt)
    (closed : copy.state = .waiting ∨ stage.account = copy.account) :
    Bills host before copy (drawn.save host stage).1 (drawn.save host stage).2 := by
  have ids : (stageIds drawn).Nodup := by rwa [stageIds, stages]
  have present : stage.id ∈ stageIds drawn := by
    obtain ⟨row, stored, same, _⟩ := synced
    rw [stageIds, stages, key, ← same]
    exact List.mem_map_of_mem stored
  refine ⟨((save_saves host drawn stage).keys present).trans (by rw [stageIds, stages, stageIds]), ?_,
    (fixed_id _ _ (save_saves host drawn stage).alike.1).trans key, save_synced host drawn stage, ?_⟩
  · exact (save_accrues host drawn stage copy ids (synced.of_stages stages) key seconds transition
      closed).after_draws steady stages draws
  · exact fun other different agrees => save_keeps host drawn stage other (key ▸ different) (agrees.of_stages stages)

theorem gate_stage_bills (steady : Monotone host.clock) (unavailable : List Name) (ledger : Ledger)
    (stage : Stage) (listed : stage ∈ ledger.stages) (unique : (stageIds ledger).Nodup) :
    Bills host ledger stage (gateStage host unavailable ledger stage).1
    (gateStage host unavailable ledger stage).2 := by
  have here : Synced ledger stage := ⟨stage, listed, rfl, rfl⟩
  by_cases waiting : stage.state = .waiting
  · cases verdict : gateReason unavailable ledger stage with
    | none =>
        by_cases known : stage.readySeq.isSome = true
        · rw [gate_stage_known host unavailable ledger stage waiting verdict known]
          exact ⟨rfl, .of_same host _ _ (Nat.le_refl _) fun _ stored => stored, rfl, here, fun _ _ agrees => agrees⟩
        · rw [gate_stage_numbered host unavailable ledger stage waiting verdict known]
          exact ⟨rfl, .of_same host _ _ (Nat.le_succ _) fun _ stored => stored, rfl, ⟨stage, listed, rfl, rfl⟩,
            fun _ _ agrees => agrees⟩
    | some reason =>
        by_cases failed : reason = .dependencyFailed
        · subst failed
          rw [gate_stage_failed host unavailable ledger stage waiting verdict]
          exact save_bills host steady ledger _ stage _ unique rfl (Nat.le_succ _) here rfl rfl rfl (.inl waiting)
        · rw [gate_stage_closed host unavailable ledger stage waiting reason failed verdict]
          exact save_bills host steady ledger _ stage _ unique rfl (Nat.le_refl _) here rfl rfl rfl (.inl waiting)
  · have still : gateStage host unavailable ledger stage = (ledger, stage) := if_pos waiting
    rw [still]
    exact ⟨rfl, .of_same host _ _ (Nat.le_refl _) fun _ stored => stored, rfl, here, fun _ _ agrees => agrees⟩

theorem gate_stages_bill (steady : Monotone host.clock) (unavailable : List Name) (stages : List Stage)
    (ledger : Ledger) (listed : ∀ stage ∈ stages, stage ∈ ledger.stages)
    (distinct : (stages.map (fun stage => stage.id)).Nodup) (unique : (stageIds ledger).Nodup) :
    stageIds (gateStages host unavailable ledger stages).1 = stageIds ledger ∧
      Accrue host ledger (gateStages host unavailable ledger stages).1 ∧
      (∀ copy ∈ (gateStages host unavailable ledger stages).2,
      Synced (gateStages host unavailable ledger stages).1 copy) ∧
      ∀ copy, copy.id ∉ stages.map (fun stage => stage.id) → Synced ledger copy →
        Synced (gateStages host unavailable ledger stages).1 copy := by
  induction stages generalizing ledger with
  | nil =>
      exact ⟨rfl, .of_same host _ _ (Nat.le_refl _) fun _ stored => stored,
        fun copy member => absurd member List.not_mem_nil, fun _ _ agrees => agrees⟩
  | cons stage rest ih =>
      have step := gate_stage_step host unavailable ledger stage (listed stage (by simp)) unique
      have bills := gate_stage_bills host steady unavailable ledger stage (listed stage (by simp)) unique
      rw [gateStages]
      generalize gateStage host unavailable ledger stage = result at step bills ⊢
      obtain ⟨middle, row⟩ := result
      simp only at step bills ⊢
      obtain ⟨fresh, distinctRest⟩ := List.nodup_cons.mp distinct
      have apart : ∀ later ∈ rest, later.id ≠ stage.id := fun later member same =>
        fresh (List.mem_map.mpr ⟨later, member, same⟩)
      obtain ⟨ids, accrue, copies, others⟩ := ih middle
        (fun later member => step.others later (listed later (by simp [member])) (apart later member)) distinctRest
        (by rw [bills.ids]; exact unique)
      refine ⟨ids.trans bills.ids, bills.accrue.trans steady accrue, fun copy member => ?_,
        fun copy outside agrees => ?_⟩
      · rcases List.mem_cons.mp member with rfl | later
        · exact others copy (bills.key ▸ fresh) bills.synced
        · exact copies copy later
      · rw [List.map_cons, List.mem_cons, not_or] at outside
        exact others copy outside.2 (bills.others copy outside.1 agrees)

theorem bypass_bills (steady : Monotone host.clock) (older : List Stage) (ledger after : Ledger)
    (stages copies : List Stage) (unique : (stageIds ledger).Nodup) (synced : ∀ copy ∈ older, Synced ledger copy)
    (memory : ∀ copy ∈ stages, Synced ledger copy)
    (done : older.foldlM (bypass host) (ledger, stages) = .ok (after, copies)) :
    stageIds after = stageIds ledger ∧ Accrue host ledger after ∧ (∀ copy ∈ copies, Synced after copy) ∧
      ∀ copy, Synced ledger copy → Synced after copy := by
  induction older generalizing ledger stages with
  | nil =>
      cases done
      exact ⟨rfl, .of_same host _ _ (Nat.le_refl _) fun _ stored => stored, memory, fun _ agrees => agrees⟩
  | cons copy rest ih =>
      rw [List.foldlM_cons, bind_ok_iff] at done
      obtain ⟨_, first, later⟩ := done
      obtain ⟨count, _, rfl⟩ := bypass_ok host ledger stages copy _ first
      have saves := save_saves host ledger { copy with bypassCount := some count }
      have here := synced copy (by simp)
      have accrue := save_accrues host ledger { copy with bypassCount := some count } copy unique here rfl
        rfl rfl (.inr rfl)
      obtain ⟨row, stored, same, account⟩ := here
      have found : row? Stage.id copy.id ledger.stages = some row := by
        rw [← same]
        exact row_of_mem Stage.id ledger.stages unique row stored
      have state : copy.state = row.state := (congrArg Account.state account).symm
      have reason : copy.reason = row.reason := (congrArg Account.reason account).symm
      have result : ledger.save host { copy with bypassCount := some count } =
          ({ ledger with stages := put Stage.id { copy with bypassCount := some count } ledger.stages },
            { copy with bypassCount := some count }) := by
        rw [Ledger.save]
        simp only [found, state, reason, and_self, if_true]
      rw [result] at saves accrue later
      have ids := saves.keys (same ▸ List.mem_map_of_mem stored)
      have keeps : ∀ other, Synced ledger other → Synced
          { ledger with stages := put Stage.id { copy with bypassCount := some count } ledger.stages } other := by
        rintro other ⟨kept, listed, key, agrees⟩
        by_cases apart : kept.id = copy.id
        · have match_ : kept = row := row_unique Stage.id ledger.stages unique kept row listed stored
            (apart.trans same.symm)
          subst match_
          exact ⟨_, (saves.mem_iff _).mpr (.inl rfl), same.symm.trans key, account.symm.trans agrees⟩
        · exact ⟨kept, (saves.mem_iff kept).mpr (.inr ⟨listed, apart⟩), key, agrees⟩
      obtain ⟨last, more, held, others⟩ := ih _ (put Stage.id { copy with bypassCount := some count } stages)
        (by rw [ids]; exact unique) (fun other later => keeps other (synced other (by simp [later])))
        (fun other member => by
          rcases (mem_put _ _ _ _).mp member with rfl | ⟨kept, _⟩
          · exact ⟨_, (saves.mem_iff _).mpr (.inl rfl), rfl, rfl⟩
          · exact keeps other (memory other kept)) later
      exact ⟨last.trans ids, accrue.trans steady more, held, fun other agrees => others other (keeps other agrees)⟩

structure Billed (host : Host) (before : Pass) (stage : Stage) (after : Pass) : Prop where
  ids : stageIds after.ledger = stageIds before.ledger
  accrue : Accrue host before.ledger after.ledger
  memory : ∀ copy ∈ after.stages, Synced after.ledger copy
  others : ∀ copy, copy.id ≠ stage.id → Synced before.ledger copy → Synced after.ledger copy

theorem grant_billed (steady : Monotone host.clock) (setting : Setting) (before after : Pass)
    (stage : Stage) (chosen : Allocation) (unique : (stageIds before.ledger).Nodup)
    (synced : Synced before.ledger stage) (waiting : stage.state = .waiting)
    (memory : ∀ copy ∈ before.stages, Synced before.ledger copy)
    (done : grant host setting before stage chosen = .ok after) : Billed host before stage after := by
  simp only [grant, bind_ok_iff, pure_ok, Except.ok.injEq] at done
  obtain ⟨incarnations, _, _, _, ⟨final, copies⟩, passed, rfl⟩ := done
  generalize (Ledger.newToken host before.ledger).2 = token at passed ⊢
  generalize ((Ledger.newToken host before.ledger).1.newToken host).2 = maintenance at passed ⊢
  have stages : (((Ledger.newToken host before.ledger).1.newToken host).1.now host).1.stages
    = before.ledger.stages := rfl
  have draws : before.ledger.draws ≤ (((Ledger.newToken host before.ledger).1.newToken host).1.now host).1.draws := by
    simp only [Ledger.newToken, Ledger.now]
    omega
  generalize (((Ledger.newToken host before.ledger).1.newToken host).1.now host).2 = moment at passed ⊢
  generalize (((Ledger.newToken host before.ledger).1.newToken host).1.now host).1 = drawn at stages draws passed ⊢
  have bills := save_bills host steady before.ledger drawn stage
    (stage.take chosen incarnations token maintenance moment) unique stages draws synced rfl rfl rfl
    (.inl waiting)
  generalize drawn.save host (stage.take chosen incarnations token maintenance moment) = saved at bills passed ⊢
  obtain ⟨middle, row⟩ := saved
  simp only at bills passed ⊢
  have agreed : ∀ copy ∈ put Stage.id row before.stages, Synced middle copy := by
    intro copy member
    rcases (mem_put _ _ _ _).mp member with rfl | ⟨kept, different⟩
    · exact bills.synced
    · exact bills.others copy (bills.key ▸ different) (memory copy kept)
  obtain ⟨ids, more, held, others⟩ := bypass_bills host steady (bypassed (put Stage.id row before.stages) row) middle
    final (put Stage.id row before.stages) copies (by rw [bills.ids]; exact unique)
    (fun copy member => agreed copy (List.mem_filter.mp member).1) agreed passed
  exact ⟨ids.trans bills.ids, bills.accrue.trans steady more, held,
    fun copy apart agrees => others copy (bills.others copy apart agrees)⟩

theorem hold_billed (steady : Monotone host.clock) (setting : Setting) (before after : Pass)
    (stage : Stage) (leaves : List Name) (unique : (stageIds before.ledger).Nodup)
    (synced : Synced before.ledger stage) (waiting : stage.state = .waiting)
    (memory : ∀ copy ∈ before.stages, Synced before.ledger copy)
    (done : hold host setting before stage leaves = .ok after) : Billed host before stage after := by
  simp only [hold, bind_ok_iff, pure_ok, Except.ok.injEq] at done
  obtain ⟨candidate, _, reason, _, blockers, _, rfl⟩ := done
  have bills := save_bills host steady before.ledger before.ledger stage
    (stage.wait candidate reason blockers) unique rfl
    (Nat.le_refl _) synced rfl rfl rfl (.inl waiting)
  refine ⟨bills.ids, bills.accrue, fun copy member => ?_, bills.others⟩
  rcases (mem_put _ _ _ _).mp member with rfl | ⟨kept, different⟩
  · exact bills.synced
  · exact bills.others copy (bills.key ▸ different) (memory copy kept)

theorem visit_billed (steady : Monotone host.clock) (setting : Setting) (before after : Pass)
    (stage : Stage) (unique : (stageIds before.ledger).Nodup) (synced : Synced before.ledger stage)
    (waiting : stage.state = .waiting) (memory : ∀ copy ∈ before.stages, Synced before.ledger copy)
    (done : visit host setting before stage = .ok after) : Billed host before stage after := by
  obtain ⟨leaves, _, rest⟩ := (bind_ok_iff _ _ _).mp done
  obtain ⟨found, _, rest⟩ := (bind_ok_iff _ _ _).mp rest
  cases found with
  | some chosen => exact grant_billed host steady setting before after stage chosen unique synced waiting memory rest
  | none => exact hold_billed host steady setting before after stage leaves unique synced waiting memory rest

theorem visits_billed (steady : Monotone host.clock) (setting : Setting) (ready : List Stage)
    (before after : Pass) (unique : (stageIds before.ledger).Nodup) (distinct : (ready.map Stage.id).Nodup)
    (waiting : ∀ stage ∈ ready, stage.state = .waiting) (synced : ∀ stage ∈ ready, Synced before.ledger stage)
    (memory : ∀ copy ∈ before.stages, Synced before.ledger copy)
    (done : ready.foldlM (visit host setting) before = .ok after) : Accrue host before.ledger after.ledger := by
  induction ready generalizing before with
  | nil =>
      cases done
      exact .of_same host _ _ (Nat.le_refl _) fun _ stored => stored
  | cons stage rest ih =>
      rw [List.foldlM_cons, bind_ok_iff] at done
      obtain ⟨middle, first, later⟩ := done
      obtain ⟨fresh, distinctRest⟩ := List.nodup_cons.mp distinct
      have step := visit_billed host steady setting before middle stage unique (synced stage (by simp))
        (waiting stage (by simp)) memory first
      refine step.accrue.trans steady (ih middle (step.ids ▸ unique) distinctRest
        (fun other member => waiting other (by simp [member])) (fun other member => ?_) step.memory later)
      exact step.others other (fun same => fresh (same ▸ List.mem_map_of_mem member)) (synced other (by simp [member]))

theorem schedule_accrues (steady : Monotone host.clock) (unavailable : List Name) (before after : Ledger)
    (granted : List Stage) (unique : (stageIds before).Nodup)
    (done : before.schedule host unavailable = .ok (after, granted)) : Accrue host before after := by
  obtain ⟨pass, visited, rest⟩ := (bind_ok_iff _ _ _).mp done
  obtain ⟨final, delivered, result⟩ := (bind_ok_iff _ _ _).mp rest
  cases result
  have stands := outcomes_stands _ _ _ delivered
  obtain ⟨base, opened, same, started⟩ := gate_started host unavailable before unique
  rw [same] at visited
  obtain ⟨ids, accrue, copies, _⟩ := gate_stages_bill host steady unavailable before.activeStages
    { before with released := [] } (fun stage listed => (List.mem_filter.mp listed).1)
    (active_distinct before unique) unique
  have gated : gateStages host unavailable { before with released := [] } before.activeStages = (base, opened) := by
    have pass : before.gate host unavailable = ⟨base, opened, before.owners, [], []⟩ := same
    simp only [Ledger.gate, Pass.mk.injEq] at pass
    exact Prod.ext pass.1 pass.2.1
  rw [gated] at ids accrue copies
  have billed := visits_billed host steady before.setting _ _ pass (by rw [ids]; exact unique)
    (ready_distinct opened started.distinct)
    (fun stage listed => ready_waiting stage ((mem_ready opened stage).mp listed).2)
    (fun stage listed => copies stage ((mem_ready opened stage).mp listed).1) copies visited
  have begun : Accrue host before base := accrue
  refine (begun.trans steady billed).trans steady (.of_same host _ _ ?_ fun row stored => ?_)
  · rw [stands.draws]
  · rwa [stands.stages]

theorem cancel_stage_bills (steady : Monotone host.clock) (ledger : Ledger) (stage : Stage)
    (unique : (stageIds ledger).Nodup) (synced : Synced ledger stage) :
    ∃ row, Bills host ledger stage (Ledger.cancelStage host ledger stage) row := by
  unfold Ledger.cancelStage
  by_cases waiting : stage.state = .waiting
  · rw [if_pos waiting]
    exact ⟨_, save_bills host steady ledger (ledger.now host).1 stage { stage with
      state := .cancelled, finishedAt := some (ledger.now host).2, protection := none } unique rfl
      (Nat.le_succ _) synced
      rfl rfl rfl (.inl waiting)⟩
  · rw [if_neg waiting]
    split
    · exact ⟨_, save_bills host steady ledger ledger stage { stage with cancelRequested := true } unique
        rfl (Nat.le_refl _)
        synced rfl rfl rfl (.inr rfl)⟩
    · exact ⟨_, save_bills host steady ledger ledger stage stage unique rfl (Nat.le_refl _) synced rfl
        rfl rfl (.inr rfl)⟩

theorem cancel_stages_accrue (steady : Monotone host.clock) (stages : List Stage) (ledger : Ledger)
    (unique : (stageIds ledger).Nodup) (distinct : (stages.map Stage.id).Nodup)
    (synced : ∀ stage ∈ stages, Synced ledger stage) :
    Accrue host ledger (stages.foldl (Ledger.cancelStage host) ledger) := by
  induction stages generalizing ledger with
  | nil => exact .of_same host _ _ (Nat.le_refl _) fun _ stored => stored
  | cons stage rest ih =>
      obtain ⟨fresh, distinctRest⟩ := List.nodup_cons.mp distinct
      obtain ⟨row, bills⟩ := cancel_stage_bills host steady ledger stage unique (synced stage (by simp))
      refine bills.accrue.trans steady (ih _ (bills.ids ▸ unique) distinctRest fun other member => ?_)
      exact bills.others other (fun same => fresh (same ▸ List.mem_map_of_mem member)) (synced other (by simp [member]))

theorem cancel_accrues (steady : Monotone host.clock) (id : Id) (before after : Ledger)
    (unique : (stageIds before).Nodup) (done : before.cancel host id = .ok after) : Accrue host before after := by
  simp only [Ledger.cancel, bind_ok_iff] at done
  obtain ⟨_, _, delivered⟩ := done
  have stands := outcomes_stands _ _ _ delivered
  have accrue := cancel_stages_accrue host steady (before.stagesOf id) before unique
    (unique.sublist (List.filter_sublist.map _)) fun stage listed => ⟨stage, (List.mem_filter.mp listed).1, rfl, rfl⟩
  refine accrue.trans steady (.of_same host _ _ ?_ fun row stored => ?_)
  · rw [stands.draws]
  · rwa [stands.stages]

end OrchestratorEngine.ResourceQueue
