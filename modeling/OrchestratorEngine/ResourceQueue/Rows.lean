import OrchestratorEngine.ResourceQueue.Operations

set_option autoImplicit false

namespace OrchestratorEngine.ResourceQueue

open Foundation

structure Fixed where
  id : Id
  name : Name
  request : Id
  project : Name
  needs : List Need
  after : List Name
  seq : Nat
  createdAt : Time
  counts : Bool
deriving DecidableEq

structure Core where
  state : State
  epoch : Nat
  allocation : Allocation
  readySeq : Option Nat
  protection : Option Allocation
  outcome : Option State
  cancelRequested : Bool
  launchToken : Option Token
deriving DecidableEq

-- Whether one can be added to how often the stage was bypassed.
def Stage.counts (stage : Stage) : Bool := (stage.bypassCount.getD (.integer 0)).numeric

def Stage.fixed (stage : Stage) : Fixed :=
  ⟨stage.id, stage.name, stage.request, stage.project, stage.needs, stage.after, stage.seq, stage.createdAt,
    stage.counts⟩

def Stage.core (stage : Stage) : Core :=
  ⟨stage.state, stage.epoch, stage.allocation, stage.readySeq, stage.protection, stage.outcome,
    stage.cancelRequested, stage.launchToken⟩

def Alike (first second : Stage) : Prop := first.fixed = second.fixed ∧ first.core = second.core

theorem Alike.refl (stage : Stage) : Alike stage stage := ⟨rfl, rfl⟩

theorem fixed_id (first second : Stage) (same : first.fixed = second.fixed) : first.id = second.id :=
  congrArg Fixed.id same

theorem core_state (first second : Stage) (same : first.core = second.core) : first.state = second.state :=
  congrArg Core.state same

structure Frame (before after : Ledger) : Prop where
  registry : after.registry = before.registry
  requests : after.requests = before.requests
  history : after.history = before.history
  outbox : after.outbox = before.outbox
  sequence : before.sequence ≤ after.sequence
  draws : before.draws ≤ after.draws

theorem Frame.refl (ledger : Ledger) : Frame ledger ledger := ⟨rfl, rfl, rfl, rfl, Nat.le_refl _, Nat.le_refl _⟩

theorem Frame.trans {first second third : Ledger} (lower : Frame first second) (upper : Frame second third) :
    Frame first third :=
  ⟨upper.registry.trans lower.registry, upper.requests.trans lower.requests, upper.history.trans lower.history,
    upper.outbox.trans lower.outbox, Nat.le_trans lower.sequence upper.sequence,
    Nat.le_trans lower.draws upper.draws⟩

def stageIds (ledger : Ledger) : List Id := ledger.stages.map (fun stage => stage.id)

structure Saves (before : Ledger) (stage : Stage) (after : Ledger) (row : Stage) : Prop where
  frame : Frame before after
  sequence : after.sequence = before.sequence
  released : after.released = before.released
  alike : Alike row stage
  readyAt : row.readyAt = stage.readyAt
  stages : after.stages = put Stage.id row before.stages

theorem save_saves (host : Host) (ledger : Ledger) (stage : Stage) :
    Saves ledger stage (ledger.save host stage).1 (ledger.save host stage).2 := by
  unfold Ledger.save
  cases row? Stage.id stage.id ledger.stages with
  | none => exact ⟨⟨rfl, rfl, rfl, rfl, Nat.le_refl _, Nat.le_succ _⟩, rfl, rfl, ⟨rfl, rfl⟩, rfl, rfl⟩
  | some old =>
      by_cases same : old.state = stage.state ∧ old.reason = stage.reason
      · simp only [same, and_self, if_true]
        exact ⟨⟨rfl, rfl, rfl, rfl, Nat.le_refl _, Nat.le_refl _⟩, rfl, rfl, ⟨rfl, rfl⟩, rfl, rfl⟩
      · simp only [same, if_false]
        exact ⟨⟨rfl, rfl, rfl, rfl, Nat.le_refl _, Nat.le_succ _⟩, rfl, rfl, ⟨rfl, rfl⟩, rfl, rfl⟩

variable {before after : Ledger} {stage row : Stage}

theorem Saves.keys (saves : Saves before stage after row)
    (present : stage.id ∈ stageIds before) : stageIds after = stageIds before := by
  rw [stageIds, saves.stages]
  exact put_keys Stage.id row before.stages (fixed_id _ _ saves.alike.1 ▸ present)

theorem Saves.mem_iff (saves : Saves before stage after row)
    (other : Stage) : other ∈ after.stages ↔ other = row ∨ other ∈ before.stages ∧ other.id ≠ stage.id := by
  rw [saves.stages, mem_put, fixed_id row stage saves.alike.1]

theorem Saves.after_now (host : Host)
    (saves : Saves (before.now host).1 stage after row) : Saves before stage after row := by
  have counted : Frame before (before.now host).1 := ⟨rfl, rfl, rfl, rfl, Nat.le_refl _, Nat.le_succ _⟩
  exact ⟨counted.trans saves.frame, saves.sequence, saves.released, saves.alike, saves.readyAt, saves.stages⟩

theorem Saves.forall₂ (saves : Saves before stage after row)
    (unique : (stageIds before).Nodup) (relation : Stage → Stage → Prop) (same : ∀ other, relation other other)
    (old : Stage) (listed : old ∈ before.stages) (matched : old.id = stage.id) (step : relation old row) :
    List.Forall₂ relation before.stages after.stages := by
  have key : row.id = old.id := (fixed_id _ _ saves.alike.1).trans matched.symm
  rw [saves.stages]
  refine put_forall₂ Stage.id relation before.stages row old unique ?_ same step
  rw [key]
  exact row_of_mem Stage.id before.stages unique old listed

end OrchestratorEngine.ResourceQueue
