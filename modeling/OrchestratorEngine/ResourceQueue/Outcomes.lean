import OrchestratorEngine.ResourceQueue.Rows

set_option autoImplicit false

namespace OrchestratorEngine.ResourceQueue

open Foundation

structure Stands (before after : Ledger) : Prop where
  registry : after.registry = before.registry
  sequence : after.sequence = before.sequence
  released : after.released = before.released
  requests : after.requests = before.requests
  stages : after.stages = before.stages
  draws : after.draws = before.draws

variable (ledger : Ledger)

theorem Stands.refl : Stands ledger ledger := ⟨rfl, rfl, rfl, rfl, rfl, rfl⟩

theorem Stands.trans {first second third : Ledger} (lower : Stands first second) (upper : Stands second third) :
    Stands first third :=
  ⟨upper.registry.trans lower.registry, upper.sequence.trans lower.sequence, upper.released.trans lower.released,
    upper.requests.trans lower.requests, upper.stages.trans lower.stages, upper.draws.trans lower.draws⟩

theorem insert_history_stands (row : History) : Stands ledger (ledger.insertHistory row) := by
  unfold Ledger.insertHistory
  split <;> exact ⟨rfl, rfl, rfl, rfl, rfl, rfl⟩

theorem insert_notice_stands (notice : Notice) : Stands ledger (ledger.insertNotice notice) := by
  unfold Ledger.insertNotice
  split <;> exact ⟨rfl, rfl, rfl, rfl, rfl, rfl⟩

theorem notify_stands (request : Request) (stages : List Stage) (ledger : Ledger) (subscriber : Subscriber) :
    Stands ledger (Ledger.notify request stages ledger subscriber) := by
  unfold Ledger.notify
  refine Stands.trans ?_ (insert_notice_stands _ _)
  split
  · exact insert_history_stands _ _
  · exact Stands.refl _

theorem notify_all_stands (request : Request) (stages : List Stage) (ledger : Ledger) (subscribers : List Subscriber) :
    Stands ledger (subscribers.foldl (Ledger.notify request stages) ledger) := by
  induction subscribers generalizing ledger with
  | nil => exact Stands.refl ledger
  | cons subscriber rest ih => exact (notify_stands request stages ledger subscriber).trans (ih _)

theorem outcomes_of_stands (ledger after : Ledger) (id : Id) (done : ledger.outcomesOf id = .ok after) :
    Stands ledger after := by
  unfold Ledger.outcomesOf at done
  split at done
  · cases done
    exact Stands.refl ledger
  · obtain ⟨request, _, rest⟩ := (bind_ok_iff _ _ _).mp done
    cases rest
    exact notify_all_stands request _ ledger request.subscribers

theorem outcomes_stands (ledger after : Ledger) (requests : List Id) (done : ledger.outcomes requests = .ok after) :
    Stands ledger after :=
  foldlM_ok_inv Ledger.outcomesOf (Stands ledger) requests ledger after (Stands.refl ledger)
    (fun middle id _ next stands step => stands.trans (outcomes_of_stands middle next id step)) done

end OrchestratorEngine.ResourceQueue
