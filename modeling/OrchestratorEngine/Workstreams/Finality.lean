import OrchestratorEngine.Workstreams.Authorization

set_option autoImplicit false

namespace OrchestratorEngine.Workstreams

open Foundation
open Foundation.Journal

variable {workstreamId : String}

def Opens (workstreamId : String) (signal : Signal) (world : World) : Prop :=
  ∃ readings : Readings, world.clock ≤ readings.taken ∧
    ((continuationDeliveryGuard workstreamId signal readings).run world.files).2 = .ok (some .deliver)

theorem guard_steps (world : World) (signal : Signal) (readings : Readings) (current : world.clock ≤ readings.taken) :
    Stepped workstreamId world
      ⟨(continuationDeliveryGuard workstreamId signal readings).final world.files, readings.taken⟩ := by
  refine .call world (.delivery signal) readings _ current ?_
  have same : (perform workstreamId readings (.delivery signal)).states world.files =
      (continuationDeliveryGuard workstreamId signal readings).states world.files := by
    rw [perform]
    rcases ran : (continuationDeliveryGuard workstreamId signal readings).run world.files with ⟨visited, error | answer⟩
    · simp only [states, failed_bind_run ran, ran]
    · simp only [states, Done.bind_run ran, ran]
      exact congrArg _ (List.append_nil visited)
  rw [same]
  exact final_mem_states _ _

theorem withheld_final {world later : World} (held : Held workstreamId world) (signal : Signal) (readings : Readings)
    (current : world.clock ≤ readings.taken) (source : signal.workstreamSource = true) {checkpointId : String}
    (identity : signal.identity = some (workstreamId, checkpointId))
    (stored : world.files.checkpoints.get? checkpointId ≠ none)
    (shut : ((continuationDeliveryGuard workstreamId signal readings).run world.files).2 ≠ .ok (some .deliver))
    (run : Runs workstreamId ⟨world.files, readings.taken⟩ later) : ¬ Opens workstreamId signal later := by
  rintro ⟨next, onward, delivered⟩
  have waited : Stepped workstreamId world ⟨world.files, readings.taken⟩ := .wait world readings.taken current
  have here := waited.held held
  obtain ⟨named, sameIdentity, authorized⟩ := (held_delivers (here.through run) signal next onward source).mp delivered
  cases identity.symm.trans sameIdentity
  obtain ⟨checkpoint, found⟩ := Option.ne_none_iff_exists'.mp stored
  have listed : checkpoint ∈ history world.files :=
    List.mem_map.mpr ⟨_, (Dict.mem_items _ _ _).mpr found, rfl⟩
  have sameId : checkpoint.checkpointId = checkpointId := by
    rcases held with empty | ⟨_, _, _, recorded⟩
    · rw [empty] at listed
      cases listed
    · exact recorded.stored.keyed (checkpointId, checkpoint) ((Dict.mem_items _ _ _).mpr found)
  have now := authorized_earlier here run onward listed sameId authorized
  exact shut ((held_delivers held signal readings current source).mpr ⟨checkpointId, identity, now⟩)

end OrchestratorEngine.Workstreams
