import OrchestratorEngine.Continuity.Fences

set_option autoImplicit false

namespace OrchestratorEngine.Continuity

open Foundation

structure Ended (activationId : Nat) (store : Store) : Prop where
  present : ∃ activation ∈ store.activations, activation.activationId = activationId
  inactive : ∀ activation ∈ store.activations, activation.activationId = activationId → activation.active = false

variable {activationId : Nat}

theorem ended_evolved {before after : Store} (evolved : Evolved before after)
    (ended : Ended activationId before) : Ended activationId after := by
  obtain ⟨change, same, kept⟩ := evolved.activations
  constructor
  · obtain ⟨activation, listed, named⟩ := ended.present
    exact ⟨change activation, same ▸ List.mem_map_of_mem listed, (kept activation listed).activationId.trans named⟩
  · intro activation listed named
    rw [same, List.mem_map] at listed
    obtain ⟨old, present, rfl⟩ := listed
    have row := kept old present
    have was := ended.inactive old present (row.activationId.symm.trans named)
    by_contra active
    rw [Bool.not_eq_false] at active
    exact absurd (row.active active) (by rw [was]; exact Bool.false_ne_true)

theorem ended_inserted {before after : Store} {work : Work} {activation : Activation} (sound : Sound before)
    (made : Made before work activation) (same : after.activations = before.activations ++ [activation])
    (ended : Ended activationId before) : Ended activationId after := by
  obtain ⟨old, listed, named⟩ := ended.present
  have numbered := sound.numbered old listed
  refine ⟨⟨old, same ▸ List.mem_append_left _ listed, named⟩, fun other member sameId => ?_⟩
  rw [same, List.mem_append, List.mem_singleton] at member
  rcases member with before | rfl
  · exact ended.inactive other before sameId
  · have fresh := made.numbered
    omega

theorem Move.ended {call : Call} {start next : Database} (move : Move call start next) (sound : Sound start.store)
    (ended : Ended activationId start.store) : Ended activationId next.store := by
  cases move with
  | restore restored =>
      cases restored with
      | grow growth =>
          cases growth with
          | create work activation pointer made _ _ => exact ended_inserted sound made rfl ended
          | beside _ _ _ _ => exact ⟨ended.present, ended.inactive⟩
      | record _ _ _ _ _ _ => exact ⟨ended.present, ended.inactive⟩
  | edit edited => exact ended_evolved (edited.evolved sound) ended
  | respond _ _ request row obligation linked _ status results _ resultRef _ _ responseId _ =>
      exact ended_evolved (responded sound request row obligation linked status resultRef results responseId) ended
  | reply _ _ request row obligation linked _ status results _ resultRef _ _ responseId work activation
    made _ _ _ _ _ _ =>
      have evolved := responded sound request row obligation linked status resultRef results responseId
      exact ended_inserted (evolved.sound sound) (made.move rfl rfl rfl) rfl (ended_evolved evolved ended)
  | report _ _ => exact ⟨ended.present, ended.inactive⟩

theorem performed_ended (world : World) (call : Call) (store : Store) (sound : Sound store)
    (ended : Ended activationId store) : Ended activationId (perform world call store).store := by
  suffices moved : ∀ {final : Database}, Moves call ⟨store, []⟩ final → Ended activationId final.store from
    moved (performed_moves world call store sound)
  intro final moves
  induction moves with
  | refl => exact ended
  | tail moves last ih => exact last.ended (Moves.sound moves sound) ih

theorem ended_unpublished {store : Store} (ended : Ended activationId store) :
    (store.activation? activationId).map Activation.status ≠ some .published := by
  intro published
  obtain ⟨activation, found, status⟩ := Option.map_eq_some_iff.mp published
  obtain ⟨listed, named⟩ := row_mem Activation.activationId activationId store.activations activation found
  have inactive := ended.inactive activation listed named
  simp [Activation.active, status] at inactive

theorem settled_ended {store : Store} (sound : Sound store) {activation : Activation}
    (found : store.activation? activationId = some activation) (inactive : activation.active = false) :
    Ended activationId store := by
  obtain ⟨listed, named⟩ := row_mem Activation.activationId activationId store.activations activation found
  refine ⟨⟨activation, listed, named⟩, fun other member sameId => ?_⟩
  have same := row_unique Activation.activationId store.activations sound.distinct other activation member listed
    (sameId.trans named.symm)
  rwa [same]

section Finality

variable {call : Call} {before after : Store} {id : String}

def Completed (before after : Store) : Prop :=
  ∀ id work, before.work? id = some work → work.mode = .complete → after.work? id = some work

def Remains (before after : Store) : Prop := ∀ old ∈ before.activations, ∃ new ∈ after.activations, Kept old new

theorem Edit.works_final (edited : Edit call before after) {work : Work} (found : before.work? id = some work)
    (complete : work.mode = .complete) : after.work? id = some work := by
  have named := work_row_id found
  have spared : ∀ other : Work, before.work? other.workId = some other → other.mode ≠ .complete →
      ∀ change : Work → Work, (∀ row, (change row).workId = row.workId) →
        row? Work.workId id (before.works.map fun row => if row.workId = other.workId then change row
        else row) = some work := by
    intro other row ongoing change stable
    have apart : work.workId ≠ other.workId := by
      intro same
      rw [← same, named, found] at row
      cases row
      exact ongoing complete
    rw [row_map Work.workId _ (fun row => by split <;> [exact stable row; rfl]),
      show row? _ id before.works = _ from found,
      Option.map_some, if_neg apart]
  cases edited with
  | begin fresh _ _ =>
      refine (row_append Work.workId id before.works fresh).trans ?_
      rw [show row? _ id before.works = _ from found]
      rfl
  | advance taken _ other row _ _ ongoing =>
      exact spared other row ongoing (fun row => row.advanced taken.mode) fun _ => rfl
  | hand handover _ other row _ _ ongoing =>
      exact spared other row ongoing (fun row => row.transferred handover.toActor) fun _ => rfl
  | step =>
      dsimp only [Store.step]
      split <;> exact found
  | claim _ _ _ _ _ _ obligation request =>
      unfold recordClaim
      split
      · exact found
      · cases obligation <;> cases request <;> dsimp only <;> try split
        all_goals exact found
  | _ => exact found

theorem completed_endures : Enduring Completed := by
  refine ⟨fun _ _ _ found _ => found, fun _ _ _ lower upper id work found complete =>
    upper id work (lower id work found complete) complete, fun call start next move _ id work found complete => ?_⟩
  cases move with
  | restore restored =>
      unfold Store.work?
      rw [restored.framed.works]
      exact found
  | edit edited => exact edited.works_final found complete
  | _ => exact found

theorem evolved_remains (evolved : Evolved before after) : Remains before after := by
  obtain ⟨change, same, kept⟩ := evolved.activations
  exact fun old listed => ⟨change old, same ▸ List.mem_map_of_mem listed, kept old listed⟩

theorem remains_endures : Enduring Remains := by
  have wider : ∀ {before after : Store}, before.activations ⊆ after.activations → Remains before after :=
    fun more old listed => ⟨old, more listed, Kept.refl old⟩
  refine ⟨fun _ => wider (List.Subset.refl _), fun _ _ _ lower upper old listed => ?_,
    fun call start next move sound => ?_⟩
  · obtain ⟨middle, between, early⟩ := lower old listed
    obtain ⟨new, present, late⟩ := upper middle between
    exact ⟨new, present, early.trans late⟩
  · cases move with
    | restore restored =>
        cases restored with
        | grow growth =>
            cases growth with
            | create _ _ _ _ _ _ => exact wider (List.subset_append_left _ _)
            | beside _ _ _ _ => exact wider (List.Subset.refl _)
        | record _ _ _ _ _ _ => exact wider (List.Subset.refl _)
    | edit edited => exact evolved_remains (edited.evolved sound)
    | respond _ _ request row obligation linked _ status results _ resultRef _ _ responseId _ =>
        exact evolved_remains (responded sound request row obligation linked status resultRef results responseId)
    | reply _ _ request row obligation linked _ status results _ resultRef _ _ responseId =>
        intro old listed
        obtain ⟨new, present, kept⟩ :=
          evolved_remains (responded sound request row obligation linked status resultRef results responseId) old listed
        exact ⟨new, List.mem_append_left _ present, kept⟩
    | report _ _ => exact wider (List.Subset.refl _)

theorem finished_stays (early late : Run) :
    Completed (run early initialized) (run (early ++ late) initialized) ∧
      Follows (run early initialized) (run (early ++ late) initialized) ∧
      Remains (run early initialized) (run (early ++ late) initialized) ∧ Sound (run (early ++ late) initialized) := by
  have reached : Sound (run early initialized) := reachable_sound ⟨early, rfl⟩
  refine ⟨?_, run_follows early late, ?_, reachable_sound ⟨early ++ late, rfl⟩⟩ <;> rw [run_append]
  · exact completed_endures.run late _ reached
  · exact remains_endures.run late _ reached

end Finality

end OrchestratorEngine.Continuity
