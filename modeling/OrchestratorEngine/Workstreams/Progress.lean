import OrchestratorEngine.Workstreams.Reconciliation

set_option autoImplicit false

namespace OrchestratorEngine.Workstreams

open Foundation
open Foundation.Journal

structure Advances (descriptor : Descriptor) (applied : List Checkpoint) (pending : Option Checkpoint)
    (descriptor' : Descriptor) (applied' : List Checkpoint) (pending' : Option Checkpoint) : Prop where
  kept : applied <+: applied'
  listed : applied ++ pending.toList <+: applied' ++ pending'.toList
  created : descriptor'.createdAt = descriptor.createdAt
  wall : descriptor'.maxWallSeconds = descriptor.maxWallSeconds
  limit : descriptor'.maxContinuations = descriptor.maxContinuations
  final : descriptor.status = .complete → pending = none → descriptor' = descriptor ∧
    applied' = applied ∧ pending' = none

section Progress

variable {workstreamId : String} {clock : Int} {files : Files} {descriptor : Descriptor} {applied : List Checkpoint}
  {pending : Option Checkpoint}

theorem Advances.refl : Advances descriptor applied pending descriptor applied pending :=
  ⟨List.prefix_refl _, List.prefix_refl _, rfl, rfl, rfl, fun _ none => ⟨rfl, rfl, none⟩⟩

theorem Advances.trans {second third : Descriptor} {secondApplied thirdApplied : List Checkpoint}
    {secondPending thirdPending : Option Checkpoint}
    (early : Advances descriptor applied pending second secondApplied secondPending)
    (late : Advances second secondApplied secondPending third thirdApplied thirdPending) :
    Advances descriptor applied pending third thirdApplied thirdPending := by
  refine ⟨early.kept.trans late.kept, early.listed.trans late.listed, late.created.trans early.created,
    late.wall.trans early.wall, late.limit.trans early.limit, fun complete none => ?_⟩
  obtain ⟨rfl, rfl, secondNone⟩ := early.final complete none
  exact late.final complete secondNone

theorem Advances.wall_limit {descriptor' : Descriptor} {applied' : List Checkpoint} {pending' : Option Checkpoint}
    (advances : Advances descriptor applied pending descriptor' applied' pending') (now : Int) :
    wallLimitReason descriptor' now = wallLimitReason descriptor now := by
  rw [wallLimitReason, wallLimitReason, advances.created, advances.wall]

def Progress (workstreamId : String) (clock : Int) (descriptor : Descriptor) (applied : List Checkpoint)
    (pending : Option Checkpoint) (files : Files) : Prop :=
  ∃ descriptor' applied' pending', Recorded workstreamId clock files descriptor' applied' pending' ∧
    Advances descriptor applied pending descriptor' applied' pending'

theorem settled_at_cases (descriptor : Descriptor) (now : Int) :
    descriptor.settledAt now = descriptor ∨ (descriptor.status = .active ∨ descriptor.status = .waitingExternal) ∧
      ∃ reason, wallLimitReason descriptor now = some reason ∧ descriptor.settledAt now =
      descriptor.expired reason now := by
  rw [Descriptor.settledAt]
  split
  case isTrue running =>
    cases passed : wallLimitReason descriptor now with
    | none => exact .inl rfl
    | some reason => exact .inr ⟨running, reason, rfl, rfl⟩
  case isFalse _ => exact .inl rfl

theorem promised_advances (complete : descriptor.status = .complete → pending = none) :
    Advances descriptor applied pending (promised descriptor pending) (applied ++ pending.toList) none := by
  refine ⟨List.prefix_append _ _, by simp, ?_, ?_, ?_, ?_⟩
  · cases pending <;> rfl
  · cases pending <;> rfl
  · cases pending <;> rfl
  · rintro _ rfl
    simp [promised]

theorem settled_advances (now : Int) :
    Advances descriptor applied none (descriptor.settledAt now) applied none := by
  rcases settled_at_cases descriptor now with same | ⟨running, reason, _, expired⟩
  · rw [same]
    exact Advances.refl
  · rw [expired]
    refine ⟨List.prefix_refl _, List.prefix_refl _, rfl, rfl, rfl, fun complete _ => ?_⟩
    rcases running with active | waiting
    · cases complete.symm.trans active
    · cases complete.symm.trans waiting

theorem Recorded.reconciled_advances (recorded : Recorded workstreamId clock files descriptor applied pending)
    (now : Int) : Advances descriptor applied pending ((promised descriptor pending).settledAt now)
      (applied ++ pending.toList) none := by
  refine Advances.trans (promised_advances fun complete => ?_) (settled_advances now)
  cases pending with
  | none => rfl
  | some checkpoint => exact absurd complete (recorded.opened checkpoint rfl).unfinished

theorem Reached.progress (recorded : Recorded workstreamId clock files descriptor applied pending) {now : Int}
    {later : Files} (reached : Reached workstreamId clock now descriptor applied pending later) :
    Progress workstreamId clock descriptor applied pending later := by
  rcases reached with (same | written) | settled
  · exact ⟨descriptor, applied, pending, same, Advances.refl⟩
  · refine ⟨_, _, _, written, promised_advances fun complete => ?_⟩
    cases pending with
    | none => rfl
    | some checkpoint => exact absurd complete (recorded.opened checkpoint rfl).unfinished
  · exact ⟨_, _, _, settled, recorded.reconciled_advances now⟩

theorem Progress.trans {later : Files} {second : Descriptor} {secondApplied : List Checkpoint}
    {secondPending : Option Checkpoint}
    (advances : Advances descriptor applied pending second secondApplied secondPending)
    (progress : Progress workstreamId clock second secondApplied secondPending later) :
    Progress workstreamId clock descriptor applied pending later := by
  obtain ⟨third, thirdApplied, thirdPending, recorded, more⟩ := progress
  exact ⟨third, thirdApplied, thirdPending, recorded, advances.trans more⟩

structure Reconciled (workstreamId : String) (clock now : Int) (descriptor : Descriptor) (applied : List Checkpoint)
    (pending : Option Checkpoint) (files : Files) : Prop where
  recorded : Recorded workstreamId clock files ((promised descriptor pending).settledAt now)
    (applied ++ pending.toList) none
  published : AllPublished files

theorem reconcile_keeps (recorded : Recorded workstreamId clock files descriptor applied pending) (now published : Int)
    (past : now ≤ clock) :
    Keeps (Progress workstreamId clock descriptor applied pending)
      (fun _ => Reconciled workstreamId clock now descriptor applied pending) (reconcileLocked now published) files :=
  (reconcile_leads recorded now published past).keeps.mono (fun _ => Reached.progress recorded)
    fun _ _ done => ⟨done.2, done.1⟩

theorem Recorded.old (recorded : Recorded workstreamId clock files descriptor applied none) (checkpoint : Checkpoint)
    (member : checkpoint ∈ history files) : checkpoint.sequence ≤ descriptor.checkpointCount := by
  obtain ⟨index, inside, found⟩ := List.getElem_of_mem member
  have numbered := recorded.stored.sequence_eq index checkpoint (by rw [List.getElem?_eq_getElem inside, found])
  have long := congrArg List.length recorded.split
  rw [Option.toList_none, List.append_nil] at long
  rw [numbered, recorded.accounts.count, ← long]
  exact inside

variable {good : Files → Prop}

theorem load_done (current : files.descriptor = some descriptor) : Done loadWorkstream files [] descriptor := by
  rw [loadWorkstream, bind_done]
  refine ⟨[], some descriptor, [], (ask_done _).mpr ⟨current.symm, rfl⟩, ?_, rfl⟩
  exact (pure_done _).mpr ⟨rfl, rfl⟩

theorem repeat_leads (recorded : Recorded workstreamId clock files descriptor applied none)
    (published : AllPublished files)
    (existing : Checkpoint) (member : existing ∈ history files) (content : Content) (preflight : Preflight)
    (reading : Int) (same : existing.content = content) :
    Leads good (fun output state => output = ⟨existing, true, false⟩ ∧ state = files)
      (repeatCheckpoint existing content preflight reading) files := by
  refine leads_require (fun other => other same) ?_
  refine Leads.bind (load_leads recorded.current) ?_
  rintro kept state ⟨sameKept, sameFiles⟩
  rw [sameKept, sameFiles, applyCheckpoint, if_pos (recorded.old existing member)]
  have settled : Leads good (fun _ later => later = files) (pure descriptor : Program Descriptor) files :=
    leads_pure _ rfl
  refine settled.bind ?_
  intro _ later unchanged
  rw [unchanged]
  cases named : existing.scheduled with
  | none => cases existing.decision <;> exact leads_pure _ ⟨rfl, rfl⟩
  | some scheduled =>
      have continues := ((recorded.stored.shaped existing member).names scheduled named).1
      rw [continues]
      refine leads_ask _ ?_
      obtain ⟨signal, found⟩ := Option.ne_none_iff_exists'.mp (published existing member scheduled named).signal
      rw [found]
      exact leads_pure _ ⟨rfl, rfl⟩

theorem checkpoint_shaped (workstreamId checkpointId : String) (content : Content) (now : Int)
    (told : content.decision = .waitingExternal → content.waitingOn ≠ none) :
    (descriptor.checkpoint workstreamId checkpointId content now).Shaped workstreamId := by
  cases limited : descriptor.checkpointReason content.decision now with
  | some reason =>
      refine ⟨?_, fun _ => ?_, ?_⟩
      · intro continues
        simp [Descriptor.checkpoint, limited] at continues
      · simp [Descriptor.checkpoint, limited]
      · intro waits
        simp [Descriptor.checkpoint, limited] at waits
  | none =>
      refine ⟨?_, ?_, ?_⟩
      · intro continues
        simp only [Descriptor.checkpoint, limited, Option.isSome_none, Bool.false_eq_true, if_false] at continues
        rw [continues] at limited
        exact ⟨now + descriptor.delay, by simp [Descriptor.checkpoint, limited, continues]⟩
      · intro other
        simp only [Descriptor.checkpoint, limited, Option.isSome_none, Bool.false_eq_true, if_false] at other
        simp [Descriptor.checkpoint, other]
      · intro waits
        simp only [Descriptor.checkpoint, limited, Option.isSome_none, Bool.false_eq_true, if_false] at waits
        exact told waits

theorem content_told (request : CheckpointRequest) (content : Content) (checked : request.content = .ok content) :
    content.decision = .waitingExternal → content.waitingOn ≠ none := by
  simp only [CheckpointRequest.content, bind_ok_iff, refuse_ok_iff] at checked
  obtain ⟨summary, _, next, _, waiting, _, _, _, _, _, _, _, _, _, _, said, _, _, finish⟩ := checked
  cases finish
  exact fun waits silent => said ⟨waits, silent⟩

theorem checkpoint_opened (workstreamId checkpointId : String) (content : Content) (now : Int)
    (unfinished : descriptor.status ≠ .complete)
    (active : ¬ (content.decision = .continues ∧ descriptor.status ≠ .active)) :
    Opened descriptor (descriptor.checkpoint workstreamId checkpointId content now) := by
  refine ⟨unfinished, ?_, ?_⟩
  · intro continues
    by_contra other
    apply active
    refine ⟨?_, other⟩
    simp only [Descriptor.checkpoint] at continues
    split at continues
    · cases continues
    · exact continues
  · intro automatic limit limited
    simp only [Descriptor.checkpoint] at automatic
    split at automatic
    case isTrue _ => simp [Decision.automatic] at automatic
    case isFalse free =>
      simp only [Descriptor.checkpointReason, automatic, if_true, limitReason, limited, Option.any_some] at free
      by_contra reached
      have full : limit ≤ descriptor.continuationCount := Nat.not_lt.mp reached
      simp [full] at free

variable {checkpoint : Checkpoint}

theorem Recorded.putCheckpoint
    (recorded : Recorded workstreamId clock files descriptor applied none) (published : AllPublished files)
    (shaped : checkpoint.Shaped workstreamId) (opened : Opened descriptor checkpoint)
    (next : checkpoint.sequence = descriptor.checkpointCount + 1)
    (fresh : files.checkpoints.get? checkpoint.checkpointId = none) :
    Recorded workstreamId clock (putCheckpoint checkpoint files) descriptor applied (some checkpoint) := by
  have split := recorded.split
  rw [Option.toList_none, List.append_nil] at split
  refine ⟨recorded.current, ?_, recorded.stored.putCheckpoint shaped fresh ?_ published, recorded.accounts, ?_⟩
  · rw [history_put checkpoint fresh, split, Option.toList_some]
  · rw [next, recorded.accounts.count, split]
  · intro same found
    cases found
    exact opened

theorem opened_advances (applied : List Checkpoint) (opened : Opened descriptor checkpoint) :
    Advances descriptor applied none descriptor applied (some checkpoint) :=
  ⟨List.prefix_refl _, by simp, rfl, rfl, rfl, fun complete _ => absurd complete opened.unfinished⟩

theorem publish_leads (recorded : Recorded workstreamId clock files descriptor applied none)
    (member : checkpoint ∈ history files) (reading : Int) :
    Leads (fun state => Recorded workstreamId clock state descriptor applied none)
      (fun _ state => Recorded workstreamId clock state descriptor applied none ∧
        ∀ scheduled, checkpoint.scheduled = some scheduled → Published state checkpoint scheduled)
      (ensureCheckpointEvent checkpoint reading) files := by
  have shaped := recorded.stored.shaped checkpoint member
  by_cases continues : checkpoint.decision = .continues
  · obtain ⟨notBefore, named⟩ := shaped.scheduled continues
    refine (ensure_leads recorded.stored member named reading).mono ?_ ?_
    · exact fun state next => recorded.restore next.stored next.descriptor next.checkpoints
    · rintro _ state ⟨next, published⟩
      refine ⟨recorded.restore next.stored next.descriptor next.checkpoints, fun scheduled found => ?_⟩
      cases named.symm.trans found
      exact published
  · rw [ensureCheckpointEvent, if_pos continues]
    refine leads_pure _ ⟨recorded, fun scheduled found => ?_⟩
    cases (shaped.unscheduled continues).symm.trans found

structure Finished (workstreamId : String) (clock : Int) (descriptor : Descriptor) (applied : List Checkpoint)
    (checkpoint : Checkpoint) (files : Files) : Prop where
  recorded : Recorded workstreamId clock files (descriptor.accept checkpoint) (applied ++ [checkpoint]) none
  published : AllPublished files

theorem finish_leads
    (recorded : Recorded workstreamId clock files descriptor applied (some checkpoint)) (reading : Int) :
    Leads (Underway workstreamId clock descriptor applied (some checkpoint))
      (fun _ => Finished workstreamId clock descriptor applied checkpoint)
      (do
        let _ ← applyCheckpoint descriptor checkpoint
        ensureCheckpointEvent checkpoint reading) files := by
  have last : (history files).getLast? = some checkpoint := by
    rw [recorded.split, Option.toList_some, List.getLast?_concat]
  refine Leads.bind (apply_leads recorded checkpoint last) ?_
  rintro _ state ⟨_, sameHistory, written⟩
  refine (publish_leads written (sameHistory ▸ List.mem_of_getLast? last) reading).mono (fun _ => .inr) ?_
  rintro _ later ⟨kept, published⟩
  refine ⟨kept, kept.stored.all_published ?_⟩
  intro other isLast scheduled named
  rw [kept.split, Option.toList_none, List.append_nil, Option.toList_some, List.getLast?_concat] at isLast
  cases isLast
  exact published scheduled named

theorem fresh_outcomes (recorded : Recorded workstreamId clock files descriptor applied none)
    (published : AllPublished files) (checkpointId : String) (content : Content) (preflight : Preflight)
    (now reading : Int)
    (told : content.decision = .waitingExternal → content.waitingOn ≠ none)
    (fresh : files.checkpoints.get? checkpointId = none) :
    (∃ error, (freshCheckpoint workstreamId checkpointId content preflight now reading).run
    files = ([], .error error)) ∨
      (Opened descriptor (descriptor.checkpoint workstreamId checkpointId content now) ∧
        Leads (Underway workstreamId clock descriptor applied
        (some (descriptor.checkpoint workstreamId checkpointId content now)))
          (fun output state => output = ⟨descriptor.checkpoint workstreamId checkpointId content now, false, false⟩ ∧
            Finished workstreamId clock descriptor applied
              (descriptor.checkpoint workstreamId checkpointId content now) state)
          (freshCheckpoint workstreamId checkpointId content preflight now reading) files) := by
  by_cases complete : descriptor.status = .complete
  · left
    rw [freshCheckpoint, (load_done recorded.current).silent_run, refused_bind_run complete]
    exact ⟨_, rfl⟩
  by_cases inactive : content.decision = .continues ∧ descriptor.status ≠ .active
  · left
    rw [freshCheckpoint, (load_done recorded.current).silent_run, require_bind_run complete, refused_bind_run inactive]
    exact ⟨_, rfl⟩
  have opened := checkpoint_opened workstreamId checkpointId content now complete inactive
  have shaped : (descriptor.checkpoint workstreamId checkpointId content now).Shaped workstreamId :=
    checkpoint_shaped workstreamId checkpointId content now told
  cases passed : (if (descriptor.checkpoint workstreamId checkpointId content now).scheduled.isSome then preflight
    else .ok ()) with
  | error error =>
      refine .inl ⟨error, ?_⟩
      rw [freshCheckpoint, (load_done recorded.current).silent_run, require_bind_run complete,
        require_bind_run inactive,
        lift_failed_run passed]
  | ok =>
      have written := recorded.putCheckpoint published shaped opened rfl fresh
      refine .inr ⟨opened, Leads.bind (load_leads recorded.current) ?_⟩
      rintro kept state ⟨sameKept, sameFiles⟩
      rw [sameKept, sameFiles]
      refine leads_require complete ?_
      refine leads_require inactive ?_
      refine leads_lift () passed ?_
      refine leads_write_bind (.inl written) ?_
      exact Leads.assoc ((finish_leads written reading).bind fun _ state done => leads_pure _ ⟨rfl, done⟩)

-- A checkpoint call that writes its checkpoint: its reconciliation visits the
-- early states, and what follows visits the late ones.
structure CheckpointWritten (workstreamId : String) (clock : Int) (request : CheckpointRequest) (readings : Readings)
    (descriptor : Descriptor) (applied : List Checkpoint) (pending : Option Checkpoint) (files : Files)
    (checkpoint : Checkpoint) (early late : List Files) : Prop where
  valid : validateId workstreamId "workstream id" = .ok () ∧ validateId request.checkpointId "checkpoint id" = .ok ()
  content : request.content = .ok checkpoint.content
  named : checkpoint.checkpointId = request.checkpointId
  fresh : (early.getLastD files).checkpoints.get? request.checkpointId = none
  reached : ∀ state ∈ early, Reached workstreamId clock readings.reconciled descriptor applied pending state
  reconciled : Reconciled workstreamId clock readings.reconciled descriptor applied pending (early.getLastD files)
  opened : Opened ((promised descriptor pending).settledAt readings.reconciled) checkpoint
  underway : ∀ state ∈ late, Underway workstreamId clock ((promised descriptor pending).settledAt readings.reconciled)
    (applied ++ pending.toList) (some checkpoint) state
  finished : Finished workstreamId clock ((promised descriptor pending).settledAt readings.reconciled)
    (applied ++ pending.toList) checkpoint (late.getLastD (early.getLastD files))

theorem repeat_run (recorded : Recorded workstreamId clock files descriptor applied none)
    (published : AllPublished files)
    (existing : Checkpoint) (member : existing ∈ history files) (content : Content) (preflight : Preflight)
    (reading : Int) : ∃ outcome, (repeatCheckpoint existing content preflight reading).run files = ([], outcome) ∧
      (existing.content = content → outcome = .ok ⟨existing, true, false⟩) ∧
      (existing.content ≠ content → ∃ error, outcome = .error error) := by
  by_cases same : existing.content = content
  · have leads : Leads (fun _ => False) (fun output state => output = ⟨existing, true, false⟩ ∧ state = files)
        (repeatCheckpoint existing content preflight reading) files :=
      repeat_leads recorded published existing member content preflight reading same
    obtain ⟨visited, output, done, never, sameOutput, _⟩ := leads
    have silent : visited = [] := List.eq_nil_iff_forall_not_mem.mpr never
    rw [silent, sameOutput] at done
    exact ⟨.ok ⟨existing, true, false⟩, done, fun _ => rfl, fun other => absurd same other⟩
  · exact ⟨_, refused_bind_run same _, fun right => absurd right same, fun _ => ⟨_, rfl⟩⟩

theorem reconcile_run (recorded : Recorded workstreamId clock files descriptor applied pending) (now published : Int)
    (past : now ≤ clock) : ∃ visited, Done (reconcileLocked now published) files visited () ∧
      (∀ state ∈ visited, Reached workstreamId clock now descriptor applied pending state) ∧
      Reconciled workstreamId clock now descriptor applied pending (visited.getLastD files) := by
  obtain ⟨visited, value, done, every, complete, written⟩ := reconcile_leads recorded now published past
  exact ⟨visited, done, every, written, complete⟩

theorem checkpoint_outcomes (recorded : Recorded workstreamId clock files descriptor applied pending)
    (request : CheckpointRequest) (preflight : Preflight) (readings : Readings) (past : readings.taken ≤ clock) :
    (∃ visited outcome, (checkpointWorkstream workstreamId request preflight readings).run files = (visited, outcome) ∧
      ∀ state ∈ visited, Reached workstreamId clock readings.reconciled descriptor applied pending state) ∨
    ∃ checkpoint early late, (checkpointWorkstream workstreamId request preflight readings).run files =
        (early ++ late, .ok ⟨checkpoint, false, false⟩) ∧
      CheckpointWritten workstreamId clock request readings descriptor applied pending files checkpoint early late := by
  rw [checkpointWorkstream]
  cases validWorkstream : validateId workstreamId "workstream id" with
  | error error =>
      rw [lift_failed_run rfl]
      exact .inl ⟨[], _, rfl, fun _ member => (by cases member)⟩
  | ok =>
      rw [lift_bind_run rfl]
      cases validCheckpoint : validateId request.checkpointId "checkpoint id" with
      | error error =>
          rw [lift_failed_run rfl]
          exact .inl ⟨[], _, rfl, fun _ member => (by cases member)⟩
      | ok =>
          rw [lift_bind_run rfl]
          cases checked : request.content with
          | error error =>
              rw [lift_failed_run rfl]
              exact .inl ⟨[], _, rfl, fun _ member => (by cases member)⟩
          | ok content =>
              rw [lift_bind_run rfl]
              obtain ⟨early, done, reached, written, published⟩ :=
                reconcile_run recorded readings.reconciled readings.recovered (readings.ordered.trans past)
              rw [done.bind_run, ask_bind_run]
              cases found : (early.getLastD files).checkpoints.get? request.checkpointId with
              | some existing =>
                  have member : existing ∈ history (early.getLastD files) :=
                    List.mem_map.mpr ⟨_, (Dict.mem_items _ _ _).mpr found, rfl⟩
                  obtain ⟨outcome, run, _⟩ := repeat_run written published existing member content preflight
                    readings.published
                  refine .inl ⟨early, outcome, ?_, reached⟩
                  dsimp only
                  rw [run, List.append_nil]
              | none =>
                  dsimp only
                  rcases fresh_outcomes written published request.checkpointId content preflight readings.taken
                    readings.published (content_told request content checked) found with
                    ⟨error, refused⟩ | ⟨opened, late, output, finish, underway, rfl, finished⟩
                  · refine .inl ⟨early, .error error, ?_, reached⟩
                    rw [refused, List.append_nil]
                  · refine .inr ⟨((promised descriptor pending).settledAt readings.reconciled).checkpoint workstreamId
                      request.checkpointId content readings.taken, early, late, ?_, ⟨validWorkstream, validCheckpoint⟩,
                      checked, rfl, found, reached,
                      ⟨written, published⟩, opened, underway, finished⟩
                    rw [show (freshCheckpoint workstreamId request.checkpointId content preflight readings.taken
                      readings.published).run (early.getLastD files) = _ from finish]

end Progress

end OrchestratorEngine.Workstreams
