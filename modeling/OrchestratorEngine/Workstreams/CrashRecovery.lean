import OrchestratorEngine.Workstreams.Authorization

set_option autoImplicit false

namespace OrchestratorEngine.Workstreams

open Foundation
open Foundation.Journal

def Event.undated (event : Event) : Event := { event with createdAt := 0 }

def SignalFile.undated (signal : SignalFile) : SignalFile := { signal with createdAt := 0 }

def Descriptor.undated (descriptor : Descriptor) : Descriptor := { descriptor with updatedAt := 0 }

structure SameArtifacts (first second : Files) : Prop where
  checkpoints : first.checkpoints = second.checkpoints
  results : ∀ key, first.results.get? key = second.results.get? key
  evidence : ∀ key, first.evidence.get? key = second.evidence.get? key
  events : ∀ key, (first.events.get? key).map Event.undated = (second.events.get? key).map Event.undated
  signals : ∀ key, (first.signals.get? key).map SignalFile.undated = (second.signals.get? key).map SignalFile.undated

section Artifacts

variable {workstreamId : String} {first second : Files}

theorem Stored.items (stored : Stored workstreamId first) :
    first.checkpoints.items = (history first).map fun checkpoint => (checkpoint.checkpointId, checkpoint) := by
  rw [history, List.map_map]
  conv_lhs => rw [← List.map_id first.checkpoints.items]
  refine List.map_congr_left fun item member => ?_
  rw [Function.comp_apply, stored.keyed item member]
  rfl

theorem Stored.checkpoints_eq (firstStored : Stored workstreamId first) (secondStored : Stored workstreamId second)
    (same : history first = history second) : first.checkpoints = second.checkpoints := by
  have items : first.checkpoints.items = second.checkpoints.items := by
    rw [firstStored.items, secondStored.items, same]
  cases firstDict : first.checkpoints
  cases secondDict : second.checkpoints
  rw [firstDict, secondDict] at items
  cases items
  rfl

theorem artifacts_agree (firstStored : Stored workstreamId first) (secondStored : Stored workstreamId second)
    (same : history first = history second) (published : AllPublished second) :
    (∀ key kept, first.results.get? key = some kept → second.results.get? key = some kept) ∧
    (∀ key kept, first.evidence.get? key = some kept → second.evidence.get? key = some kept) ∧
    (∀ key kept, first.events.get? key = some kept →
      (second.events.get? key).map Event.undated = some kept.undated) ∧
    ∀ key kept, first.signals.get? key = some kept →
      (second.signals.get? key).map SignalFile.undated = some kept.undated := by
  refine ⟨?_, ?_, ?_, ?_⟩
  · intro key kept found
    obtain ⟨checkpoint, member, scheduled, named, rfl, rfl⟩ := firstStored.prescribed.results key kept found
    exact (published checkpoint (same ▸ member) scheduled named).result
  · intro key kept found
    obtain ⟨checkpoint, member, scheduled, named, rfl, rfl⟩ := firstStored.prescribed.evidence key kept found
    exact (published checkpoint (same ▸ member) scheduled named).evidence
  · intro key kept found
    obtain ⟨checkpoint, member, scheduled, named, rfl, content⟩ := firstStored.prescribed.events key kept found
    rw [same] at member
    obtain ⟨other, present⟩ := Option.ne_none_iff_exists'.mp (published checkpoint member scheduled named).event
    obtain ⟨owner, ownerMember, ownerScheduled, ownerNamed, sameEvent, otherContent⟩ :=
      secondStored.prescribed.events _ _ present
    cases secondStored.owner owner checkpoint ownerMember member ownerScheduled scheduled ownerNamed named sameEvent
    cases ownerNamed.symm.trans named
    rw [present, Option.map_some, content, otherContent]
    rfl
  · intro key kept found
    obtain ⟨checkpoint, member, scheduled, named, rfl, content⟩ := firstStored.prescribed.signals key kept found
    rw [same] at member
    obtain ⟨other, present⟩ := Option.ne_none_iff_exists'.mp (published checkpoint member scheduled named).signal
    obtain ⟨owner, ownerMember, ownerScheduled, ownerNamed, sameEvent, otherContent⟩ :=
      secondStored.prescribed.signals _ _ present
    cases secondStored.owner owner checkpoint ownerMember member ownerScheduled scheduled ownerNamed named sameEvent
    cases ownerNamed.symm.trans named
    rw [present, Option.map_some, content, otherContent]
    rfl

theorem same_artifacts (firstStored : Stored workstreamId first) (secondStored : Stored workstreamId second)
    (same : history first = history second) (firstPublished : AllPublished first)
    (secondPublished : AllPublished second) :
    SameArtifacts first second := by
  obtain ⟨results, evidence, events, signals⟩ := artifacts_agree firstStored secondStored same secondPublished
  obtain ⟨results', evidence', events', signals'⟩ := artifacts_agree secondStored firstStored same.symm firstPublished
  refine ⟨firstStored.checkpoints_eq secondStored same, fun key => ?_, fun key => ?_, fun key => ?_, fun key => ?_⟩
  · exact Option.ext fun kept => ⟨results key kept, results' key kept⟩
  · exact Option.ext fun kept => ⟨evidence key kept, evidence' key kept⟩
  · cases found : first.events.get? key with
    | some kept => exact (events key kept found).symm
    | none =>
        cases other : second.events.get? key with
        | none => rfl
        | some kept =>
            have back := events' key kept other
            rw [found] at back
            cases back
  · cases found : first.signals.get? key with
    | some kept => exact (signals key kept found).symm
    | none =>
        cases other : second.signals.get? key with
        | none => rfl
        | some kept =>
            have back := signals' key kept other
            rw [found] at back
            cases back

end Artifacts

section Recovery

variable {workstreamId : String} {clock : Int} {files : Files} {descriptor : Descriptor} {applied : List Checkpoint}
  {pending : Option Checkpoint}

def recovered (now published : Int) (files : Files) : Files := (reconcileLocked now published).final files

theorem recovered_reconciled (recorded : Recorded workstreamId clock files descriptor applied pending)
    (now published : Int) (past : now ≤ clock) :
    Reconciled workstreamId clock now descriptor applied pending (recovered now published files) := by
  obtain ⟨visited, done, _, reconciled⟩ := reconcile_run recorded now published past
  rw [recovered, done.final]
  exact reconciled

theorem settled_run (recorded : Recorded workstreamId clock files descriptor applied none)
    (published : AllPublished files)
    (now reading : Int) : (reconcileLocked now reading).run files = (expire descriptor now).run files := by
  have passes : Leads (fun _ => False) (fun kept state => kept = descriptor ∧ state = files)
      (reconcileCheckpoints reading descriptor [] (history files)) files := by
    have numbered := recorded.stored.sequenced
    rw [← List.append_nil (history files)]
    refine reconcile_checkpoints_silent reading (history files) [] [] (fun checkpoint => recorded.old checkpoint) ?_ ?_
      (fun _ _ => List.not_mem_nil) (leads_pure _ ⟨rfl, rfl⟩)
    · intro checkpoint member continues
      obtain ⟨notBefore, named⟩ := (recorded.stored.shaped checkpoint member).scheduled continues
      exact ⟨_, named, (published checkpoint member _ named).signal⟩
    · rw [numbered]
      exact List.nodup_range'
  obtain ⟨visited, kept, done, never, same, _⟩ := passes
  have silent : visited = [] := List.eq_nil_iff_forall_not_mem.mpr never
  rw [silent, same] at done
  rw [reconcileLocked, (load_done recorded.current).silent_run, ask_bind_run, recorded.stored.sorted, done.silent_run]
  have migrated : Done (migrateContinuationState descriptor (history files)) files [] descriptor := by
    rw [migrateContinuationState, if_pos recorded.accounts.version.ge]
    exact (pure_done _).mpr ⟨rfl, rfl⟩
  rw [migrated.silent_run]

theorem expire_run (descriptor : Descriptor) (now : Int) (files : Files) :
    (expire descriptor now).run files = ([], .ok ()) ∧ descriptor.settledAt now = descriptor ∨
      (∃ reason, (expire descriptor now).run files = ([putDescriptor (descriptor.expired reason now) files], .ok ()) ∧
        wallLimitReason descriptor now = some reason ∧ descriptor.settledAt now = descriptor.expired reason now ∧
        (descriptor.status = .active ∨ descriptor.status = .waitingExternal)) := by
  rw [expire, Descriptor.settledAt]
  split
  case isTrue running =>
    cases passed : wallLimitReason descriptor now with
    | none => exact .inl ⟨rfl, rfl⟩
    | some reason => exact .inr ⟨reason, rfl, rfl, rfl, running⟩
  case isFalse _ => exact .inl ⟨rfl, rfl⟩

theorem settled_idle (now : Int) (stopped : descriptor.status = .needsUser) :
    descriptor.settledAt now = descriptor := by
  rw [Descriptor.settledAt, if_neg]
  rw [stopped]
  decide

theorem wall_limit_text (first second : Int) (early late : String) (descriptor : Descriptor)
    (firstPassed : wallLimitReason descriptor first = some early)
    (secondPassed : wallLimitReason descriptor second = some late) : early = late := by
  simp only [wallLimitReason] at firstPassed secondPassed
  cases limit : descriptor.maxWallSeconds with
  | none =>
      rw [limit] at firstPassed
      cases firstPassed
  | some seconds =>
      rw [limit] at firstPassed secondPassed
      simp only at firstPassed secondPassed
      split at firstPassed
      · split at secondPassed
        · exact (Option.some.inj firstPassed).symm.trans (Option.some.inj secondPassed)
        · cases secondPassed
      · cases firstPassed

theorem settled_twice (first second : Int) (forward : first ≤ second) :
    ((descriptor.settledAt first).settledAt second).undated = (descriptor.settledAt second).undated := by
  rcases settled_at_cases descriptor first with same | ⟨running, early, passed, expired⟩
  · rw [same]
  · rcases settled_at_cases descriptor second with unexpired | ⟨_, late, later, expiredLater⟩
    · have still := wall_limit_later descriptor first second forward (by rw [passed]; exact Option.some_ne_none _)
      obtain ⟨reason, found⟩ := Option.ne_none_iff_exists'.mp still
      rw [Descriptor.settledAt, if_pos running, found] at unexpired
      have stopped : descriptor.status = .needsUser := (congrArg Descriptor.status unexpired).symm
      rw [stopped] at running
      exact absurd running (by decide)
    · rw [expired, settled_idle second rfl, expiredLater, wall_limit_text first second early late
        descriptor passed later]
      rfl

structure AsIfNever (now published : Int) (stopped before : Files) : Prop where
  artifacts : SameArtifacts (recovered now published stopped) (recovered now published before)
  descriptor : (recovered now published stopped).descriptor.map Descriptor.undated =
    (recovered now published before).descriptor.map Descriptor.undated

structure AsCompleted (now published : Int) (stopped whole : Files) : Prop where
  artifacts : SameArtifacts (recovered now published stopped) whole
  descriptor : (recovered now published stopped).descriptor = (recovered now published whole).descriptor
  kept : ∀ descriptor, whole.descriptor = some descriptor → wallLimitReason descriptor now = none →
    (recovered now published stopped).descriptor = some descriptor

variable {stopped : Files}

theorem reached_as_never (recorded : Recorded workstreamId clock files descriptor applied pending) (first : Int)
    (reached : Reached workstreamId clock first descriptor applied pending stopped)
    (now published : Int) (past : now ≤ clock) (forward : first ≤ now) : AsIfNever now published stopped files := by
  have before := recovered_reconciled recorded now published past
  rcases reached with (same | written) | settled
  · have after := recovered_reconciled same now published past
    refine ⟨same_artifacts after.recorded.stored before.recorded.stored ?_ after.published before.published, ?_⟩
    · rw [after.recorded.split, before.recorded.split]
    · rw [after.recorded.current, before.recorded.current]
  · have after := recovered_reconciled written now published past
    refine ⟨same_artifacts after.recorded.stored before.recorded.stored ?_ after.published before.published, ?_⟩
    · rw [after.recorded.split, before.recorded.split]
      simp
    · rw [after.recorded.current, before.recorded.current]
      rfl
  · have after := recovered_reconciled settled now published past
    refine ⟨same_artifacts after.recorded.stored before.recorded.stored ?_ after.published before.published, ?_⟩
    · rw [after.recorded.split, before.recorded.split]
      simp
    · rw [after.recorded.current, before.recorded.current, Option.map_some, Option.map_some]
      exact congrArg some (settled_twice first now forward)

variable {checkpoint : Checkpoint}

theorem underway_as_completed {stopped whole : Files}
    (underway : Underway workstreamId clock descriptor applied (some checkpoint) stopped)
    (finished : Finished workstreamId clock descriptor applied checkpoint whole) (now published : Int)
    (past : now ≤ clock) : AsCompleted now published stopped whole := by
  have complete := recovered_reconciled finished.recorded now published past
  have after : Reconciled workstreamId clock now descriptor applied (some checkpoint)
    (recovered now published stopped) := by
    rcases underway with waiting | written
    · exact recovered_reconciled waiting now published past
    · have reconciled := recovered_reconciled written now published past
      refine ⟨?_, reconciled.published⟩
      have recorded := reconciled.recorded
      rw [Option.toList_none, List.append_nil] at recorded
      exact recorded
  refine ⟨same_artifacts after.recorded.stored finished.recorded.stored ?_ after.published finished.published, ?_, ?_⟩
  · rw [after.recorded.split, finished.recorded.split]
    rfl
  · rw [after.recorded.current, complete.recorded.current]
    rfl
  · intro kept found running
    cases finished.recorded.current.symm.trans found
    rw [after.recorded.current]
    exact congrArg some (settled_open now running)

theorem steady (recorded : Recorded workstreamId clock files descriptor applied none) (published : AllPublished files)
    (now again reading : Int) (settled : descriptor.settledAt now = descriptor) :
    ((reconcileLocked again reading).run files).1 = [] ∨ ∃ reason, wallLimitReason descriptor now = none ∧
      wallLimitReason descriptor again = some reason ∧
      ((reconcileLocked again reading).run files).1 = [putDescriptor (descriptor.expired reason again) files] := by
  rw [settled_run recorded published again reading]
  rcases expire_run descriptor again files with ⟨silent, _⟩ | ⟨reason, run, passed, _, running⟩
  · rw [silent]
    exact .inl rfl
  · refine .inr ⟨reason, ?_, passed, by rw [run]⟩
    cases unpassed : wallLimitReason descriptor now with
    | none => rfl
    | some early =>
        rw [Descriptor.settledAt, if_pos running, unpassed] at settled
        have stopped : descriptor.status = .needsUser := (congrArg Descriptor.status settled).symm
        rw [stopped] at running
        exact absurd running (by decide)

theorem repeated_call (recorded : Recorded workstreamId clock files descriptor applied pending) (existing : Checkpoint)
    (member : existing ∈ history files) (again : CheckpointRequest) (preflight : Preflight) (readings : Readings)
    (past : readings.taken ≤ clock) (named : existing.checkpointId = again.checkpointId)
    (valid : validateId workstreamId "workstream id" = .ok () ∧ validateId again.checkpointId
    "checkpoint id" = .ok ()) :
    (again.content = .ok existing.content → (checkpointWorkstream workstreamId again preflight readings).run files =
        (((reconcileLocked readings.reconciled readings.recovered).run files).1, .ok ⟨existing, true, false⟩)) ∧
      (again.content ≠ .ok existing.content →
        (∃ error, ((checkpointWorkstream workstreamId again preflight readings).run files).2 = .error error) ∧
        (((checkpointWorkstream workstreamId again preflight readings).run files).1 = [] ∨
          ((checkpointWorkstream workstreamId again preflight readings).run files).1 =
            ((reconcileLocked readings.reconciled readings.recovered).run files).1)) := by
  rw [checkpointWorkstream, lift_bind_run valid.1, lift_bind_run valid.2]
  cases checked : again.content with
  | error error =>
      rw [lift_failed_run rfl]
      exact ⟨fun wrong => (by cases wrong), fun _ => ⟨⟨error, rfl⟩, .inl rfl⟩⟩
  | ok content =>
      obtain ⟨visited, done, _, written, published⟩ :=
        reconcile_run recorded readings.reconciled readings.recovered (readings.ordered.trans past)
      have kept : existing ∈ history (visited.getLastD files) := by
        rw [written.split, Option.toList_none, List.append_nil, ← recorded.split]
        exact member
      have found := written.stored.found existing kept
      rw [named] at found
      obtain ⟨outcome, run, accepted, rejected⟩ :=
        repeat_run written published existing kept content preflight readings.published
      have writes : ((reconcileLocked readings.reconciled readings.recovered).run files).1 = visited :=
        congrArg Prod.fst (show _ = _ from done)
      rw [lift_bind_run rfl, done.bind_run, ask_bind_run, found]
      dsimp only
      rw [run, writes, List.append_nil]
      constructor
      · intro same
        rw [accepted (Except.ok.inj same).symm]
      · intro other
        obtain ⟨error, failed⟩ := rejected fun same => other (congrArg Except.ok same.symm)
        exact ⟨⟨error, failed⟩, .inr rfl⟩

theorem settled_again (now : Int) : (descriptor.settledAt now).settledAt now = descriptor.settledAt now := by
  rcases settled_at_cases descriptor now with same | ⟨_, reason, _, expired⟩
  · rw [same, same]
  · rw [expired, settled_idle now rfl]

def Steady (now : Int) (files : Files) : Prop := ∀ again reading,
  ((reconcileLocked again reading).run files).1 = [] ∨ ∃ descriptor reason, files.descriptor = some descriptor ∧
    wallLimitReason descriptor now = none ∧ wallLimitReason descriptor again = some reason ∧
    ((reconcileLocked again reading).run files).1 = [putDescriptor (descriptor.expired reason again) files]

def Repeats (workstreamId : String) (request : CheckpointRequest) (checkpoint : Checkpoint) (world : World) : Prop :=
  ∀ again preflight readings, world.clock ≤ readings.taken → again.checkpointId = request.checkpointId →
    (again.content = request.content → (checkpointWorkstream workstreamId again preflight readings).run world.files =
      (((reconcileLocked readings.reconciled readings.recovered).run world.files).1, .ok ⟨checkpoint, true, false⟩)) ∧
    (again.content ≠ request.content →
      (∃ error, ((checkpointWorkstream workstreamId again preflight readings).run world.files).2 = .error error) ∧
      (((checkpointWorkstream workstreamId again preflight readings).run world.files).1 = [] ∨
        ((checkpointWorkstream workstreamId again preflight readings).run world.files).1 =
          ((reconcileLocked readings.reconciled readings.recovered).run world.files).1))

theorem recovered_steady (recorded : Recorded workstreamId clock files descriptor applied pending) (now published : Int)
    (past : now ≤ clock) : Steady now (recovered now published files) := by
  intro again reading
  have after := recovered_reconciled recorded now published past
  rcases steady after.recorded after.published now again reading (settled_again now) with silent | ⟨reason,
    unpassed, passed, run⟩
  · exact .inl silent
  · exact .inr ⟨_, reason, after.recorded.current, unpassed, passed, run⟩

theorem unstarted_checkpoint (workstreamId : String) (request : CheckpointRequest) (preflight : Preflight)
    (readings : Readings) : ((checkpointWorkstream workstreamId request preflight readings).run {}).1 = [] := by
  have missing : (reconcileLocked readings.reconciled readings.recovered).run {} =
      ([], .error (.core "workstream.json is missing")) := rfl
  rw [checkpointWorkstream]
  cases validateId workstreamId "workstream id" with
  | error error => rw [lift_failed_run rfl]
  | ok =>
      rw [lift_bind_run rfl]
      cases validateId request.checkpointId "checkpoint id" with
      | error error => rw [lift_failed_run rfl]
      | ok =>
          rw [lift_bind_run rfl]
          cases request.content with
          | error error => rw [lift_failed_run rfl]
          | ok content => rw [lift_bind_run rfl, failed_bind_run missing]

theorem reached_history {now : Int}
    (reached : Reached workstreamId clock now descriptor applied pending stopped) :
    history stopped = applied ++ pending.toList ∧ Stored workstreamId stopped := by
  rcases reached with (same | written) | settled
  · exact ⟨same.split, same.stored⟩
  · exact ⟨by rw [written.split]; simp, written.stored⟩
  · exact ⟨by rw [settled.split]; simp, settled.stored⟩

theorem underway_history
    (underway : Underway workstreamId clock descriptor applied (some checkpoint) stopped) :
    history stopped = applied ++ [checkpoint] ∧ Stored workstreamId stopped := by
  rcases underway with waiting | written
  · exact ⟨waiting.split, waiting.stored⟩
  · exact ⟨by rw [written.split]; simp, written.stored⟩

theorem checkpoint_stops (recorded : Recorded workstreamId clock files descriptor applied pending)
    (request : CheckpointRequest) (preflight : Preflight) (readings : Readings) (past : readings.taken ≤ clock)
    (stopped : Files) (left : stopped ∈ (checkpointWorkstream workstreamId request preflight readings).states files) :
    stopped.checkpoints = files.checkpoints ∧
        Reached workstreamId clock readings.reconciled descriptor applied pending stopped ∨
      stopped.checkpoints ≠ files.checkpoints ∧ ∃ checkpoint early late,
        (checkpointWorkstream workstreamId request preflight readings).final files = late.getLastD
        (early.getLastD files) ∧
        CheckpointWritten workstreamId clock request readings descriptor applied pending files checkpoint early late ∧
        stopped ∈ late := by
  have reconciling (reached : Reached workstreamId clock readings.reconciled descriptor applied pending stopped) :
      stopped.checkpoints = files.checkpoints := by
    obtain ⟨listed, stored⟩ := reached_history reached
    exact stored.checkpoints_eq recorded.stored (listed.trans recorded.split.symm)
  rcases List.mem_cons.mp left with same | visited
  · exact .inl ⟨by rw [same], by rw [same]; exact .inl (.inl recorded)⟩
  · rcases checkpoint_outcomes recorded request preflight readings past with
      ⟨early, outcome, run, reached⟩ | ⟨checkpoint, early, late, run, written⟩
    · rw [run] at visited
      exact .inl ⟨reconciling (reached stopped visited), reached stopped visited⟩
    · rw [run] at visited
      rcases List.mem_append.mp visited with before | after
      · exact .inl ⟨reconciling (written.reached stopped before), written.reached stopped before⟩
      · refine .inr ⟨fun same => ?_, checkpoint, early, late, ?_, written, after⟩
        · have longer := (underway_history (written.underway stopped after)).1
          have listed : history stopped = history files := congrArg (fun dict => dict.items.map Prod.snd) same
          have long := congrArg List.length ((recorded.split.symm.trans listed.symm).trans longer)
          simp at long
        · rw [final, run, get_last_append]

theorem repeats_later {start later : World} {request : CheckpointRequest}
    (recorded : Recorded workstreamId start.clock start.files descriptor applied pending)
    (member : checkpoint ∈ history start.files) (named : checkpoint.checkpointId = request.checkpointId)
    (content : request.content = .ok checkpoint.content)
    (valid : validateId workstreamId "workstream id" = .ok () ∧ validateId request.checkpointId
    "checkpoint id" = .ok ())
    (run : Runs workstreamId start later) : Repeats workstreamId request checkpoint later := by
  obtain ⟨_, middle, middleApplied, middlePending, kept, advances⟩ := run_advances run recorded
  intro again preflight readings current same
  have still : checkpoint ∈ history later.files :=
    (run_history run (.inr ⟨_, _, _, recorded⟩)).subset member
  rw [content]
  exact repeated_call (kept.later current) checkpoint still again preflight readings (le_refl _) (named.trans same.symm)
    (same ▸ valid)

end Recovery

theorem checkpoint_recovers (workstreamId : String) (origin : Int) (world : World)
    (run : Runs workstreamId ⟨{}, origin⟩ world) (request : CheckpointRequest) (preflight : Preflight)
    (readings : Readings)
    (current : world.clock ≤ readings.taken) (stopped : Files)
    (left : stopped ∈ (checkpointWorkstream workstreamId request preflight readings).states world.files) :
    (∀ now published, readings.taken ≤ now →
      (stopped.checkpoints = world.files.checkpoints → AsIfNever now published stopped world.files) ∧
      (stopped.checkpoints ≠ world.files.checkpoints → AsCompleted now published stopped
        ((checkpointWorkstream workstreamId request preflight readings).final world.files)) ∧
      Steady now (recovered now published stopped)) ∧
    (stopped.checkpoints ≠ world.files.checkpoints → ∃ checkpoint,
      stopped.checkpoints.get? request.checkpointId = some checkpoint ∧ request.content = .ok checkpoint.content ∧
      ∀ later, Runs workstreamId ⟨stopped, readings.taken⟩ later → Repeats workstreamId request checkpoint later) := by
  rcases run_held run rfl with empty | ⟨descriptor, applied, pending, recorded⟩
  · rw [empty, states, unstarted_checkpoint] at left
    have same : stopped = {} := List.mem_singleton.mp left
    rw [same, empty]
    refine ⟨fun now published _ => ⟨fun _ => ?_, fun other => absurd rfl other, fun again reading => .inl rfl⟩,
      fun other => absurd rfl other⟩
    exact ⟨⟨rfl, fun _ => rfl, fun _ => rfl, fun _ => rfl, fun _ => rfl⟩, rfl⟩
  · refine ⟨fun now published forward => ?_, fun changed => ?_⟩
    · have late := recorded.later (current.trans forward)
      rcases checkpoint_stops late request preflight readings forward stopped left with
        ⟨same, reached⟩ | ⟨changed, checkpoint, early, rest, whole, written, member⟩
      · refine ⟨fun _ => ?_, fun other => absurd same other, ?_⟩
        · exact reached_as_never late readings.reconciled reached now published (le_refl _)
            (readings.ordered.trans forward)
        · rcases reached with (same | written) | settled
          · exact recovered_steady same now published (le_refl _)
          · exact recovered_steady written now published (le_refl _)
          · exact recovered_steady settled now published (le_refl _)
      · refine ⟨fun same => absurd same changed, fun _ => ?_, ?_⟩
        · rw [whole]
          exact underway_as_completed (written.underway stopped member) written.finished now published (le_refl _)
        · rcases written.underway stopped member with waiting | done
          · exact recovered_steady waiting now published (le_refl _)
          · exact recovered_steady done now published (le_refl _)
    · have now := recorded.later current
      rcases checkpoint_stops now request preflight readings (le_refl _) stopped left with
        ⟨same, _⟩ | ⟨_, checkpoint, early, rest, _, written, member⟩
      · exact absurd same changed
      · have underway := written.underway stopped member
        obtain ⟨listed, stored⟩ := underway_history underway
        have stillThere : checkpoint ∈ history stopped := by
          rw [listed]
          exact List.mem_append_right _ List.mem_cons_self
        have found := stored.found checkpoint stillThere
        rw [written.named] at found
        refine ⟨checkpoint, found, written.content, fun later onward => ?_⟩
        rcases underway with waiting | done
        · exact repeats_later waiting stillThere written.named written.content written.valid onward
        · exact repeats_later done stillThere written.named written.content written.valid onward

def continuation : CheckpointRequest := ⟨"c", .continues, "done", some "next", none, true⟩

def stoppedAfterFile : Files :=
  ((checkpointWorkstream "w" continuation (.ok ()) (readAt 5)).states started).getD 1 {}

theorem stopped_checkpoint_recovers : AsCompleted 9 9 stoppedAfterFile
    ((checkpointWorkstream "w" continuation (.ok ()) (readAt 5)).final started) := by
  have first : Stepped "w" ⟨{}, 0⟩ ⟨started, 0⟩ :=
    .call ⟨{}, 0⟩ _ (readAt 0) started (le_refl _) (final_mem_states _ _)
  exact ((checkpoint_recovers "w" 0 ⟨started, 0⟩ (.tail .refl first) continuation (.ok ()) (readAt 5) (by decide)
    stoppedAfterFile (by decide)).1 9 9 (by decide)).2.1 (by decide)

theorem recovery_differs : ∃ stopped ∈ (checkpointWorkstream "w" continuation (.ok ()) (readAt 5)).states started,
    stopped.checkpoints ≠ started.checkpoints ∧
    (recovered 60000 60000 stopped).descriptor ≠
      ((checkpointWorkstream "w" continuation (.ok ()) (readAt 5)).final started).descriptor ∧
    (recovered 9 9 stopped).events ≠
      ((checkpointWorkstream "w" continuation (.ok ()) (readAt 5)).final started).events :=
  ⟨stoppedAfterFile, by decide, by decide, by decide, by decide⟩

end OrchestratorEngine.Workstreams
