import Mathlib.Logic.Relation
import OrchestratorEngine.Workstreams.Progress

set_option autoImplicit false

namespace OrchestratorEngine.Workstreams

open Foundation
open Foundation.Journal

section Calls

variable {workstreamId : String} {clock : Int} {files : Files} {descriptor : Descriptor} {applied : List Checkpoint}
  {pending : Option Checkpoint}

theorem checkpoint_keeps (recorded : Recorded workstreamId clock files descriptor applied pending)
    (request : CheckpointRequest) (preflight : Preflight) (readings : Readings) (past : readings.taken ≤ clock) :
    Keeps (Progress workstreamId clock descriptor applied pending) (fun _ _ => True)
      (checkpointWorkstream workstreamId request preflight readings) files := by
  have advances := recorded.reconciled_advances readings.reconciled
  refine ⟨fun state member => ?_, fun _ _ => trivial⟩
  rcases checkpoint_outcomes recorded request preflight readings past with
    ⟨visited, outcome, run, reached⟩ | ⟨checkpoint, early, late, run, written⟩
  · rw [run] at member
    exact Reached.progress recorded (reached state member)
  · rw [run] at member
    rcases List.mem_append.mp member with before | after
    · exact Reached.progress recorded (written.reached state before)
    · have opened := opened_advances (applied ++ pending.toList) written.opened
      refine Progress.trans (advances.trans opened) ?_
      rcases written.underway state after with waiting | done
      · exact ⟨_, _, _, waiting, Advances.refl⟩
      · exact ⟨_, _, _, done, promised_advances fun complete => absurd complete written.opened.unfinished⟩

theorem Accounts.resumed (accounts : Accounts clock descriptor applied) (now : Int)
    (stopped : descriptor.status ≠ .active) :
    Accounts clock (descriptor.resumed now) applied := by
  refine ⟨accounts.count, rfl, accounts.counted, accounts.within, fun _ granted => (by cases granted), ?_⟩
  intro checkpoint last continues
  rcases accounts.authorized checkpoint last continues with ⟨active, _⟩ | passed
  · exact absurd active stopped
  · exact .inr passed

theorem resume_keeps (recorded : Recorded workstreamId clock files descriptor applied pending) (readings : Readings)
    (past : readings.taken ≤ clock) :
    Keeps (Progress workstreamId clock descriptor applied pending) (fun _ _ => True)
    (resumeWorkstream readings) files := by
  rw [resumeWorkstream, keeps_bind]
  refine (reconcile_keeps recorded _ _ (readings.ordered.trans past)).mono (fun _ done => done) ?_
  rintro _ state ⟨written, published⟩
  have advances := recorded.reconciled_advances readings.reconciled
  rw [keeps_bind]
  refine (load_leads written.current).keeps.mono (fun _ done => done) ?_
  rintro kept later ⟨sameKept, sameFiles⟩
  rw [sameKept, sameFiles]
  simp only [keeps_bind, keeps_require, keeps_write, and_true]
  intro unfinished stopped
  refine Progress.trans advances ⟨_, _, _, written.rewrite (written.accounts.resumed readings.taken stopped), ?_⟩
  exact ⟨List.prefix_refl _, List.prefix_refl _, rfl, rfl, rfl, fun complete _ => absurd complete unfinished⟩

theorem start_keeps (recorded : Recorded workstreamId clock files descriptor applied pending) (settings : Settings)
    (wakeTarget : Except Error (Option String)) (created : Int) :
    Keeps (Progress workstreamId clock descriptor applied pending) (fun _ _ => True)
      (startWorkstream workstreamId settings wakeTarget created) files := by
  simp only [startWorkstream, keeps_bind, keeps_lift, keeps_require, keeps_ask]
  intro _ _ _ _ _ _ _ _ _ _ _ absent
  rw [recorded.current] at absent
  exact absurd rfl absent

theorem guarded_state_run (recorded : Recorded workstreamId clock files descriptor applied pending)
    (checkpointId : String) (readings : Readings) (past : readings.taken ≤ clock) :
    ∃ visited, (guardedState checkpointId readings).run files = (visited,
        match (visited.getLastD files).checkpoints.get? checkpointId with
        | some checkpoint => .ok ((promised descriptor pending).settledAt readings.reconciled, checkpoint)
        | none => .error (.core "checkpoint file is missing")) ∧
      (∀ state ∈ visited, Progress workstreamId clock descriptor applied pending state) ∧
      Reconciled workstreamId clock readings.reconciled descriptor applied pending (visited.getLastD files) := by
  obtain ⟨visited, value, done, every, published, written⟩ :=
    reconcile_leads recorded readings.reconciled readings.recovered (readings.ordered.trans past)
  refine ⟨visited, ?_, fun state member => Reached.progress recorded (every state member), written, published⟩
  rw [guardedState, done.bind_run, (load_done written.current).silent_run]
  have asked : Done (ask fun state => state.checkpoints.get? checkpointId : Program (Option Checkpoint))
      (visited.getLastD files) [] ((visited.getLastD files).checkpoints.get? checkpointId) :=
      (ask_done _).mpr ⟨rfl, rfl⟩
  rw [asked.silent_run]
  cases (visited.getLastD files).checkpoints.get? checkpointId with
  | none => exact Prod.ext (List.append_nil _) rfl
  | some checkpoint => exact Prod.ext (List.append_nil _) rfl

theorem Accounts.expiredAtDelivery (accounts : Accounts clock descriptor applied) (reason : String) (now : Int)
    (passed : wallLimitReason descriptor clock ≠ none) :
    Accounts clock (descriptor.expiredAtDelivery reason now) applied :=
  ⟨accounts.count, accounts.version, accounts.counted, accounts.within, fun _ granted => (by cases granted),
    fun _ _ _ => .inr passed⟩

theorem guard_locked_keeps (recorded : Recorded workstreamId clock files descriptor applied pending)
    (checkpointId : String) (signal : Signal) (readings : Readings) (past : readings.taken ≤ clock) :
    Keeps (Progress workstreamId clock descriptor applied pending) (fun _ _ => True)
      (guardLocked checkpointId signal readings) files := by
  obtain ⟨visited, run, every, written, _⟩ := guarded_state_run recorded checkpointId readings past
  have advances := recorded.reconciled_advances readings.reconciled
  rw [guardLocked, keeps_bind, keeps_attempt]
  simp only [final, run]
  refine ⟨every, ?_⟩
  cases (visited.getLastD files).checkpoints.get? checkpointId with
  | none =>
      rw [keeps_pure]
      trivial
  | some checkpoint =>
      split
      case h_1 wrong => cases wrong
      case h_2 wrong => cases wrong
      case h_3 kept same found =>
        cases found
        split
        · rw [keeps_pure]
          trivial
        · rename_i active
          cases passed : wallLimitReason ((promised descriptor pending).settledAt readings.reconciled)
            readings.taken with
          | some reason =>
              simp only [keeps_bind, keeps_write, keeps_pure, and_true]
              have accounts := written.accounts.expiredAtDelivery reason readings.published
                (wall_limit_later _ _ clock past (by rw [passed]; exact Option.some_ne_none _))
              refine Progress.trans advances ⟨_, _, _, written.rewrite accounts, ?_⟩
              refine ⟨List.prefix_refl _, List.prefix_refl _, rfl, rfl, rfl, fun complete _ => ?_⟩
              exact absurd (complete.symm.trans (not_not.mp active)) (by decide)
          | none =>
              dsimp only
              split <;> (rw [keeps_pure]; trivial)

theorem guard_keeps (recorded : Recorded workstreamId clock files descriptor applied pending) (signal : Signal)
    (readings : Readings) (past : readings.taken ≤ clock) :
    Keeps (Progress workstreamId clock descriptor applied pending) (fun _ _ => True)
      (continuationDeliveryGuard workstreamId signal readings) files := by
  rw [continuationDeliveryGuard]
  split
  · rw [keeps_pure]
    trivial
  · cases signal.identity with
    | none =>
        rw [keeps_pure]
        trivial
    | some identity =>
        dsimp only
        split
        · rw [keeps_bind]
          refine (guard_locked_keeps recorded identity.2 signal readings past).mono (fun _ done => done) fun _ _ _ => ?_
          rw [keeps_pure]
          trivial
        · rw [keeps_pure]
          trivial

theorem perform_keeps (recorded : Recorded workstreamId clock files descriptor applied pending) (call : Call)
    (readings : Readings) (past : readings.taken ≤ clock) :
    Keeps (Progress workstreamId clock descriptor applied pending) (fun _ _ => True)
      (perform workstreamId readings call) files := by
  cases call with
  | start settings wakeTarget => exact start_keeps recorded settings wakeTarget readings.taken
  | checkpoint request preflight =>
      rw [perform, keeps_bind]
      refine (checkpoint_keeps recorded request preflight readings past).mono (fun _ done => done) fun _ _ _ => ?_
      rw [keeps_pure]
      trivial
  | reconcile =>
      exact (reconcile_keeps recorded _ _ (readings.ordered.trans past)).mono (fun _ done => done) fun _ _ _ => trivial
  | resume => exact resume_keeps recorded readings past
  | delivery signal =>
      rw [perform, keeps_bind]
      refine (guard_keeps recorded signal readings past).mono (fun _ done => done) fun _ _ _ => ?_
      rw [keeps_pure]
      trivial

end Calls

def Highest (files : Files) (checkpoint : Checkpoint) : Prop :=
  checkpoint ∈ history files ∧ ∀ other ∈ history files, other.sequence ≤ checkpoint.sequence

def Authorized (files : Files) (checkpointId : String) (eventId : Option EventId) (instant : Int) : Prop :=
  ∃ checkpoint, Highest files checkpoint ∧ checkpoint.checkpointId = checkpointId ∧ checkpoint.decision = .continues ∧
    checkpoint.scheduled.map Scheduled.eventId = eventId ∧
    ∃ descriptor, files.descriptor = some descriptor ∧ descriptor.status = .active ∧
      wallLimitReason descriptor instant = none

section Deliveries

variable {workstreamId : String} {clock : Int} {files : Files} {descriptor : Descriptor} {applied : List Checkpoint}
  {pending : Option Checkpoint}

theorem Stored.highest_iff (stored : Stored workstreamId files) (checkpoint : Checkpoint) :
    Highest files checkpoint ↔ (history files).getLast? = some checkpoint := by
  constructor
  · rintro ⟨member, highest⟩
    obtain ⟨index, inside, found⟩ := List.getElem_of_mem member
    have numbered := stored.sequence_eq index checkpoint (by rw [List.getElem?_eq_getElem inside, found])
    have filled : history files ≠ [] := List.ne_nil_of_mem member
    have final := highest ((history files).getLast filled) (List.getLast_mem filled)
    have last := stored.sequence_eq ((history files).length - 1) ((history files).getLast filled) (by
      rw [← List.getLast?_eq_getElem?, List.getLast?_eq_some_getLast filled])
    rw [List.getLast?_eq_getElem?, List.getElem?_eq_some_iff]
    have same : (history files).length - 1 = index := by omega
    exact ⟨by omega, by simp only [same, found]⟩
  · intro last
    refine ⟨List.mem_of_getLast? last, fun other member => ?_⟩
    obtain ⟨index, inside, found⟩ := List.getElem_of_mem member
    have numbered := stored.sequence_eq index other (by rw [List.getElem?_eq_getElem inside, found])
    have highest := stored.sequence_eq _ checkpoint (List.getLast?_eq_getElem? ▸ last)
    omega

theorem Recorded.latest (recorded : Recorded workstreamId clock files descriptor applied pending)
    (checkpoint : Checkpoint)
    (last : (history files).getLast? = some checkpoint) (continues : checkpoint.decision = .continues) :
    descriptor.status = .active ∨ wallLimitReason descriptor clock ≠ none := by
  rw [recorded.split] at last
  cases pending with
  | none =>
      rw [Option.toList_none, List.append_nil] at last
      exact (recorded.accounts.authorized checkpoint last continues).imp And.left id
  | some waiting =>
      rw [Option.toList_some, List.getLast?_concat] at last
      cases last
      exact .inl ((recorded.opened checkpoint rfl).active continues)

theorem promised_wall (now : Int) : wallLimitReason (promised descriptor pending) now = wallLimitReason
    descriptor now := by
  cases pending <;> rfl

theorem settled_open (now : Int) (running : wallLimitReason descriptor now = none) :
    descriptor.settledAt now = descriptor := by
  rcases settled_at_cases descriptor now with same | ⟨_, reason, passed, _⟩
  · exact same
  · cases running.symm.trans passed

theorem guard_locked_delivers (recorded : Recorded workstreamId clock files descriptor applied pending)
    (checkpointId : String) (signal : Signal) (readings : Readings) (past : readings.taken ≤ clock) :
    ((guardLocked checkpointId signal readings).run files).2 = .ok .deliver ↔
      ∃ checkpoint ∈ history files, checkpoint.checkpointId = checkpointId ∧ checkpoint.decision = .continues ∧
        checkpoint.scheduled.map Scheduled.eventId = signal.eventId ∧
        ((promised descriptor pending).settledAt readings.reconciled).status = .active ∧
        wallLimitReason ((promised descriptor pending).settledAt readings.reconciled) readings.taken = none ∧
        ((promised descriptor pending).settledAt readings.reconciled).activeContinuation.map
          ActiveContinuation.eventId = signal.eventId := by
  obtain ⟨visited, run, _, written, _⟩ := guarded_state_run recorded checkpointId readings past
  have sameHistory : history (visited.getLastD files) = history files := by
    rw [written.split, recorded.split, Option.toList_none, List.append_nil]
  have attempted : Done (attempt (guardedState checkpointId readings)) files visited _ := (attempt_done _ _).mpr run
  rw [guardLocked, attempted.bind_run]
  cases found : (visited.getLastD files).checkpoints.get? checkpointId with
  | none =>
      constructor
      · intro delivered
        cases delivered
      · rintro ⟨checkpoint, member, rfl, _⟩
        rw [← sameHistory] at member
        cases found.symm.trans (written.stored.found checkpoint member)
  | some checkpoint =>
      have listed : checkpoint ∈ history files := by
        rw [← sameHistory]
        exact List.mem_map.mpr ⟨_, (Dict.mem_items _ _ _).mpr found, rfl⟩
      have named : checkpoint.checkpointId = checkpointId := by
        exact written.stored.keyed (checkpointId, checkpoint) ((Dict.mem_items _ _ _).mpr found)
      have only : ∀ other ∈ history files, other.checkpointId = checkpointId → other = checkpoint := by
        intro other member same
        exact recorded.stored.unique other checkpoint member listed (same.trans named.symm)
      generalize (promised descriptor pending).settledAt readings.reconciled = settled
      dsimp only
      constructor
      · intro delivered
        by_cases active : settled.status = .active
        · rw [if_neg (not_not.mpr active)] at delivered
          cases running : wallLimitReason settled readings.taken with
          | some reason =>
              rw [running] at delivered
              cases delivered
          | none =>
              rw [running] at delivered
              dsimp only at delivered
              split at delivered
              · cases delivered
              · rename_i agree
                simp only [not_or, not_not] at agree
                exact ⟨checkpoint, listed, named, agree.1, agree.2.1, active, rfl, agree.2.2⟩
        · rw [if_pos active] at delivered
          cases delivered
      · rintro ⟨other, member, same, continues, event, active, running, granted⟩
        cases only other member same
        rw [if_neg (not_not.mpr active), running]
        dsimp only
        rw [if_neg]
        · rfl
        · simp only [not_or, not_not]
          exact ⟨continues, event, granted⟩

theorem settled_wall (now instant : Int) :
    wallLimitReason ((promised descriptor pending).settledAt now) instant = wallLimitReason descriptor instant := by
  rcases settled_at_cases (promised descriptor pending) now with same | ⟨_, reason, _, expired⟩
  · rw [same, promised_wall]
  · have same : wallLimitReason (promised descriptor pending) instant = wallLimitReason descriptor instant :=
      promised_wall instant
    rw [expired, ← same]
    rfl

theorem wrapped_delivers (body : Program Delivery) (start : Files) :
    ((body >>= fun delivery => (pure (some delivery) : Program (Option Delivery))).run start).2 = .ok (some .deliver) ↔
      (body.run start).2 = .ok .deliver := by
  rcases ran : body.run start with ⟨visited, error | delivery⟩
  · rw [failed_bind_run ran]
    exact ⟨fun wrong => (by cases wrong), fun wrong => (by cases wrong)⟩
  · rw [Done.bind_run ran]
    change Except.ok (some delivery) = _ ↔ _
    simp

theorem guard_delivers (signal : Signal) (readings : Readings) (checkpointId : String)
    (recorded : Recorded workstreamId readings.taken files descriptor applied pending)
    (source : signal.workstreamSource = true) (identity : signal.identity = some (workstreamId, checkpointId)) :
    ((continuationDeliveryGuard workstreamId signal readings).run files).2 = .ok (some .deliver) ↔
      Authorized files checkpointId signal.eventId readings.taken := by
  obtain ⟨visited, _, _, written, _⟩ := guarded_state_run recorded checkpointId readings (le_refl _)
  have sameList : applied ++ pending.toList = history files := recorded.split.symm
  have accounts := written.accounts
  rw [sameList] at accounts
  have wall : wallLimitReason ((promised descriptor pending).settledAt readings.reconciled) readings.taken =
      wallLimitReason descriptor readings.taken := settled_wall readings.reconciled readings.taken
  rw [continuationDeliveryGuard, if_neg (by simp [source]), identity]
  dsimp only
  rw [if_pos rfl, wrapped_delivers, guard_locked_delivers recorded checkpointId signal readings (le_refl _)]
  constructor
  · rintro ⟨checkpoint, member, named, continues, event, active, running, granted⟩
    obtain ⟨notBefore, scheduled⟩ := (recorded.stored.shaped checkpoint member).scheduled continues
    rw [← event, scheduled, Option.map_some, Option.map_eq_some_iff] at granted
    obtain ⟨grant, held, sameEvent⟩ := granted
    obtain ⟨_, last, isLast, backing⟩ := accounts.backed grant held
    obtain ⟨lastScheduled, lastNamed, rfl⟩ := Option.map_eq_some_iff.mp backing
    cases recorded.stored.owner last checkpoint (List.mem_of_getLast? isLast) member lastScheduled _ lastNamed scheduled
      sameEvent
    refine ⟨checkpoint, (recorded.stored.highest_iff checkpoint).mpr isLast, named, continues, event, descriptor,
      recorded.current, ?_, wall.symm.trans running⟩
    rcases recorded.latest checkpoint isLast continues with allowed | passed
    · exact allowed
    · exact absurd (wall.symm.trans running) passed
  · rintro ⟨checkpoint, highest, named, continues, event, current, found, active, running⟩
    cases recorded.current.symm.trans found
    have isLast := (recorded.stored.highest_iff checkpoint).mp highest
    rcases accounts.authorized checkpoint isLast continues with ⟨still, granted⟩ | passed
    · refine ⟨checkpoint, highest.1, named, continues, event, still, wall.trans running, ?_⟩
      rw [granted, ← event, Checkpoint.continuation, Option.map_map]
      rfl
    · exact absurd (wall.trans running) passed

end Deliveries

structure World where
  files : Files
  clock : Int

inductive Stepped (workstreamId : String) : World → World → Prop
  | call (world : World) (call : Call) (readings : Readings) (files : Files) (current : world.clock ≤ readings.taken)
      (left : files ∈ (perform workstreamId readings call).states world.files) :
      Stepped workstreamId world ⟨files, readings.taken⟩
  | wait (world : World) (later : Int) (forward : world.clock ≤ later) : Stepped workstreamId world ⟨world.files, later⟩

abbrev Runs (workstreamId : String) : World → World → Prop := Relation.ReflTransGen (Stepped workstreamId)

section Runs

variable {workstreamId : String}

def Held (workstreamId : String) (world : World) : Prop :=
  world.files = {} ∨ ∃ descriptor applied pending,
    Recorded workstreamId world.clock world.files descriptor applied pending

theorem unstarted_keeps (call : Call) (readings : Readings) (clock : Int) :
    Keeps (fun files => ∃ descriptor, Recorded workstreamId clock files descriptor [] none) (fun _ _ => True)
      (perform workstreamId readings call) {} := by
  have unloaded {α : Type} (next : Descriptor → Program α) (good : Files → Prop) (post : α → Files → Prop) :
      Keeps good post (loadWorkstream >>= next) {} := by
    rw [keeps_bind, loadWorkstream, keeps_bind, keeps_ask]
    exact (keeps_raise _).mpr trivial
  have unreconciled (now published : Int) (good : Files → Prop) (post : Unit → Files → Prop) :
      Keeps good post (reconcileLocked now published) {} := unloaded _ _ _
  cases call with
  | start settings wakeTarget =>
      simp only [perform, startWorkstream, keeps_bind, keeps_lift, keeps_require, keeps_ask, keeps_write, and_true]
      intro _ _ _ _ _ limit _ seconds _ target _ _
      refine ⟨_, rfl, rfl, ⟨?_, rfl, ?_, ⟨?_, ?_, ?_, ?_⟩, ?_, ?_⟩, ⟨rfl, rfl, rfl, ?_, ?_, ?_⟩, ?_⟩
      · intro item member
        cases member
      · intro checkpoint member
        cases member
      · intro key kept found
        cases found
      · intro key kept found
        cases found
      · intro key kept found
        cases found
      · intro key kept found
        cases found
      · intro checkpoint member
        cases member
      · intro checkpoint member
        cases member
      · exact fun limit _ => Nat.zero_le limit
      · intro active granted
        cases granted
      · intro checkpoint last
        cases last
      · intro checkpoint waiting
        cases waiting
  | checkpoint request preflight =>
      simp only [perform, checkpointWorkstream, keeps_bind, keeps_lift]
      intro _ _ _ _ content _
      exact unreconciled _ _ _ _
  | reconcile => exact unreconciled _ _ _ _
  | resume =>
      simp only [perform, resumeWorkstream, keeps_bind]
      exact unreconciled _ _ _ _
  | delivery signal =>
      rw [perform, keeps_bind, continuationDeliveryGuard]
      split
      · rw [keeps_pure, keeps_pure]
        trivial
      · cases signal.identity with
        | none =>
            rw [keeps_pure, keeps_pure]
            trivial
        | some identity =>
            dsimp only
            split
            · rw [keeps_bind, guardLocked, keeps_bind, keeps_attempt]
              have run : (guardedState identity.2 readings).run {} =
                  ([], .error (.core "workstream.json is missing")) := rfl
              simp only [final, run]
              refine ⟨fun _ member => (by cases member), ?_⟩
              simp only [keeps_pure]
            · rw [keeps_pure, keeps_pure]
              trivial

variable {world later : World}

theorem Stepped.held (stepped : Stepped workstreamId world later) (held : Held workstreamId world) :
    Held workstreamId later := by
  cases stepped with
  | wait instant forward =>
      rcases held with empty | ⟨descriptor, applied, pending, recorded⟩
      · exact .inl empty
      · exact .inr ⟨descriptor, applied, pending, recorded.later forward⟩
  | call call readings files current left =>
      rcases held with empty | ⟨descriptor, applied, pending, recorded⟩
      · rw [empty] at left
        rcases List.mem_cons.mp left with same | visited
        · exact .inl same
        · obtain ⟨descriptor, recorded⟩ := (unstarted_keeps call readings readings.taken).1 files visited
          exact .inr ⟨descriptor, [], none, recorded⟩
      · have now := recorded.later current
        rcases List.mem_cons.mp left with same | visited
        · rw [same]
          exact .inr ⟨descriptor, applied, pending, now⟩
        · obtain ⟨descriptor', applied', pending', kept, _⟩ :=
            (perform_keeps now call readings (le_refl _)).1 files visited
          exact .inr ⟨descriptor', applied', pending', kept⟩

variable {pending : Option Checkpoint}

theorem Stepped.advances (stepped : Stepped workstreamId world later) {descriptor : Descriptor}
    {applied : List Checkpoint}
    (recorded : Recorded workstreamId world.clock world.files descriptor applied pending) :
    world.clock ≤ later.clock ∧ Progress workstreamId later.clock descriptor applied pending later.files := by
  cases stepped with
  | wait instant forward => exact ⟨forward, descriptor, applied, pending, recorded.later forward, Advances.refl⟩
  | call call readings files current left =>
      refine ⟨current, ?_⟩
      have now := recorded.later current
      rcases List.mem_cons.mp left with same | visited
      · rw [same]
        exact ⟨descriptor, applied, pending, now, Advances.refl⟩
      · exact (perform_keeps now call readings (le_refl _)).1 files visited

theorem run_advances (run : Runs workstreamId world later) {descriptor : Descriptor}
    {applied : List Checkpoint}
    (recorded : Recorded workstreamId world.clock world.files descriptor applied pending) :
    world.clock ≤ later.clock ∧ Progress workstreamId later.clock descriptor applied pending later.files := by
  induction run with
  | refl => exact ⟨le_refl _, descriptor, applied, pending, recorded, Advances.refl⟩
  | tail _ step ih =>
      obtain ⟨forward, middle, middleApplied, middlePending, kept, advances⟩ := ih
      obtain ⟨onward, progress⟩ := step.advances kept
      exact ⟨forward.trans onward, progress.trans advances⟩

def Deliverable (workstreamId : String) (files : Files) (event : EventId) (instant : Int) : Prop :=
  ∃ signal readings, signal.workstreamSource = true ∧ signal.eventId = some event ∧ readings.taken = instant ∧
    ((continuationDeliveryGuard workstreamId signal readings).run files).2 = .ok (some .deliver)

theorem guard_names {files : Files} {signal : Signal} {readings : Readings} (source : signal.workstreamSource = true)
    (delivered : ((continuationDeliveryGuard workstreamId signal readings).run files).2 = .ok (some .deliver)) :
    ∃ checkpointId, signal.identity = some (workstreamId, checkpointId) := by
  rw [continuationDeliveryGuard, if_neg (by simp [source])] at delivered
  cases named : signal.identity with
  | none =>
      rw [named] at delivered
      cases delivered
  | some identity =>
      rw [named] at delivered
      dsimp only at delivered
      by_cases same : identity.1 = workstreamId
      · exact ⟨identity.2, by rw [← same]⟩
      · rw [if_neg same] at delivered
        cases delivered

theorem unstarted_withholds (signal : Signal) (readings : Readings) (source : signal.workstreamSource = true) :
    ((continuationDeliveryGuard workstreamId signal readings).run {}).2 ≠ .ok (some .deliver) := by
  intro delivered
  obtain ⟨checkpointId, named⟩ := guard_names source delivered
  rw [continuationDeliveryGuard, if_neg (by simp [source]), named] at delivered
  dsimp only at delivered
  rw [if_pos rfl, wrapped_delivers] at delivered
  cases delivered

theorem held_delivers {world : World} (held : Held workstreamId world) (signal : Signal) (readings : Readings)
    (current : world.clock ≤ readings.taken) (source : signal.workstreamSource = true) :
    ((continuationDeliveryGuard workstreamId signal readings).run world.files).2 = .ok (some .deliver) ↔
      ∃ checkpointId, signal.identity = some (workstreamId, checkpointId) ∧
        Authorized world.files checkpointId signal.eventId readings.taken := by
  rcases held with empty | ⟨descriptor, applied, pending, recorded⟩
  · rw [empty]
    refine ⟨fun delivered => absurd delivered (unstarted_withholds signal readings source), ?_⟩
    rintro ⟨checkpointId, _, checkpoint, ⟨member, _⟩, _⟩
    cases member
  · have now := recorded.later current
    constructor
    · intro delivered
      obtain ⟨checkpointId, named⟩ := guard_names source delivered
      exact ⟨checkpointId, named, (guard_delivers signal readings checkpointId now source named).mp delivered⟩
    · rintro ⟨checkpointId, named, authorized⟩
      exact (guard_delivers signal readings checkpointId now source named).mpr authorized

variable {event : EventId}

theorem deliverable_authorized {world : World} (held : Held workstreamId world)
    (allowed : Deliverable workstreamId world.files event world.clock) :
    ∃ (signal : Signal) (checkpointId : String), signal.workstreamSource = true ∧ signal.eventId = some event ∧
      signal.identity = some (workstreamId, checkpointId) ∧ Authorized world.files checkpointId (some event)
      world.clock := by
  obtain ⟨signal, readings, source, named, taken, delivered⟩ := allowed
  obtain ⟨checkpointId, identity, authorized⟩ := (held_delivers held signal readings taken.ge source).mp delivered
  rw [named, taken] at authorized
  exact ⟨signal, checkpointId, source, named, identity, authorized⟩

theorem authorized_deliverable {world : World} (held : Held workstreamId world) {signal : Signal}
    {checkpointId : String} (source : signal.workstreamSource = true) (named : signal.eventId = some event)
    (identity : signal.identity = some (workstreamId, checkpointId))
    (authorized : Authorized world.files checkpointId (some event) world.clock) :
    Deliverable workstreamId world.files event world.clock := by
  let readings : Readings := ⟨world.clock, world.clock, world.clock, world.clock, le_refl _⟩
  refine ⟨signal, readings, source, named, rfl, (held_delivers held signal readings (le_refl _) source).mpr ?_⟩
  exact ⟨checkpointId, identity, named ▸ authorized⟩

theorem held_recorded {world : World} (held : Held workstreamId world) {descriptor : Descriptor}
    (found : world.files.descriptor = some descriptor) :
    ∃ applied pending, Recorded workstreamId world.clock world.files descriptor applied pending := by
  rcases held with empty | ⟨current, applied, pending, recorded⟩
  · rw [empty] at found
    cases found
  · cases recorded.current.symm.trans found
    exact ⟨applied, pending, recorded⟩

theorem run_history (run : Runs workstreamId world later) (held : Held workstreamId world) :
    history world.files <+: history later.files := by
  rcases held with empty | ⟨descriptor, applied, pending, recorded⟩
  · rw [empty]
    exact List.nil_prefix
  · obtain ⟨_, descriptor', applied', pending', kept, advances⟩ := run_advances run recorded
    rw [recorded.split, kept.split]
    exact advances.listed

theorem Held.through (held : Held workstreamId world) (run : Runs workstreamId world later) :
    Held workstreamId later := by
  induction run with
  | refl => exact held
  | tail _ step ih => exact step.held ih

theorem run_held {start world : World} (run : Runs workstreamId start world) (empty : start.files = {}) :
    Held workstreamId world := Held.through (.inl empty) run

theorem authorized_earlier (held : Held workstreamId world) (run : Runs workstreamId world later)
    {checkpointId : String} {event : Option EventId} {instant : Int} (forward : later.clock ≤ instant)
    {checkpoint : Checkpoint} (listed : checkpoint ∈ history world.files)
    (sameId : checkpoint.checkpointId = checkpointId)
    (authorized : Authorized later.files checkpointId event instant) :
    Authorized world.files checkpointId event world.clock := by
  rcases held with empty | ⟨descriptor, applied, pending, recorded⟩
  · rw [empty] at listed
    cases listed
  · obtain ⟨onward, final, finalApplied, finalPending, laterRecorded, advances⟩ := run_advances run recorded
    obtain ⟨latest, highest, named, continues, sameEvent, current, found, _, running⟩ := authorized
    cases laterRecorded.current.symm.trans found
    have whole := run_history run (.inr ⟨descriptor, applied, pending, recorded⟩)
    cases laterRecorded.stored.unique latest checkpoint highest.1 (whole.subset listed) (named.trans sameId.symm)
    have early : Highest world.files checkpoint := ⟨listed, fun other member => highest.2 other (whole.subset member)⟩
    have isLast := (recorded.stored.highest_iff checkpoint).mp early
    have allowed : wallLimitReason descriptor world.clock = none := by
      by_contra passed
      have still := wall_limit_later descriptor world.clock instant (onward.trans forward) passed
      rw [advances.wall_limit] at running
      exact still running
    refine ⟨checkpoint, early, sameId, continues, sameEvent, descriptor, recorded.current, ?_, allowed⟩
    exact (recorded.latest checkpoint isLast continues).resolve_right fun passed => passed allowed

theorem closed_stays {world closed later : World} (held : Held workstreamId world)
    (early : Runs workstreamId world closed) (late : Runs workstreamId closed later)
    (opened : Deliverable workstreamId world.files event world.clock)
    (shut : ¬ Deliverable workstreamId closed.files event closed.clock) :
    ¬ Deliverable workstreamId later.files event later.clock := by
  intro again
  obtain ⟨signal, checkpointId, source, named, identity, checkpoint, highest, sameId, continues, sameEvent, _⟩ :=
    deliverable_authorized held opened
  have closedHeld := held.through early
  have laterHeld := closedHeld.through late
  obtain ⟨_, _, _, _, _, latest, latestHighest, _, latestContinues, latestEvent, current, currentFound, allowed⟩ :=
    deliverable_authorized laterHeld again
  obtain ⟨applied, pending, laterRecorded⟩ := held_recorded laterHeld currentFound
  have inClosed : checkpoint ∈ history closed.files := (run_history early held).subset highest.1
  have inLater : checkpoint ∈ history later.files := (run_history late closedHeld).subset inClosed
  -- The event belongs to one checkpoint, so that one is still the latest.
  obtain ⟨scheduled, scheduledFound, eventFound⟩ := Option.map_eq_some_iff.mp sameEvent
  obtain ⟨latestScheduled, latestFound, latestNamed⟩ := Option.map_eq_some_iff.mp latestEvent
  cases laterRecorded.stored.owner latest checkpoint latestHighest.1 inLater latestScheduled scheduled latestFound
    scheduledFound (latestNamed.trans eventFound.symm)
  exact shut (authorized_deliverable closedHeld source named identity (authorized_earlier closedHeld late (le_refl _)
    inClosed sameId ⟨checkpoint, latestHighest, sameId, latestContinues, latestEvent, current, currentFound, allowed⟩))

theorem single_event {world : World} (held : Held workstreamId world) (first second : EventId)
    (firstOpen : Deliverable workstreamId world.files first world.clock)
    (secondOpen : Deliverable workstreamId world.files second world.clock) : first = second := by
  obtain ⟨_, _, _, _, _, checkpoint, highest, _, _, firstEvent, descriptor, found, _⟩ :=
    deliverable_authorized held firstOpen
  obtain ⟨_, _, _, _, _, other, otherHighest, _, _, secondEvent, _⟩ := deliverable_authorized held secondOpen
  obtain ⟨applied, pending, recorded⟩ := held_recorded held found
  have last := (recorded.stored.highest_iff checkpoint).mp highest
  cases last.symm.trans ((recorded.stored.highest_iff other).mp otherHighest)
  exact Option.some.inj (firstEvent.symm.trans secondEvent)

theorem Recorded.counted {clock : Int} {files : Files} {descriptor : Descriptor} {applied : List Checkpoint}
    (recorded : Recorded workstreamId clock files descriptor applied pending) :
    descriptor.continuationCount = ((storedCheckpoints files).take descriptor.checkpointCount).countP
      fun checkpoint => checkpoint.decision.automatic := by
  rw [recorded.stored.sorted, recorded.split, recorded.accounts.count, List.take_left, recorded.accounts.counted]

theorem run_final (run : Runs workstreamId world later) (held : Held workstreamId world)
    (descriptor : Descriptor) (found : world.files.descriptor = some descriptor)
    (complete : descriptor.status = .complete) :
    later.files.descriptor = some descriptor ∧ storedCheckpoints later.files = storedCheckpoints world.files := by
  obtain ⟨applied, pending, recorded⟩ := held_recorded held found
  have settled : pending = none := by
    cases pending with
    | none => rfl
    | some checkpoint => exact absurd complete (recorded.opened checkpoint rfl).unfinished
  obtain ⟨_, final, finalApplied, finalPending, kept, advances⟩ := run_advances run recorded
  obtain ⟨rfl, rfl, rfl⟩ := advances.final complete settled
  rw [kept.stored.sorted, recorded.stored.sorted, kept.split, recorded.split, settled]
  exact ⟨kept.current, rfl⟩

theorem run_counts (run : Runs workstreamId world later) (held : Held workstreamId world)
    (descriptor current : Descriptor) (found : world.files.descriptor = some descriptor)
    (finds : later.files.descriptor = some current) : descriptor.continuationCount ≤ current.continuationCount := by
  obtain ⟨applied, pending, recorded⟩ := held_recorded held found
  obtain ⟨_, final, finalApplied, finalPending, kept, advances⟩ := run_advances run recorded
  cases kept.current.symm.trans finds
  rw [recorded.accounts.counted, kept.accounts.counted]
  exact advances.kept.sublist.countP_le

theorem continuation_authorized (origin : Int) (world : World) (run : Runs workstreamId ⟨{}, origin⟩ world) :
    (∀ signal readings, world.clock ≤ readings.taken → signal.workstreamSource = true →
      (((continuationDeliveryGuard workstreamId signal readings).run world.files).2 = .ok (some .deliver) ↔
        ∃ checkpointId, signal.identity = some (workstreamId, checkpointId) ∧
          Authorized world.files checkpointId signal.eventId readings.taken)) ∧
    (∀ first second, Deliverable workstreamId world.files first world.clock →
      Deliverable workstreamId world.files second world.clock → first = second) ∧
    (storedCheckpoints world.files).map Checkpoint.sequence =
      List.range' 1 (storedCheckpoints world.files).length ∧
    (∀ descriptor, world.files.descriptor = some descriptor →
      descriptor.continuationCount = ((storedCheckpoints world.files).take descriptor.checkpointCount).countP
        (fun checkpoint => checkpoint.decision.automatic) ∧
      ∀ limit, descriptor.maxContinuations = some limit → descriptor.continuationCount ≤ limit) ∧
    ∀ later, Runs workstreamId world later →
      (∀ event, Deliverable workstreamId world.files event world.clock →
        ¬ Deliverable workstreamId later.files event later.clock → ∀ final, Runs workstreamId later final →
          ¬ Deliverable workstreamId final.files event final.clock) ∧
      (∀ descriptor current, world.files.descriptor = some descriptor → later.files.descriptor = some current →
        descriptor.continuationCount ≤ current.continuationCount) ∧
      ∀ descriptor, world.files.descriptor = some descriptor → descriptor.status = .complete →
        later.files.descriptor = some descriptor ∧ storedCheckpoints later.files = storedCheckpoints world.files := by
  have held := run_held run rfl
  refine ⟨held_delivers held, single_event held, ?_, ?_, fun later onward => ⟨?_, ?_, ?_⟩⟩
  · rcases held with empty | ⟨descriptor, applied, pending, recorded⟩
    · rw [empty]
      rfl
    · rw [recorded.stored.sorted]
      exact recorded.stored.sequenced
  · intro descriptor found
    obtain ⟨applied, pending, recorded⟩ := held_recorded held found
    exact ⟨recorded.counted, recorded.accounts.within⟩
  · exact fun event opened shut final rest => closed_stays held onward rest opened shut
  · exact fun descriptor current found finds => run_counts onward held descriptor current found finds
  · exact fun descriptor found complete => run_final onward held descriptor found complete

end Runs

def readAt (instant : Int) : Readings := ⟨instant, instant, instant, instant, le_refl _⟩

def started : Files :=
  (perform "w" (readAt 0) (.start ⟨"goal", 1000, some 2, some 60⟩ (.ok none))).final {}

def continued : Files :=
  (perform "w" (readAt 5) (.checkpoint ⟨"c", .continues, "done", some "next", none, true⟩ (.ok ()))).final started

theorem continued_runs : Runs "w" ⟨{}, 0⟩ ⟨continued, 5⟩ := by
  have first : Stepped "w" ⟨{}, 0⟩ ⟨started, 0⟩ :=
    .call ⟨{}, 0⟩ _ (readAt 0) started (le_refl _) (final_mem_states _ _)
  have second : Stepped "w" ⟨started, 0⟩ ⟨continued, 5⟩ :=
    .call ⟨started, 0⟩ _ (readAt 5) continued (by decide) (final_mem_states _ _)
  exact .tail (.tail .refl first) second

theorem first_continuation_authorized : ∃ checkpointId, Authorized continued checkpointId
    (some (followupEventId (continuationOperationId "w" "c"))) 9 := by
  let signal : Signal := ⟨true, some (continuationOperationId "w" "c"),
    some (followupEventId (continuationOperationId "w" "c")), none⟩
  have delivered : ((continuationDeliveryGuard "w" signal (readAt 9)).run continued).2 =
    .ok (some .deliver) := by decide
  obtain ⟨checkpointId, _, authorized⟩ :=
    ((continuation_authorized 0 ⟨continued, 5⟩ continued_runs).1 signal (readAt 9) (by decide) rfl).mp delivered
  exact ⟨checkpointId, authorized⟩

end OrchestratorEngine.Workstreams
