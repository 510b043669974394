import OrchestratorEngine.Foundation.RelyGuarantee
import OrchestratorEngine.Workers.Supervision

set_option autoImplicit false

namespace OrchestratorEngine.Workers

open Foundation

def Stranded (engine : Engine) : Prop :=
  (∃ item ∈ engine.tasks.items, item.2.descriptor.any (fun descriptor => descriptor.status = some .queued) = true ∧
    item.2.result.isSome = true) ∨
  ∃ item ∈ engine.claims.items,
    (engine.task item.2.taskId).descriptor.any (fun descriptor => descriptor.status.isNone) = true

instance (engine : Engine) : Decidable (Stranded engine) := inferInstanceAs (Decidable (_ ∨ _))

def Descriptor.taken (descriptor : Descriptor) : Bool := descriptor.status.any fun status => decide (status ≠ .queued)

def TaskFiles.taken (files : TaskFiles) : Bool := files.descriptor.any Descriptor.taken

def TaskFiles.dispatched (files : TaskFiles) : Bool :=
  files.descriptor.any fun descriptor => descriptor.status.isSome

structure Sound (taskId : String) (files : TaskFiles) : Prop where
  unpublished : files.taken = false → files.result = none ∧ files.event = none
  queued : ∀ descriptor, files.descriptor = some descriptor → descriptor.status = some .queued →
    validTaskId taskId = true ∧ ∃ signalled, shouldEmitWorkerSignal descriptor.wakePolicy .cancelled = .ok signalled

structure Recoverable (engine : Engine) : Prop where
  sound : ∀ taskId, Sound taskId (engine.task taskId)
  claimed : ∀ key claim, engine.claims.get? key = some claim → (engine.task claim.taskId).dispatched = true

variable {files : TaskFiles}

theorem sound_of_taken {taskId : String} (taken : files.taken = true) : Sound taskId files := by
  refine ⟨fun wrong => ?_, fun descriptor found queued => ?_⟩
  · rw [taken] at wrong
    cases wrong
  · rw [TaskFiles.taken, found] at taken
    simp [Descriptor.taken, queued] at taken

theorem dispatched_of_taken (taken : files.taken = true) : files.dispatched = true := by
  cases found : files.descriptor with
  | none => simp [TaskFiles.taken, found] at taken
  | some descriptor =>
      cases status : descriptor.status with
      | none => simp [TaskFiles.taken, Descriptor.taken, found, status] at taken
      | some known => simp [TaskFiles.dispatched, found, status]

theorem Recoverable.fewer {engine other : Engine} (recoverable : Recoverable engine)
    (tasks : other.tasks = engine.tasks)
    (claims : ∀ key claim, other.claims.get? key = some claim → engine.claims.get? key = some claim) :
    Recoverable other := by
  have task : ∀ taskId, other.task taskId = engine.task taskId := fun taskId => by rw [Engine.task, Engine.task, tasks]
  refine ⟨fun taskId => ?_, fun key claim found => ?_⟩
  · rw [task]
    exact recoverable.sound taskId
  · rw [task]
    exact recoverable.claimed key claim (claims key claim found)

variable {engine : Engine} {change : TaskFiles → TaskFiles}

theorem Recoverable.modify {taskId : String}
    (recoverable : Recoverable engine) (sound : Sound taskId (change (engine.task taskId)))
    (dispatched : (engine.task taskId).dispatched = true → (change (engine.task taskId)).dispatched = true) :
    Recoverable (engine.modify taskId change) := by
  refine ⟨fun other => ?_, fun key claim found => ?_⟩
  · rw [task_modify]
    split
    case isTrue same =>
      rw [same]
      exact sound
    case isFalse _ => exact recoverable.sound other
  · have before := recoverable.claimed key claim found
    rw [task_modify]
    split
    case isTrue same =>
      rw [same] at before
      exact dispatched before
    case isFalse _ => exact before

theorem Recoverable.aside {taskId : String}
    (recoverable : Recoverable engine) (descriptor : (change (engine.task taskId)).descriptor =
    (engine.task taskId).descriptor)
    (result : (change (engine.task taskId)).result = (engine.task taskId).result)
    (event : (change (engine.task taskId)).event = (engine.task taskId).event) :
    Recoverable (engine.modify taskId change) := by
  have sound := recoverable.sound taskId
  refine recoverable.modify ⟨?_, ?_⟩ ?_
  · rw [TaskFiles.taken, descriptor, result, event]
    exact sound.unpublished
  · rw [descriptor]
    exact sound.queued
  · rw [TaskFiles.dispatched, TaskFiles.dispatched, descriptor]
    exact id

theorem Recoverable.taken {taskId : String}
    (recoverable : Recoverable engine) (taken : (change (engine.task taskId)).taken = true) :
    Recoverable (engine.modify taskId change) :=
  recoverable.modify (sound_of_taken taken) fun _ => dispatched_of_taken taken

def Keeping {α : Type} (kept : Engine → Prop) (thread : Program α) : Prop :=
  Thread.Within Eq (fun _ after => Recoverable after ∨ Stranded after) kept thread

def TakenUp (taskId : String) (engine : Engine) : Prop := Recoverable engine ∧ (engine.task taskId).taken = true

theorem eq_stable (kept : Engine → Prop) : ∀ before after, kept before → before = after → kept after :=
  fun _ _ fine same => same ▸ fine

section Taken

variable {α : Type} {taskId : String}

theorem keeping_ask {kept : Engine → Prop} (query : Engine → α) : Keeping kept (Thread.ask query) :=
  Thread.within_ask (eq_stable kept) query

theorem keeping_write {change : Engine → Engine}
    (own : ∀ engine, Recoverable engine → Recoverable (change engine)) : Keeping Recoverable (Thread.write change) :=
  Thread.within_write (eq_stable _) fun engine fine => ⟨.inl (own engine fine), own engine fine⟩

theorem keeping_of_taken {thread : Program α} (inner : Keeping (TakenUp taskId) thread)
    (fine : Recoverable engine) (taken : (engine.task taskId).taken = true) :
    Thread.Safe Eq (fun _ after => Recoverable after ∨ Stranded after) (fun _ => Recoverable) thread engine :=
  (inner engine ⟨fine, taken⟩).mono (fun _ _ step => step) fun _ _ held => held.1

theorem taken_write (change : TaskFiles → TaskFiles) (own : ∀ files, files.taken = true → (change files).taken = true) :
    Keeping (TakenUp taskId) (writeTask taskId change) := by
  refine Thread.within_write (eq_stable _) fun engine fine => ?_
  have kept := own _ fine.2
  refine ⟨.inl (fine.1.taken kept), fine.1.taken kept, ?_⟩
  rw [task_modify, if_pos rfl]
  exact kept

theorem taken_put_descriptor (descriptor : Descriptor) (taken : descriptor.taken = true) :
    Keeping (TakenUp taskId) (putDescriptor taskId descriptor) := taken_write _ fun _ _ => taken

theorem taken_outside {change : Engine → Engine} (tasks : ∀ engine, (change engine).tasks = engine.tasks)
    (claims : ∀ engine key claim, (change engine).claims.get? key = some claim → engine.claims.get? key = some claim) :
    Keeping (TakenUp taskId) (Thread.write change) := by
  refine Thread.within_write (eq_stable _) fun engine fine => ?_
  have kept := fine.1.fewer (tasks engine) (claims engine)
  refine ⟨.inl kept, kept, ?_⟩
  rw [Engine.task, tasks]
  exact fine.2

theorem retain_taken (event : TerminalEvent) (signal : TerminalSignal) (emitSignal : Bool)
    (same : event.taskId = taskId) :
    Keeping (TakenUp taskId) (retainEventAndSignal event signal emitSignal) := by
  subst same
  refine Thread.within_bind (keeping_ask _) fun found => ?_
  cases found with
  | some existing =>
      refine Thread.within_bind (Thread.within_require _ _) fun _ => ?_
      cases emitSignal with
      | true => exact taken_write _ fun _ taken => taken
      | false => exact Thread.within_pure ()
  | none =>
      refine Thread.within_bind (taken_write _ fun _ taken => taken) fun _ => ?_
      cases emitSignal with
      | true => exact taken_write _ fun _ taken => taken
      | false => exact Thread.within_pure ()

theorem write_event_taken (terminalStatus : TerminalStatus) (wakeTarget : Option String) (emitSignal : Bool) :
    Keeping (TakenUp taskId) (writeTerminalEvent taskId terminalStatus wakeTarget emitSignal) := by
  refine Thread.within_bind (keeping_ask _) fun found => ?_
  rcases found with ⟨_ | result, evidence⟩
  · exact Thread.within_fail _
  · cases evidence with
    | none => exact Thread.within_fail _
    | some evidence => exact Thread.within_bind (keeping_ask _) fun now => retain_taken _ _ _ rfl

theorem publish_taken (outcome : Outcome) (final : WorkerResult) (evidence : Evidence)
    (quarantined wakeTarget : Option String) (emitSignal : Bool) :
    Keeping (TakenUp taskId) (publishFinal taskId outcome final evidence quarantined wakeTarget emitSignal) := by
  refine Thread.within_bind (keeping_ask _) fun present => ?_
  dsimp only
  split
  · refine Thread.within_bind (taken_write _ fun _ taken => taken) fun _ => ?_
    exact Thread.within_bind (write_event_taken _ _ _) fun _ => Thread.within_pure _
  · exact Thread.within_bind (write_event_taken _ _ _) fun _ => Thread.within_pure _

theorem finalize_locked_taken (result : WorkerResult) (evidence : Evidence) (wakeTarget : Option String)
    (emitSignal takeover : Bool) :
    Keeping (TakenUp taskId) (finalizeLocked taskId result evidence wakeTarget emitSignal takeover) := by
  refine Thread.within_bind (keeping_ask _) fun found => ?_
  match found with
  | some (.readable existing) =>
      dsimp only
      split
      · exact Thread.within_pure _
      · exact publish_taken _ _ _ _ _ _
  | some (.torn raw) =>
      dsimp only
      split
      · exact Thread.within_pure _
      · refine Thread.within_bind (taken_write _ fun _ taken => taken) fun _ => ?_
        exact Thread.within_bind (taken_write _ fun _ taken => taken) fun _ => publish_taken _ _ _ _ _ _
  | none => exact Thread.within_bind (taken_write _ fun _ taken => taken) fun _ => publish_taken _ _ _ _ _ _

theorem finalize_taken (pid : Nat) (result : WorkerResult) (evidence : Evidence) (wakeTarget : Option String)
    (emitSignal takeover : Bool) :
    Keeping (TakenUp taskId) (finalizeTerminalTask pid taskId result evidence wakeTarget emitSignal takeover) := by
  have lock : Keeping (TakenUp taskId) (acquirePublication pid taskId) := by
    refine Thread.within_await (eq_stable _) fun engine fine _ => ?_
    refine ⟨.inl (fine.1.aside rfl rfl rfl), fine.1.aside rfl rfl rfl, ?_⟩
    rw [task_modify, if_pos rfl]
    exact fine.2
  have unlock : Keeping (TakenUp taskId) (releasePublication taskId) := taken_write _ fun _ taken => taken
  refine Thread.within_bind lock fun _ => Thread.within_bind
    (Thread.within_attempt (finalize_locked_taken result evidence wakeTarget emitSignal takeover)) fun outcome => ?_
  cases outcome with
  | ok finalized => exact Thread.within_bind unlock fun _ => Thread.within_pure _
  | error error => exact Thread.within_bind unlock fun _ => Thread.within_fail _

theorem supervised_taken (pid : Nat) (descriptor : Descriptor) (result : WorkerResult) (evidence : Evidence) :
    Keeping (TakenUp taskId) (finalizeSupervised pid taskId descriptor result evidence) :=
  Thread.within_bind (Thread.within_lift _) fun _ => finalize_taken _ _ _ _ _ _

theorem released_taken (pid : Nat) (descriptor : Descriptor) :
    Keeping (TakenUp taskId) (finalizeReleased pid taskId descriptor) := by
  refine Thread.within_bind (keeping_ask _) fun found => ?_
  rcases found with ⟨_ | result, evidence⟩
  · exact Thread.within_pure _
  · cases evidence with
    | none => exact Thread.within_pure _
    | some _ =>
        refine Thread.within_bind (keeping_ask _) fun present => ?_
        cases present with
        | none => exact Thread.within_fail _
        | some evidence =>
            refine Thread.within_bind (Thread.within_lift _) fun _ => ?_
            exact Thread.within_bind (finalize_taken _ _ _ _ _ _) fun _ => Thread.within_pure _

theorem lost_taken (pid : Nat) (descriptor : Descriptor) : Keeping (TakenUp taskId)
    (finalizeLost pid taskId descriptor) := by
  refine Thread.within_bind (keeping_ask _) fun _ => ?_
  exact Thread.within_bind (Thread.within_lift _) fun _ => finalize_taken _ _ _ _ _ _

theorem stop_taken (lease : Lease) (readable stops : Bool) : Keeping (TakenUp taskId)
    (stopWorkerTree lease readable stops) := by
  unfold stopWorkerTree
  cases lease.workerPid with
  | none => exact Thread.within_pure ()
  | some pid =>
      refine Thread.within_bind (keeping_ask _) fun found => ?_
      cases found with
      | alive =>
          cases stops with
          | true => exact taken_outside (fun _ => rfl) fun _ _ _ found => found
          | false => exact Thread.within_pure ()
      | gone => exact Thread.within_pure ()
      | unknown => exact Thread.within_pure ()

end Taken

theorem release_claim_fewer (key : Fingerprint × String) (taskId : String) (engine : Engine) :
    let change : Engine → Engine := fun engine =>
      match engine.claims.get? key with
      | none => engine
      | some claim => { engine with
          claims := engine.claims.without [key]
          claimHistory := engine.claimHistory.set taskId claim }
    (change engine).tasks = engine.tasks ∧
      ∀ other claim, (change engine).claims.get? other = some claim → engine.claims.get? other = some claim := by
  intro change
  cases found : engine.claims.get? key with
  | none =>
      have same : change engine = engine := by simp only [change, found]
      rw [same]
      exact ⟨rfl, fun _ _ present => present⟩
  | some claim =>
      have released : change engine = { engine with
          claims := engine.claims.without [key]
          claimHistory := engine.claimHistory.set taskId claim } := by simp only [change, found]
      rw [released]
      refine ⟨rfl, fun other standing present => ?_⟩
      rw [Dict.get_without] at present
      split at present
      case isTrue _ => cases present
      case isFalse _ => exact present

theorem release_claim_taken (taskId other : String) (descriptor : Descriptor) :
    Keeping (TakenUp taskId) (releaseDispatchClaim other descriptor) := by
  unfold releaseDispatchClaim
  cases descriptor.dispatchClaim with
  | none => exact Thread.within_pure ()
  | some key =>
      exact taken_outside (fun engine => (release_claim_fewer key other engine).1)
        fun engine => (release_claim_fewer key other engine).2

theorem end_taken (taskId : String) (descriptor : Descriptor) (result : WorkerResult) (signalEmitted : Bool) :
    Keeping (TakenUp taskId) (endTask taskId descriptor result signalEmitted) :=
  Thread.within_bind (taken_put_descriptor _ rfl) fun _ => release_claim_taken _ _ _

theorem put_lease_taken (taskId : String) (lease : Lease) : Keeping (TakenUp taskId) (putLease taskId lease) :=
  taken_write _ fun _ taken => taken

variable (pid : Nat)

theorem reap_released_taken (taskId : String) (descriptor : Descriptor) :
    Keeping (TakenUp taskId) (reapReleased pid taskId descriptor) := by
  refine Thread.within_bind (Thread.within_attempt (released_taken pid descriptor)) fun outcome => ?_
  match outcome with
  | .error error =>
      dsimp only
      split
      · exact Thread.within_pure ()
      · exact Thread.within_fail _
  | .ok (some (.published _ result signalEmitted)) => exact end_taken _ _ _ _
  | .ok (some (.lost _)) => exact Thread.within_pure ()
  | .ok none => exact Thread.within_pure ()

theorem reap_lost_taken (taskId : String) (descriptor : Descriptor) (lease : Option Lease) :
    Keeping (TakenUp taskId) (reapLost pid taskId descriptor lease) := by
  refine Thread.within_bind (lost_taken pid descriptor) fun outcome => ?_
  match outcome with
  | .lost none => exact Thread.within_pure ()
  | .lost (some _) => exact Thread.within_fail _
  | .published _ result signalEmitted =>
      refine Thread.within_bind (end_taken _ _ _ _) fun _ => ?_
      cases lease with
      | some held => exact put_lease_taken _ _
      | none => exact Thread.within_pure ()

theorem reap_leased_taken (taskId : String) (descriptor : Descriptor) (lease : Lease) (observed : Observations)
    (current : Int) : Keeping (TakenUp taskId) (reapLeased pid taskId descriptor lease observed current) := by
  unfold reapLeased
  split
  · exact Thread.within_pure ()
  · refine Thread.within_bind (keeping_ask _) fun found => ?_
    cases found with
    | alive => exact Thread.within_pure ()
    | unknown => exact Thread.within_pure ()
    | gone => exact Thread.within_bind (stop_taken _ _ _) fun _ => reap_lost_taken _ _ _ _

theorem taken_of_active {descriptor : Descriptor} (found : files.descriptor = some descriptor)
    (active : descriptor.status.any Status.active = true) : files.taken = true := by
  rw [TaskFiles.taken, found, Option.any_some, Descriptor.taken]
  cases status : descriptor.status with
  | none =>
      rw [status] at active
      cases active
  | some known =>
      rw [status] at active
      cases known with
      | queued => cases active
      | starting => rfl
      | running => rfl
      | cancelling => rfl
      | terminal _ => rfl

theorem reap_task_keeping (observed : Observations) (current : Int) (taskId : String) :
    Keeping Recoverable (reapTask pid observed current taskId) := by
  refine Thread.within_ask_bind (eq_stable _) fun engine fine => ?_
  cases found : (engine.task taskId).descriptor with
  | none => exact fine
  | some descriptor =>
      dsimp only
      split
      case isTrue _ => exact fine
      case isFalse going =>
        have active : descriptor.status.any Status.active = true := by
          cases answer : descriptor.status.any Status.active with
          | true => rfl
          | false => exact absurd (.inr answer) going
        refine keeping_of_taken ?_ fine (taken_of_active found active)
        refine Thread.within_bind (keeping_ask _) fun lease => ?_
        cases lease with
        | none =>
            dsimp only
            split
            · exact reap_lost_taken _ _ _ _
            · exact Thread.within_pure ()
        | some lease =>
            dsimp only
            split
            · exact reap_released_taken _ _ _
            · exact reap_leased_taken _ _ _ _ _ _

theorem reap_keeping (observed : Observations) : Keeping Recoverable (reapWorkerTasks pid observed) :=
  Thread.within_bind (keeping_ask _) fun current => Thread.within_bind (keeping_ask _) fun listed =>
    Thread.within_each listed fun taskId _ => reap_task_keeping pid observed current taskId

theorem Recoverable.put_queued {taskId : String} {descriptor : Descriptor} (recoverable : Recoverable engine)
    (unpublished : (engine.task taskId).result = none ∧ (engine.task taskId).event = none)
    (known : validTaskId taskId = true ∧ ∃ signalled, shouldEmitWorkerSignal descriptor.wakePolicy
    .cancelled = .ok signalled)
    (queued : descriptor.status = some .queued) :
    Recoverable (engine.modify taskId fun files => { files with descriptor := some descriptor }) := by
  refine recoverable.modify ⟨fun _ => unpublished, fun other found _ => ?_⟩ fun _ => ?_
  · cases found
    exact known
  · simp [TaskFiles.dispatched, queued]

section Ticks

variable {α : Type}

theorem aside_write {taskId : String} (change : TaskFiles → TaskFiles)
    (descriptor : ∀ files, (change files).descriptor = files.descriptor)
    (result : ∀ files, (change files).result = files.result) (event : ∀ files, (change files).event = files.event) :
    Keeping Recoverable (writeTask taskId change) :=
  keeping_write fun _ fine => fine.aside (descriptor _) (result _) (event _)

theorem outside_write {change : Engine → Engine} (tasks : ∀ engine, (change engine).tasks = engine.tasks)
    (claims : ∀ engine, (change engine).claims = engine.claims) : Keeping Recoverable (Thread.write change) := by
  refine keeping_write fun engine fine => fine.fewer (tasks engine) fun key claim found => ?_
  rw [claims] at found
  exact found

variable {kept : Engine → Prop}

theorem suppressing_keeping {body : Program Unit} (inner : Keeping kept body) :
    Keeping kept (suppressing body) := by
  refine Thread.within_bind (Thread.within_attempt inner) fun outcome => ?_
  cases outcome with
  | ok done => exact Thread.within_pure done
  | error error =>
      dsimp only
      split
      · exact Thread.within_pure ()
      · exact Thread.within_fail error

theorem acquire_admission_keeping : Keeping Recoverable (acquireAdmission pid) := by
  refine Thread.within_await (eq_stable _) fun engine fine _ => ?_
  have kept : Recoverable { engine with admission := some pid } := fine.fewer rfl fun _ _ found => found
  exact ⟨.inl kept, kept⟩

theorem release_admission_keeping : Keeping Recoverable releaseAdmission := outside_write (fun _ => rfl) fun _ => rfl

theorem admission_keeping {body : Program α} (inner : Keeping Recoverable body) :
    Keeping Recoverable (withAdmissionLock pid body) := by
  refine Thread.within_bind (acquire_admission_keeping pid) fun _ => ?_
  refine Thread.within_bind (Thread.within_attempt inner) fun outcome => ?_
  cases outcome with
  | ok value => exact Thread.within_bind release_admission_keeping fun _ => Thread.within_pure value
  | error error => exact Thread.within_bind release_admission_keeping fun _ => Thread.within_fail error

theorem active_workers_keeping (listed : List String) : Keeping kept (activeWorkers listed) := by
  induction listed with
  | nil => exact Thread.within_pure []
  | cons taskId rest ih =>
      refine Thread.within_bind (keeping_ask _) fun found => Thread.within_bind ih fun others => ?_
      cases found with
      | none => exact Thread.within_pure others
      | some known =>
          dsimp only
          split
          · exact Thread.within_pure _
          · exact Thread.within_pure others

theorem can_admit_keeping (site : Site) (worker : String) (config : WorkerConfig) :
    Keeping kept (canAdmitWorker site worker config) :=
  Thread.within_bind (keeping_ask _) fun listed => Thread.within_bind (active_workers_keeping listed) fun _ =>
    Thread.within_pure _

def Awaiting (taskId : String) (descriptor : Descriptor) (engine : Engine) : Prop :=
  Recoverable engine ∧ (engine.task taskId).result = none ∧ (engine.task taskId).event = none ∧
    validTaskId taskId = true ∧ ∃ signalled, shouldEmitWorkerSignal descriptor.wakePolicy .cancelled = .ok signalled

theorem admit_keeping (entry : QueueEntry) (descriptor : Descriptor) (spawns : Except String Unit) :
    Keeping (Awaiting entry.taskId descriptor) (admitEntry entry descriptor spawns) := by
  have stable := eq_stable (Awaiting entry.taskId descriptor)
  have aside : ∀ (engine : Engine) (change : TaskFiles → TaskFiles),
      (∀ files, (change files).result = files.result ∧ (change files).event = files.event) →
      Awaiting entry.taskId descriptor engine → Recoverable (engine.modify entry.taskId change) →
      (Recoverable (engine.modify entry.taskId change) ∨ Stranded (engine.modify entry.taskId change)) ∧
        Awaiting entry.taskId descriptor (engine.modify entry.taskId change) := by
    intro engine change same fine kept
    refine ⟨.inl kept, kept, ?_, ?_, fine.2.2.2⟩
    · rw [task_modify, if_pos rfl, (same _).1]
      exact fine.2.1
    · rw [task_modify, if_pos rfl, (same _).2]
      exact fine.2.2.1
  have claim : Keeping (Awaiting entry.taskId descriptor) (claimEntry entry.taskId) := by
    refine Thread.within_exchange stable fun engine fine => ?_
    cases engine.task entry.taskId |>.pending with
    | none => exact ⟨.inl fine.1, fine⟩
    | some _ => exact aside _ _ (fun _ => ⟨rfl, rfl⟩) fine (fine.1.aside rfl rfl rfl)
  refine Thread.within_bind claim fun found => ?_
  cases found with
  | none => exact Thread.within_pure ()
  | some claimed =>
      refine Thread.within_bind (keeping_ask _) fun now => ?_
      refine Thread.within_bind (Thread.within_write stable fun engine fine =>
        aside _ _ (fun _ => ⟨rfl, rfl⟩) fine (fine.1.taken rfl)) fun _ => ?_
      have spawn : Keeping (Awaiting entry.taskId descriptor) (spawnSupervisor entry.taskId entry.worker spawns) := by
        cases spawns with
        | error message => exact Thread.within_fail _
        | ok done =>
            refine Thread.within_exchange stable fun engine fine => ?_
            have kept : Recoverable { engine with
                processes := engine.processes ++ [some ⟨entry.taskId, entry.worker, engine.clock⟩]
                live := engine.live ++ [engine.processes.length] } := fine.1.fewer rfl fun _ _ found => found
            exact ⟨.inl kept, kept, fine.2⟩
      refine Thread.within_bind (Thread.within_attempt spawn) fun outcome => ?_
      match outcome with
      | .ok pid =>
          exact Thread.within_write stable fun engine fine => aside _ _ (fun _ => ⟨rfl, rfl⟩) fine
            (fine.1.aside rfl rfl rfl)
      | .error (.os message) =>
          refine Thread.within_bind (Thread.within_write stable fun engine fine => ?_) fun _ =>
            Thread.within_write stable fun engine fine =>
              aside _ _ (fun _ => ⟨rfl, rfl⟩) fine (fine.1.aside rfl rfl rfl)
          exact aside _ _ (fun _ => ⟨rfl, rfl⟩) fine
            (fine.1.put_queued ⟨fine.2.1, fine.2.2.1⟩ fine.2.2.2 rfl)
      | .error (.worker _) | .error (.core _) | .error (.lease _) | .error (.missingKey _) => exact Thread.within_fail _

theorem tick_entry_keeping (site : Site) (draws : TickDraws) (entry : QueueEntry) :
    Keeping Recoverable (tickEntry site draws entry) := by
  refine Thread.within_ask_bind (eq_stable _) fun engine fine => ?_
  cases found : (engine.task entry.taskId).descriptor with
  | none => exact fine
  | some descriptor =>
      dsimp only
      cases configForDescriptor site descriptor entry.worker with
      | none => exact fine
      | some config =>
          dsimp only
          split
          case isTrue _ =>
            exact aside_write (fun files => { files with pending := none }) (fun _ => rfl) (fun _ => rfl) (fun _ => rfl)
              engine fine
          case isFalse other =>
            have queued : descriptor.status = some .queued := not_not.mp other
            have sound := fine.sound entry.taskId
            have untaken : (engine.task entry.taskId).taken = false := by
              rw [TaskFiles.taken, found, Option.any_some, Descriptor.taken, queued]
              rfl
            have awaiting : Awaiting entry.taskId descriptor engine :=
              ⟨fine, (sound.unpublished untaken).1, (sound.unpublished untaken).2, sound.queued descriptor found queued⟩
            have rest : Keeping (Awaiting entry.taskId descriptor) (do
                let now ← utcNow
                if descriptor.lineage.any (fun lineage => decide (now < lineage.notBefore)) then return ()
                else do
                  let room ← canAdmitWorker site entry.worker config
                  if room = false ∨ draws.delivery entry.taskId ≠ .ready then return ()
                  else admitEntry entry descriptor (draws.spawns entry.taskId)) := by
              refine Thread.within_bind (keeping_ask _) fun now => ?_
              split
              · exact Thread.within_pure ()
              · refine Thread.within_bind (can_admit_keeping _ _ _) fun room => ?_
                split
                · exact Thread.within_pure ()
                · exact admit_keeping _ _ _
            exact (rest engine awaiting).mono (fun _ _ step => step) fun _ _ held => held.1

theorem queue_tick_keeping (site : Site) (draws : TickDraws) : Keeping Recoverable (queueTick pid site draws) :=
  Thread.within_bind (suppressing_keeping (reap_keeping pid draws.observed)) fun _ =>
    admission_keeping pid (Thread.within_bind (keeping_ask _) fun entries =>
      Thread.within_each entries fun entry _ => tick_entry_keeping site draws entry)

end Ticks

section Supervision

variable {taskId : String}

theorem watch_taken (process : Nat) (stops : Bool) (ending : Ending) (beats : List Beat) (descriptor : Descriptor)
    (lease : Lease) : Keeping (TakenUp taskId) (watchWorker taskId process stops ending beats descriptor lease) := by
  have terminate : ∀ killed, Keeping (TakenUp taskId) (terminateWorker process killed) := by
    intro killed
    cases killed with
    | true => exact taken_outside (fun _ => rfl) fun _ _ _ found => found
    | false => exact Thread.within_pure ()
  induction beats generalizing descriptor lease with
  | nil =>
      unfold watchWorker
      refine Thread.within_bind (keeping_ask _) fun found => ?_
      cases found with
      | some request =>
          refine Thread.within_bind (taken_put_descriptor _ rfl) fun _ => Thread.within_bind
            (terminate stops) fun _ => ?_
          exact Thread.within_bind (keeping_ask _) fun _ => Thread.within_pure _
      | none =>
          cases ending with
          | exited code =>
              refine Thread.within_bind (Thread.within_bind ?_ fun _ => keeping_ask _) fun _ => Thread.within_pure _
              exact taken_outside (fun _ => rfl) fun _ _ _ found => found
          | timedOut seconds killed => exact Thread.within_bind (terminate killed) fun _ => Thread.within_pure _
          | broken message => exact Thread.within_pure _
  | cons beat rest ih =>
      unfold watchWorker
      refine Thread.within_bind (keeping_ask _) fun found => ?_
      cases found with
      | some request =>
          refine Thread.within_bind (taken_put_descriptor _ rfl) fun _ => Thread.within_bind
            (terminate stops) fun _ => ?_
          exact Thread.within_bind (keeping_ask _) fun _ => Thread.within_pure _
      | none =>
          cases beat with
          | quiet => exact ih descriptor lease
          | heartbeat =>
              refine Thread.within_bind (keeping_ask _) fun now => Thread.within_bind
                (taken_put_descriptor _ rfl) fun _ => ?_
              refine Thread.within_bind (Thread.within_bind (keeping_ask _) fun _ => ?_) fun renewed => ih _ _
              exact Thread.within_bind (put_lease_taken _ _) fun _ => Thread.within_pure _

theorem start_taken (watch : Watch) (descriptor : Descriptor) (lease : Lease) (taken : descriptor.taken = true) :
    Keeping (TakenUp taskId) (startWorker taskId watch descriptor lease) := by
  unfold startWorker
  cases watch.spawns with
  | error message => exact Thread.within_pure _
  | ok done =>
      have spawn : Keeping (TakenUp taskId) (spawnWorker taskId) := by
        refine Thread.within_exchange (eq_stable _) fun engine fine => ?_
        have kept : Recoverable { engine with workers := engine.workers ++ [⟨taskId, .running⟩] } :=
          fine.1.fewer rfl fun _ _ found => found
        exact ⟨.inl kept, kept, fine.2⟩
      refine Thread.within_bind spawn fun process => Thread.within_bind (taken_put_descriptor _ taken) fun _ => ?_
      refine Thread.within_bind (Thread.within_bind (keeping_ask _) fun _ => ?_) fun recorded => watch_taken _ _ _ _ _ _
      exact Thread.within_bind (put_lease_taken _ _) fun _ => Thread.within_pure _

theorem keeping_weaken {α : Type} {thread : Program α} {state : Engine} {kept : Engine → Prop}
    {after : Except Error α → Engine → Prop} (inner : Keeping kept thread) (fine : kept state)
    (less : ∀ outcome later, kept later → after outcome later) :
    Thread.Safe Eq (fun _ after => Recoverable after ∨ Stranded after) after thread state :=
  (inner state fine).mono (fun _ _ step => step) less

theorem conclude_keeping (site : Site) (watch : Watch) (worker : String) (startedAt : Int) (watched : Watched)
    (engine : Engine) (fine : TakenUp taskId engine) :
    Thread.Safe Eq (fun _ after => Recoverable after ∨ Stranded after) (fun _ => Recoverable)
      (concludeTask pid site watch worker taskId startedAt watched) engine := by
  rw [concludeTask, Thread.safe_bind]
  refine keeping_weaken (keeping_ask _) fine fun outcome later held => ?_
  cases outcome with
  | error error => exact held.1
  | ok now =>
      dsimp only
      rw [Thread.and_then_ok, Thread.safe_bind]
      refine keeping_weaken (supervised_taken _ _ _ _) held fun outcome later held => ?_
      match outcome with
      | .error error => exact held.1
      | .ok (.lost _) => exact suppressing_keeping (queue_tick_keeping pid site watch.tick) later held.1
      | .ok (.published _ final signalEmitted) =>
          rw [Thread.and_then_ok]
          dsimp only
          rw [completeTask, Thread.safe_bind]
          refine keeping_weaken (end_taken _ _ _ _) held fun outcome later held => ?_
          cases outcome with
          | error error => exact held.1
          | ok done =>
              refine Thread.within_bind (suppressing_keeping (queue_tick_keeping pid site watch.tick))
                (fun _ => ?_) later
                held.1
              exact aside_write _ (fun _ => rfl) (fun _ => rfl) fun _ => rfl

theorem supervise_keeping (site : Site) (watch : Watch) (worker : String) :
    Keeping Recoverable (superviseWorker pid site watch worker taskId) := by
  refine Thread.within_bind (keeping_ask _) fun found => ?_
  dsimp only
  cases configForDescriptor site (found.getD {}) worker with
  | none => exact Thread.within_fail _
  | some config =>
      have acquire : Keeping Recoverable (acquireLease pid taskId worker watch.identified) :=
        Thread.within_bind (Thread.within_require _ _) fun _ => Thread.within_bind (keeping_ask _) fun now =>
          Thread.within_bind (aside_write _ (fun _ => rfl) (fun _ => rfl) fun _ => rfl) fun _ => Thread.within_pure _
      refine Thread.within_bind (keeping_ask _) fun now => Thread.within_bind acquire fun lease => ?_
      refine Thread.within_bind (keeping_ask _) fun claimedAt => ?_
      have claim : ∀ (descriptor : Descriptor) (next : Unit → Program Unit), descriptor.taken = true →
          (∀ engine, TakenUp taskId engine → Thread.Safe Eq (fun _ after => Recoverable after ∨ Stranded after)
            (fun _ => Recoverable) (next ()) engine) → Keeping Recoverable
            (putDescriptor taskId descriptor >>= next) := by
        intro descriptor next taken onward engine fine later same _
        subst same
        have kept : Recoverable (engine.modify taskId fun files => { files with descriptor := some descriptor }) :=
          fine.taken taken
        refine ⟨.inl kept, onward _ ⟨kept, ?_⟩⟩
        rw [task_modify, if_pos rfl]
        exact taken
      refine claim _ _ rfl fun engine fine => ?_
      rw [Thread.safe_bind]
      refine keeping_weaken (Thread.within_lift watch.prompt) fine fun outcome later held => ?_
      cases outcome with
      | error error => exact held.1
      | ok done =>
          have onward : ∀ (descriptor : Descriptor) (engine : Engine), descriptor.taken = true → TakenUp taskId engine →
              Thread.Safe Eq (fun _ after => Recoverable after ∨ Stranded after) (fun _ => Recoverable) (do
                let startedAt ← utcNow
                let watched ← startWorker taskId watch descriptor lease
                concludeTask pid site watch worker taskId startedAt watched) engine := by
            intro descriptor engine taken fine
            rw [Thread.safe_bind]
            refine keeping_weaken (keeping_ask _) fine fun outcome later held => ?_
            cases outcome with
            | error error => exact held.1
            | ok startedAt =>
                rw [Thread.and_then_ok, Thread.safe_bind]
                refine keeping_weaken (start_taken _ _ _ taken) held fun outcome later held => ?_
                cases outcome with
                | error error => exact held.1
                | ok watched => exact conclude_keeping _ _ _ _ _ _ _ held
          rw [Thread.and_then_ok]
          split
          · rw [Thread.safe_bind]
            refine keeping_weaken (taken_put_descriptor _ rfl) held fun outcome later held => ?_
            cases outcome with
            | error error => exact held.1
            | ok done => exact onward _ _ rfl held
          · exact onward _ _ rfl held

end Supervision

end OrchestratorEngine.Workers
