import OrchestratorEngine.Foundation.Interleaving
import OrchestratorEngine.Workers.Recoverable

set_option autoImplicit false

namespace OrchestratorEngine.Workers

open Foundation

inductive Call where
  | runWorker (dispatch : Dispatch)
  | queueTick (draws : TickDraws)
  | cancelWorkerTask (taskId : String) (mode : CancelMode) (reason : String)
  | reapWorkerTasks (observed : Observations)
  | superviseWorker (watch : Watch) (worker taskId : String)

def Call.perform (pid : Nat) (site : Site) : Call → Program Unit
  | .runWorker dispatch => Workers.runWorker pid site dispatch
  | .queueTick draws => Workers.queueTick pid site draws
  | .cancelWorkerTask taskId mode reason => do
      let _ ← Workers.cancelWorkerTask pid taskId mode reason
      return ()
  | .reapWorkerTasks observed => Workers.reapWorkerTasks pid observed
  | .superviseWorker watch worker taskId => Workers.superviseWorker pid site watch worker taskId

structure Machine where
  engine : Engine
  running : Option (Nat × Program Unit)

inductive Moment where
  | enter (pid : Nat) (call : Call)
  | go
  | die
  | wait (later : Int)
  | exit (process : Nat) (code : Option Int)

def Engine.unlock (engine : Engine) (pid : Nat) : Engine :=
  { engine with
    admission := if engine.admission = some pid then none else engine.admission
    tasks := engine.tasks.mapValues fun _ files =>
      { files with publisher := if files.publisher = some pid then none else files.publisher } }

def moment (site : Site) : Moment → Machine → Option Machine
  | .enter pid call, ⟨engine, none⟩ => some ⟨engine, some (pid, call.perform pid site)⟩
  | .enter _ _, ⟨_, some _⟩ => none
  | .go, ⟨_, none⟩ => none
  | .go, ⟨engine, some (pid, thread)⟩ =>
      match thread with
      | .ret _ | .fail _ => some ⟨engine, none⟩
      | .look _ | .move _ _ _ => (thread.advance engine).map fun taken => ⟨taken.1, some (pid, taken.2)⟩
  | .die, ⟨_, none⟩ => none
  | .die, ⟨engine, some (pid, _)⟩ => some ⟨engine.unlock pid, none⟩
  | .wait later, ⟨engine, none⟩ => if engine.clock ≤ later then some ⟨{ engine with clock := later }, none⟩ else none
  | .wait _, ⟨_, some _⟩ => none
  | .exit process code, ⟨engine, none⟩ => some ⟨engine.endWorker process code, none⟩
  | .exit _ _, ⟨_, some _⟩ => none

def Survivable : Moment → Machine → Prop
  | .die, machine => ¬ Stranded machine.engine
  | _, _ => True

instance (step : Moment) (machine : Machine) : Decidable (Survivable step machine) := by
  cases step <;> unfold Survivable <;> infer_instance

section Cancelling

open Journal

variable {taskId : String} {descriptor : Descriptor} {engine : Engine}

theorem stranded_of_result (found : (engine.task taskId).descriptor = some descriptor)
    (queued : descriptor.status = some .queued) (published : (engine.task taskId).result.isSome = true) :
    Stranded engine := by
  rw [Engine.task] at found published
  cases stored : engine.tasks.get? taskId with
  | none =>
      rw [stored] at found
      cases found
  | some files =>
      rw [stored, Option.getD_some] at found published
      refine .inl ⟨(taskId, files), (Dict.mem_items _ _ _).mpr stored, ?_, published⟩
      simp [found, queued]

structure Window (taskId : String) (descriptor : Descriptor) (engine : Engine) : Prop where
  others : ∀ other, other ≠ taskId → Sound other (engine.task other)
  claimed : ∀ key claim, engine.claims.get? key = some claim → (engine.task claim.taskId).dispatched = true
  found : (engine.task taskId).descriptor = some descriptor
  queued : descriptor.status = some .queued
  published : (engine.task taskId).result.isSome = true

theorem Window.write (window : Window taskId descriptor engine) (change : TaskFiles → TaskFiles)
    (sameDescriptor : ∀ files, (change files).descriptor = files.descriptor)
    (sameResult : ∀ files, (change files).result = files.result) :
    Window taskId descriptor (engine.modify taskId change) := by
  refine ⟨fun other different => ?_, fun key claim found => ?_, ?_, window.queued, ?_⟩
  · rw [task_modify, if_neg different]
    exact window.others other different
  · have before := window.claimed key claim found
    rw [task_modify]
    split
    case isTrue same =>
      rw [same] at before
      rw [TaskFiles.dispatched, sameDescriptor]
      exact before
    case isFalse _ => exact before
  · rw [task_modify, if_pos rfl, sameDescriptor]
    exact window.found
  · rw [task_modify, if_pos rfl, sameResult]
    exact window.published

theorem Window.stranded (window : Window taskId descriptor engine) : Recoverable engine ∨ Stranded engine :=
  .inr (stranded_of_result window.found window.queued window.published)

theorem Window.complete (window : Window taskId descriptor engine) (ended : Descriptor) (taken : ended.taken = true) :
    Recoverable (engine.modify taskId fun files => { files with descriptor := some ended }) := by
  have placed : ({ engine.task taskId with descriptor := some ended } : TaskFiles).taken = true := taken
  refine ⟨fun other => ?_, fun key claim found => ?_⟩
  · rw [task_modify]
    split
    case isTrue _ => exact sound_of_taken placed
    case isFalse different => exact window.others other different
  · rw [task_modify]
    split
    case isTrue _ => exact dispatched_of_taken placed
    case isFalse _ => exact window.claimed key claim found

def CancelledIn (result : WorkerResult) (files : TaskFiles) : Prop :=
  files.result = some (.readable result) ∧ result.terminalStatus = .cancelled ∧
    ∃ event, files.event = some event ∧ event.terminalStatus = .cancelled ∧ event.result = .readable result

theorem retain_leads (event : TerminalEvent) (signal : TerminalSignal) (emitSignal : Bool)
    (same : event.taskId = taskId)
    (window : Window taskId descriptor engine) (none : (engine.task taskId).event = none) :
    Leads (fun after => Recoverable after ∨ Stranded after)
      (fun _ later => Window taskId descriptor later ∧ (later.task taskId).result = (engine.task taskId).result ∧
        (later.task taskId).event = some event)
      (Thread.journal (retainEventAndSignal event signal emitSignal)) engine := by
  subst same
  have written := window.write (fun files => { files with event := some event }) (fun _ => rfl) fun _ => rfl
  simp only [retainEventAndSignal, Thread.journal_bind, journal_ask_task]
  refine leads_ask _ ?_
  rw [none]
  simp only [Thread.journal_bind, journal_write_task]
  refine leads_write_bind written.stranded ?_
  cases emitSignal with
  | true =>
      have signalled := written.write (fun files => { files with signal := some signal }) (fun _ => rfl)
        fun _ => rfl
      refine leads_write signalled.stranded ⟨signalled, ?_, ?_⟩ <;> simp
  | false =>
      refine leads_pure _ ⟨written, ?_, ?_⟩ <;> simp

theorem publish_leads (result : WorkerResult) (evidence : Evidence) (wakeTarget : Option String) (emitSignal : Bool)
    (cancelled : result.terminalStatus = .cancelled) (window : Window taskId descriptor engine)
    (read : (engine.task taskId).result = some (.readable result)) (none : (engine.task taskId).event = none) :
    Leads (fun after => Recoverable after ∨ Stranded after)
      (fun finalized later => finalized = .published .claimed result emitSignal ∧ Window taskId descriptor later ∧
        CancelledIn result (later.task taskId))
      (Thread.journal (publishFinal taskId .claimed result evidence Option.none wakeTarget emitSignal)) engine := by
  let final := { evidence with finishedAt := result.finishedAt, quarantined := evidence.quarantined }
  have written := window.write (fun files => { files with evidence := some final }) (fun _ => rfl) fun _ => rfl
  simp only [publishFinal, Thread.journal_bind, journal_ask_task, ne_eq, reduceCtorEq, not_false_eq_true,
    or_true, if_true,
    journal_write_task, Option.none_or]
  refine leads_ask _ ?_
  refine leads_write_bind written.stranded ?_
  simp only [writeTerminalEvent, Thread.journal_bind, journal_ask_task]
  refine Leads.through (fun _ later => Window taskId descriptor later ∧ CancelledIn result (later.task taskId)) ?_ ?_
  · refine leads_ask _ ?_
    simp only [task_modify, if_true, read, Thread.journal_bind, journal_utc_now]
    refine leads_ask _ ?_
    refine (retain_leads _ _ emitSignal rfl written (by simp [none])).mono (fun _ step => step) ?_
    rintro _ later ⟨kept, same, retained⟩
    refine ⟨kept, ?_, cancelled, _, retained, cancelled, rfl⟩
    rw [same, task_modify, if_pos rfl]
    exact read
  · rintro _ later ⟨kept, done⟩
    exact leads_pure _ ⟨rfl, kept, done⟩

theorem finalize_cancelled_leads (pid : Nat) (reason : String) (recoverable : Recoverable engine)
    (found : (engine.task taskId).descriptor = some descriptor) (queued : descriptor.status = some .queued) :
    Leads (fun after => Recoverable after ∨ Stranded after)
      (fun finalized later => ∃ result signalled, finalized.1 = .published .claimed result signalled ∧
        Window taskId descriptor later ∧ CancelledIn result (later.task taskId))
      (Thread.journal (finalizeCancelled pid taskId descriptor reason)) engine := by
  have sound := recoverable.sound taskId
  obtain ⟨_, signalled, wakes⟩ := sound.queued descriptor found queued
  have untaken : (engine.task taskId).taken = false := by
    rw [TaskFiles.taken, found, Option.any_some, Descriptor.taken, queued]
    rfl
  obtain ⟨noResult, noEvent⟩ := sound.unpublished untaken
  simp only [finalizeCancelled, Thread.journal_bind, journal_utc_now, Thread.journal_lift, Thread.journal_pure]
  refine leads_ask _ ?_
  refine leads_lift signalled wakes ?_
  let artifacts := queuedCancellationArtifacts descriptor reason engine.clock
  let locked := engine.modify taskId fun files => { files with publisher := some pid }
  have held : Recoverable locked := recoverable.aside rfl rfl rfl
  refine Leads.through (fun finalized later => finalized = .published .claimed artifacts.1 signalled ∧
    Window taskId descriptor later ∧ CancelledIn artifacts.1 (later.task taskId)) ?_ ?_
  · simp only [finalizeTerminalTask, acquirePublication, Thread.journal_bind, Thread.journal_await,
      Thread.journal_attempt]
    refine leads_write_bind (.inl held) ?_
    have window : Window taskId descriptor
        (locked.modify taskId fun files => { files with result := some (.readable artifacts.1) }) := by
      refine ⟨fun other different => ?_, fun key claim standing => ?_, ?_, queued, ?_⟩
      · rw [task_modify, if_neg different]
        exact held.sound other
      · have before := held.claimed key claim standing
        rw [task_modify]
        split
        case isTrue same =>
          rw [same] at before
          exact before
        case isFalse _ => exact before
      · simp [locked, found]
      · simp
    refine Leads.through (fun outcome later => ∃ finalized, outcome = .ok finalized ∧
      finalized = .published .claimed artifacts.1 signalled ∧ Window taskId descriptor later ∧
        CancelledIn artifacts.1 (later.task taskId)) (leads_attempt ?_) ?_
    · simp only [finalizeLocked, Thread.journal_bind, journal_ask_task]
      refine leads_ask _ ?_
      have unread : (locked.task taskId).result = none := by simp [locked, noResult]
      rw [show ((engine.modify taskId fun files => { files with publisher := some pid }).task taskId).result = none
        from unread]
      simp only [putResult, Thread.journal_bind, journal_write_task]
      refine leads_write_bind window.stranded ?_
      exact publish_leads artifacts.1 artifacts.2 descriptor.wakeTarget signalled rfl window
        (by rw [task_modify, if_pos rfl]) (by simp [noEvent])
    · rintro outcome later ⟨finalized, rfl, same, kept, done⟩
      simp only [releasePublication, Thread.journal_bind, journal_write_task, Thread.journal_pure]
      have released := kept.write (fun files => { files with publisher := none }) (fun _ => rfl) fun _ => rfl
      refine leads_write_bind released.stranded (leads_pure _ ⟨same, released, ?_⟩)
      rw [task_modify, if_pos rfl]
      exact done
  · rintro finalized later ⟨rfl, kept, done⟩
    exact leads_pure _ ⟨artifacts.1, signalled, rfl, kept, done⟩

def CancelledTask (taskId : String) (engine : Engine) : Prop :=
  ∃ result ended, CancelledIn result (engine.task taskId) ∧ (engine.task taskId).descriptor = some ended ∧
    ended.status = some (.terminal .cancelled)

theorem release_claim_leads (taskId : String) (descriptor : Descriptor) (recoverable : Recoverable engine) :
    Leads (fun after => Recoverable after ∨ Stranded after)
      (fun _ later => Recoverable later ∧ later.tasks = engine.tasks)
      (Thread.journal (releaseDispatchClaim taskId descriptor)) engine := by
  unfold releaseDispatchClaim
  cases descriptor.dispatchClaim with
  | none => exact leads_pure _ ⟨recoverable, rfl⟩
  | some key =>
      have fewer := release_claim_fewer key taskId engine
      have released := recoverable.fewer fewer.1 fewer.2
      exact leads_write (.inl released) ⟨released, fewer.1⟩

def TaskFiles.withdrawn (files : TaskFiles) : TaskFiles :=
  match files.pending with
  | some entry => { files with pending := none, cancelled := some entry }
  | none => files

theorem cancel_queued_leads (pid : Nat) (reason : String) (recoverable : Recoverable engine)
    (found : (engine.task taskId).descriptor = some descriptor) (queued : descriptor.status = some .queued) :
    Leads (fun after => Recoverable after ∨ Stranded after)
      (fun reply later => reply = some .cancelled ∧ Recoverable later ∧ CancelledTask taskId later)
      (Thread.journal (cancelQueued pid taskId reason)) engine := by
  simp only [cancelQueued, loadDescriptor, Thread.journal_bind, journal_ask_task]
  refine Leads.through (fun loaded later => loaded = descriptor ∧ later = engine) ?_ ?_
  · refine leads_ask _ ?_
    rw [found]
    exact leads_pure _ ⟨rfl, rfl⟩
  · rintro loaded later ⟨rfl, rfl⟩
    simp only [queued, ne_eq, not_true_eq_false, if_false, Thread.journal_bind, journal_write_task]
    let moved := later.modify taskId TaskFiles.withdrawn
    have kept : (moved.task taskId).descriptor = some loaded := by
      simp only [moved, task_modify, if_true, TaskFiles.withdrawn]
      cases (later.task taskId).pending with
      | none => exact found
      | some entry => exact found
    have held : Recoverable moved := by
      refine recoverable.aside ?_ ?_ ?_ <;> simp only [TaskFiles.withdrawn] <;>
        cases (later.task taskId).pending <;> rfl
    refine leads_write_bind (.inl held) ?_
    refine Leads.bind (finalize_cancelled_leads pid reason held kept queued) ?_
    rintro finalized after ⟨result, signalled, same, window, done⟩
    rw [same]
    simp only [putDescriptor, Thread.journal_bind, journal_write_task, Thread.journal_pure]
    let ended := { loaded with
      status := some (.terminal .cancelled), finishedAt := some finalized.2, signalEmitted := some signalled }
    let last := after.modify taskId fun files => { files with descriptor := some ended }
    have complete : Recoverable last := window.complete ended rfl
    have placed : CancelledTask taskId last := by
      refine ⟨result, ended, ?_, ?_, rfl⟩
      · simp only [last, task_modify, if_true]
        exact done
      · simp only [last, task_modify, if_true]
    refine leads_write_bind (.inl complete) ?_
    refine Leads.bind (release_claim_leads taskId ended complete) ?_
    rintro _ freed ⟨released, same⟩
    refine leads_pure _ ⟨rfl, released, ?_⟩
    rw [CancelledTask, Engine.task, same]
    exact placed

theorem cancel_leads (pid : Nat) (mode : CancelMode) (reason : String) (given : Continuity.strip reason ≠ "")
    (recoverable : Recoverable engine) (found : (engine.task taskId).descriptor = some descriptor)
    (queued : descriptor.status = some .queued) :
    Leads (fun after => Recoverable after ∨ Stranded after)
      (fun reply later => reply = .cancelled ∧ Recoverable later ∧ CancelledTask taskId later)
      (Thread.journal (cancelWorkerTask pid taskId mode reason)) engine := by
  obtain ⟨valid, _⟩ := (recoverable.sound taskId).queued descriptor found queued
  simp only [cancelWorkerTask, loadDescriptor, Thread.journal_bind, Thread.journal_require, journal_ask_task]
  refine leads_require given (leads_require (by simp [valid]) ?_)
  refine Leads.through (fun loaded later => loaded = descriptor ∧ later = engine) ?_ ?_
  · refine leads_ask _ ?_
    rw [found]
    exact leads_pure _ ⟨rfl, rfl⟩
  · rintro loaded later ⟨rfl, rfl⟩
    rw [queued]
    have locked : Recoverable { later with admission := some pid } := recoverable.fewer rfl fun _ _ standing => standing
    simp only [withAdmissionLock, acquireAdmission, Thread.journal_bind, Thread.journal_await, Thread.journal_attempt]
    refine Leads.through (fun reply later => reply = some .cancelled ∧ Recoverable later ∧ CancelledTask taskId later)
      ?_ ?_
    · refine leads_write_bind (.inl locked) ?_
      refine Leads.bind (leads_attempt (cancel_queued_leads pid reason locked found queued)) ?_
      rintro outcome after ⟨reply, rfl, same, kept, done⟩
      have freed : Recoverable { after with admission := none } := kept.fewer rfl fun _ _ standing => standing
      simp only [releaseAdmission, Thread.journal_bind, Thread.journal_write, Thread.journal_pure]
      exact leads_write_bind (.inl freed) (leads_pure _ ⟨same, freed, done⟩)
    · rintro reply after ⟨rfl, kept, done⟩
      exact leads_pure _ ⟨rfl, kept, done⟩

end Cancelling

section Dispatching

variable {taskId : String}

def Placed (taskId : String) (engine : Engine) : Prop :=
  Recoverable engine ∧ ∃ descriptor, (engine.task taskId).descriptor = some descriptor ∧ descriptor.status = none

theorem Placed.fewer {engine other : Engine} (placed : Placed taskId engine) (tasks : other.tasks = engine.tasks)
    (claims : ∀ key claim, other.claims.get? key = some claim → engine.claims.get? key = some claim) :
    Placed taskId other := by
  refine ⟨placed.1.fewer tasks claims, ?_⟩
  rw [Engine.task, tasks]
  exact placed.2

theorem placed_outside {change : Engine → Engine} (tasks : ∀ engine, (change engine).tasks = engine.tasks)
    (claims : ∀ engine key claim, (change engine).claims.get? key = some claim → engine.claims.get? key = some claim) :
    Keeping (Placed taskId) (Thread.write change) :=
  Thread.within_write (eq_stable _) fun engine placed =>
    ⟨.inl (placed.fewer (tasks engine) (claims engine)).1, placed.fewer (tasks engine) (claims engine)⟩

theorem active_claims_placed (keys : List (Fingerprint × String)) : Keeping (Placed taskId) (activeClaims keys) := by
  induction keys with
  | nil => exact Thread.within_pure []
  | cons key rest ih =>
      refine Thread.within_bind (keeping_ask _) fun found => ?_
      cases found with
      | none => exact ih
      | some claim =>
          refine Thread.within_bind (keeping_ask _) fun known => ?_
          cases known with
          | none => exact ih
          | some descriptor =>
              dsimp only
              split
              · refine Thread.within_bind ?_ fun _ => ih
                unfold releaseDispatchClaim
                cases descriptor.dispatchClaim with
                | none => exact Thread.within_pure ()
                | some held =>
                    exact placed_outside (fun engine => (release_claim_fewer held _ engine).1)
                      fun engine => (release_claim_fewer held _ engine).2
              · exact Thread.within_bind ih fun _ => Thread.within_pure _

def JustClaimed (taskId : String) (engine : Engine) : Prop :=
  ∃ before, Placed taskId before ∧ engine.tasks = before.tasks ∧
    ∀ key claim, engine.claims.get? key = some claim → claim.taskId = taskId ∨ before.claims.get? key = some claim

theorem stranded_of_claim {engine : Engine} {key : Fingerprint × String} {claim : Claim} {descriptor : Descriptor}
    (standing : engine.claims.get? key = some claim) (found : (engine.task claim.taskId).descriptor = some descriptor)
    (blank : descriptor.status = none) : Stranded engine := by
  refine .inr ⟨(key, claim), (Dict.mem_items _ _ _).mpr standing, ?_⟩
  simp [found, blank]

theorem JustClaimed.put {engine : Engine} (claimed : JustClaimed taskId engine) {descriptor : Descriptor}
    (queued : descriptor.status = some .queued) (valid : validTaskId taskId = true)
    (wakes : ∃ signalled, shouldEmitWorkerSignal descriptor.wakePolicy .cancelled = .ok signalled) :
    Awaiting taskId descriptor (engine.modify taskId fun files => { files with descriptor := some descriptor }) := by
  obtain ⟨before, ⟨recoverable, blank, found, status⟩, tasks, claims⟩ := claimed
  have task : ∀ other, engine.task other = before.task other := fun other => by rw [Engine.task, Engine.task, tasks]
  have untaken : (before.task taskId).taken = false := by
    rw [TaskFiles.taken, found, Option.any_some, Descriptor.taken, status]
    rfl
  obtain ⟨noResult, noEvent⟩ := (recoverable.sound taskId).unpublished untaken
  refine ⟨⟨fun other => ?_, fun key claim standing => ?_⟩, ?_, ?_, valid, wakes⟩
  · rw [task_modify, task]
    split
    case isTrue same =>
      rw [same]
      refine ⟨fun _ => ⟨noResult, noEvent⟩, fun known same _ => ?_⟩
      cases same
      exact ⟨valid, wakes⟩
    case isFalse _ =>
      rw [task]
      exact recoverable.sound other
  · rw [task_modify]
    split
    case isTrue _ => simp [TaskFiles.dispatched, queued]
    case isFalse different =>
      rw [task]
      rcases claims key claim standing with same | earlier
      · exact absurd same different
      · exact recoverable.claimed key claim earlier
  · rw [task_modify, if_pos rfl, task]
    exact noResult
  · rw [task_modify, if_pos rfl, task]
    exact noEvent

theorem claim_safe (descriptor : Descriptor) (config : WorkerConfig) (intentSha256 : Option String)
    (allowDuplicate : Bool)
    (duplicateReason : Option String) (engine : Engine) (placed : Placed taskId engine) :
    Thread.Safe Eq (fun _ after => Recoverable after ∨ Stranded after)
      (fun outcome later => match outcome with
        | .ok claimed => JustClaimed taskId later ∧ claimed.status = descriptor.status ∧
            claimed.wakePolicy = descriptor.wakePolicy
        | .error _ => Placed taskId later)
      (claimDispatchFingerprint taskId descriptor config intentSha256 allowDuplicate duplicateReason) engine := by
  unfold claimDispatchFingerprint
  dsimp only
  rw [Thread.safe_bind]
  refine keeping_weaken (keeping_ask _) placed fun outcome later held => ?_
  cases outcome with
  | error error => exact held
  | ok keys =>
      rw [Thread.and_then_ok, Thread.safe_bind]
      refine keeping_weaken (active_claims_placed keys) held fun outcome later held => ?_
      cases outcome with
      | error error => exact held
      | ok active =>
          rw [Thread.and_then_ok, Thread.safe_bind]
          refine keeping_weaken (Thread.within_require _ _) held fun outcome later held => ?_
          cases outcome with
          | error error => exact held
          | ok done =>
              rw [Thread.and_then_ok, Thread.safe_bind]
              refine keeping_weaken (Thread.within_require _ _) held fun outcome later held => ?_
              cases outcome with
              | error error => exact held
              | ok done =>
                  rw [Thread.and_then_ok, Thread.safe_bind, claimFile, Thread.safe_exchange]
                  rintro state rfl
                  cases standing : later.claims.get? (descriptor.dispatchFingerprint config intentSha256, taskId) with
                  | some claim =>
                      refine ⟨.inl held.1, ?_⟩
                      simp only [Option.isNone_some, Thread.and_then_ok, Thread.safe_bind, Thread.safe_require, if_true,
                        Thread.and_then_error]
                      exact held
                  | none =>
                      obtain ⟨recoverable, blank, found, status⟩ := held
                      let claim : Claim := ⟨taskId, descriptor.worker.getD ""⟩
                      let key := (descriptor.dispatchFingerprint config intentSha256, taskId)
                      have standing : ({ later with claims := later.claims.set key claim } : Engine).claims.get? key =
                          some claim := by simp
                      refine ⟨.inr (stranded_of_claim standing found status), ?_⟩
                      · simp only [Option.isNone_none, Thread.and_then_ok, Thread.safe_bind, Thread.safe_require,
                          Bool.true_eq_false, if_false, Thread.safe_pure]
                        refine ⟨⟨later, ⟨recoverable, blank, found, status⟩, rfl, fun key claim present => ?_⟩,
                          trivial, trivial⟩
                        rw [Dict.get_set] at present
                        split at present
                        case isTrue _ =>
                          cases present
                          exact .inl rfl
                        case isFalse _ => exact .inr present

theorem active_workers_raises {allowed : Error → Prop} (listed : List String) :
    Thread.Raises allowed (activeWorkers listed) := by
  induction listed with
  | nil => exact Thread.raises_pure []
  | cons other rest ih =>
      refine Thread.raises_bind (Thread.raises_ask _) fun found => Thread.raises_bind ih fun others => ?_
      cases found with
      | none => exact Thread.raises_pure others
      | some known =>
          dsimp only
          split
          · exact Thread.raises_pure _
          · exact Thread.raises_pure others

theorem admit_claimed_raises (site : Site) (dispatch : Dispatch) (config : WorkerConfig) (descriptor : Descriptor) :
    Thread.Raises (fun error => ∀ message, error ≠ .worker message) (admitClaimed site dispatch config descriptor) := by
  have enqueued : Thread.Raises (fun error => ∀ message, error ≠ Error.worker message)
      (enqueueTask dispatch.taskId descriptor) :=
    Thread.raises_bind (Thread.raises_ask _) fun now => Thread.raises_bind (Thread.raises_write _) fun _ =>
      Thread.raises_write _
  refine Thread.raises_bind (Thread.raises_ask _) fun now => ?_
  split
  · exact enqueued
  · refine Thread.raises_bind (Thread.raises_bind (Thread.raises_ask _) fun listed =>
      Thread.raises_bind (active_workers_raises listed) fun _ => Thread.raises_pure _) fun room => ?_
    split
    · exact enqueued
    · refine Thread.raises_bind (Thread.raises_write _) fun _ => Thread.raises_bind ?_ fun _ => Thread.raises_pure ()
      unfold spawnSupervisor
      cases dispatch.spawns with
      | error message => exact fun _ wrong => (by cases wrong)
      | ok done => exact Thread.raises_exchange _ _

theorem Awaiting.modify {descriptor : Descriptor} {engine : Engine} {change : TaskFiles → TaskFiles}
    (awaiting : Awaiting taskId descriptor engine) (kept : Recoverable (engine.modify taskId change))
    (result : (change (engine.task taskId)).result = (engine.task taskId).result)
    (event : (change (engine.task taskId)).event = (engine.task taskId).event) :
    Awaiting taskId descriptor (engine.modify taskId change) := by
  refine ⟨kept, ?_, ?_, awaiting.2.2.2⟩
  · rw [task_modify, if_pos rfl, result]
    exact awaiting.2.1
  · rw [task_modify, if_pos rfl, event]
    exact awaiting.2.2.1

theorem awaiting_put (claimed next : Descriptor)
    (fine : next.taken = true ∨ next.status = some .queued ∧ next.wakePolicy = claimed.wakePolicy) :
    Keeping (Awaiting taskId claimed) (putDescriptor taskId next) := by
  refine Thread.within_write (eq_stable _) fun engine held => ?_
  have kept : Recoverable (engine.modify taskId fun files => { files with descriptor := some next }) := by
    rcases fine with taken | ⟨queued, same⟩
    · exact held.1.taken taken
    · exact held.1.put_queued ⟨held.2.1, held.2.2.1⟩ (by rw [same]; exact held.2.2.2) queued
  exact ⟨.inl kept, held.modify kept rfl rfl⟩

theorem awaiting_spawn (claimed : Descriptor) (worker : String) (spawns : Except String Unit) :
    Keeping (Awaiting taskId claimed) (spawnSupervisor taskId worker spawns) := by
  cases spawns with
  | error message => exact Thread.within_fail _
  | ok done =>
      refine Thread.within_exchange (eq_stable _) fun engine held => ?_
      have kept : Recoverable { engine with
          processes := engine.processes ++ [some ⟨taskId, worker, engine.clock⟩]
          live := engine.live ++ [engine.processes.length] } := held.1.fewer rfl fun _ _ found => found
      exact ⟨.inl kept, kept, held.2⟩

theorem admit_claimed_keeping (site : Site) (dispatch : Dispatch) (config : WorkerConfig) (claimed : Descriptor) :
    Keeping (Awaiting dispatch.taskId claimed) (admitClaimed site dispatch config claimed) := by
  have enqueue : Keeping (Awaiting dispatch.taskId claimed) (enqueueTask dispatch.taskId claimed) := by
    refine Thread.within_bind (keeping_ask _) fun now =>
      Thread.within_bind (awaiting_put _ _ (.inr ⟨rfl, rfl⟩)) fun _ => ?_
    refine Thread.within_write (eq_stable _) fun engine held => ?_
    have kept : Recoverable (engine.modify dispatch.taskId fun files =>
      { files with pending := some ⟨dispatch.taskId, claimed.worker.getD "", now, none⟩ }) := held.1.aside rfl rfl rfl
    exact ⟨.inl kept, held.modify kept rfl rfl⟩
  refine Thread.within_bind (keeping_ask _) fun now => ?_
  split
  · exact enqueue
  · refine Thread.within_bind (can_admit_keeping _ _ _) fun room => ?_
    split
    · exact enqueue
    · refine Thread.within_bind (awaiting_put _ _ (.inl rfl)) fun _ => ?_
      exact Thread.within_bind (awaiting_spawn _ _ _) fun _ => Thread.within_pure ()

def Refused (taskId : String) {α : Type} (outcome : Except Error α) (engine : Engine) : Prop :=
  Recoverable engine ∧ ∀ message, outcome = .error (.worker message) → Placed taskId engine

theorem admit_dispatch_safe (site : Site) (dispatch : Dispatch) (config : WorkerConfig) (descriptor : Descriptor)
    (queued : descriptor.status = some .queued) (valid : validTaskId dispatch.taskId = true)
    (wakes : ∃ signalled, shouldEmitWorkerSignal descriptor.wakePolicy .cancelled = .ok signalled) (engine : Engine)
    (placed : Placed dispatch.taskId engine) :
    Thread.Safe Eq (fun _ after => Recoverable after ∨ Stranded after) (Refused dispatch.taskId)
      (admitDispatch site dispatch config descriptor) engine := by
  rw [admitDispatch, Thread.safe_bind]
  refine (claim_safe descriptor config _ _ _ engine placed).mono (fun _ _ step => step) fun outcome later held => ?_
  cases outcome with
  | error error => exact ⟨held.1, fun _ _ => held⟩
  | ok claimed =>
      obtain ⟨just, status, policy⟩ := held
      rw [Thread.and_then_ok, Thread.safe_bind]
      rintro state rfl -
      have awaiting := just.put (status.trans queued) valid (policy ▸ wakes)
      refine ⟨.inl awaiting.1, ?_⟩
      refine ((admit_claimed_keeping site dispatch config claimed _ awaiting).raises
        (admit_claimed_raises site dispatch config claimed)).mono (fun _ _ step => step) ?_
      rintro outcome later ⟨kept, fine⟩
      exact ⟨kept.1, fun message wrong => absurd rfl (fine _ wrong message)⟩

theorem locked_dispatch_safe (pid : Nat) {body : Program Unit} (engine : Engine) (placed : Placed taskId engine)
    (inner : ∀ engine, Placed taskId engine → Thread.Safe Eq (fun _ after => Recoverable after ∨ Stranded after)
      (Refused taskId) body engine) :
    Thread.Safe Eq (fun _ after => Recoverable after ∨ Stranded after) (Refused taskId) (withAdmissionLock pid body)
      engine := by
  rw [withAdmissionLock, Thread.safe_bind, acquireAdmission, Thread.safe_await]
  rintro state rfl -
  have locked : Placed taskId { engine with admission := some pid } := placed.fewer rfl fun _ _ standing => standing
  refine ⟨.inl locked.1, ?_⟩
  rw [Thread.and_then_ok, Thread.safe_bind, Thread.safe_attempt]
  refine (inner _ locked).mono (fun _ _ step => step) ?_
  rintro outcome later ⟨kept, refused⟩
  have freed : Recoverable { later with admission := none } := kept.fewer rfl fun _ _ standing => standing
  cases outcome with
  | ok value =>
      rw [Thread.and_then_ok, Thread.safe_bind]
      rintro state rfl -
      exact ⟨.inl freed, freed, fun message wrong => (by cases wrong)⟩
  | error error =>
      rw [Thread.and_then_ok, Thread.safe_bind]
      rintro state rfl -
      refine ⟨.inl freed, freed, fun message wrong => ?_⟩
      cases wrong
      exact (refused message rfl).fewer rfl fun _ _ standing => standing

theorem claim_task_safe {post : Except Error Bool → Engine → Prop} {engine : Engine} (recoverable : Recoverable engine)
    (created : ∀ later, Placed taskId later → post (.ok true) later) (refused : post (.ok false) engine) :
    Thread.Safe Eq (fun _ after => Recoverable after ∨ Stranded after) post (claimTask taskId) engine := by
  rw [claimTask, Thread.safe_exchange]
  rintro state rfl
  cases found : (engine.task taskId).descriptor with
  | some descriptor => exact ⟨.inl recoverable, refused⟩
  | none =>
      have untaken : (engine.task taskId).taken = false := by rw [TaskFiles.taken, found, Option.any_none]
      have undispatched : (engine.task taskId).dispatched = false := by
        rw [TaskFiles.dispatched, found, Option.any_none]
      have kept : Recoverable (engine.modify taskId fun files => { files with descriptor := some {} }) := by
        refine recoverable.modify ⟨fun _ => (recoverable.sound taskId).unpublished untaken, ?_⟩ fun dispatched => ?_
        · rintro descriptor same queued
          cases same
          cases queued
        · rw [undispatched] at dispatched
          cases dispatched
      refine ⟨.inl kept, created _ ⟨kept, {}, ?_, rfl⟩⟩
      rw [task_modify, if_pos rfl]

theorem unlink_safe {engine : Engine} (placed : Placed taskId engine) (error : Error) :
    Thread.Safe Eq (fun _ after => Recoverable after ∨ Stranded after) (fun _ => Recoverable)
      (unlinkDescriptor taskId >>= fun _ => (Thread.fail error : Program Unit)) engine := by
  obtain ⟨recoverable, descriptor, found, blank⟩ := placed
  rw [Thread.safe_bind]
  rintro state rfl -
  have untaken : (engine.task taskId).taken = false := by
    rw [TaskFiles.taken, found, Option.any_some, Descriptor.taken, blank]
    rfl
  have undispatched : (engine.task taskId).dispatched = false := by
    rw [TaskFiles.dispatched, found, Option.any_some, blank]
    rfl
  have kept : Recoverable (engine.modify taskId fun files => { files with descriptor := none }) := by
    refine recoverable.modify ⟨fun _ => (recoverable.sound taskId).unpublished untaken, ?_⟩ fun dispatched => ?_
    · rintro _ same
      cases same
    · rw [undispatched] at dispatched
      cases dispatched
  exact ⟨.inl kept, kept⟩

theorem run_worker_keeping (pid : Nat) (site : Site) (dispatch : Dispatch) :
    Keeping Recoverable (runWorker pid site dispatch) := by
  intro engine recoverable
  rw [runWorker, Thread.safe_bind, Thread.safe_require]
  split
  case isTrue _ => exact recoverable
  case isFalse known =>
    rw [Thread.and_then_ok, Thread.safe_bind]
    refine keeping_weaken (Thread.within_require _ _) recoverable fun outcome later held => ?_
    cases outcome with
    | error error => exact held
    | ok done =>
        rw [Thread.and_then_ok, Thread.safe_bind, Thread.safe_require]
        split
        case isTrue _ => exact held
        case isFalse named =>
          have valid : validTaskId dispatch.taskId = true := by simpa using named
          rw [Thread.and_then_ok]
          cases site.workers dispatch.worker with
          | none => exact held
          | some config =>
              dsimp only
              rw [Thread.safe_bind]
              refine keeping_weaken (Thread.within_lift _) held fun outcome later held => ?_
              cases outcome with
              | error error => exact held
              | ok done =>
                  rw [Thread.and_then_ok, Thread.safe_bind]
                  refine claim_task_safe held (fun later placed => ?_) held
                  rw [Thread.and_then_ok, Thread.safe_bind, Thread.safe_require]
                  simp only [Bool.true_eq_false, if_false, Thread.and_then_ok]
                  cases dispatch.snapshot with
                  | error message => exact unlink_safe placed _
                  | ok done =>
                      dsimp only
                      rw [Thread.safe_bind]
                      refine keeping_weaken (keeping_ask _) placed fun outcome later placed => ?_
                      cases outcome with
                      | error error => exact placed.1
                      | ok now =>
                          rw [Thread.and_then_ok, Thread.safe_bind, Thread.safe_attempt]
                          have wakes : ∃ signalled, shouldEmitWorkerSignal (some dispatch.wakePolicy) .cancelled =
                              .ok signalled := by
                            simp only [shouldEmitWorkerSignal, Option.getD_some, if_neg known]
                            exact ⟨_, rfl⟩
                          refine (locked_dispatch_safe pid later placed fun engine placed =>
                            admit_dispatch_safe site dispatch config (dispatch.descriptor config now) rfl valid wakes
                              engine placed).mono (fun _ _ step => step) ?_
                          rintro outcome last ⟨kept, refused⟩
                          cases outcome with
                          | ok done => exact kept
                          | error error =>
                              cases error with
                              | worker message => exact unlink_safe (refused message rfl) _
                              | _ => exact kept

end Dispatching

theorem load_descriptor_safe {guar : Engine → Engine → Prop} {post : Except Error Descriptor → Engine → Prop}
    (taskId : String) (engine : Engine) :
    Thread.Safe Eq guar post (loadDescriptor taskId) engine ↔
      post (match (engine.task taskId).descriptor with
        | some descriptor => .ok descriptor
        | none => .error (.core "file not found: task.json")) engine := by
  rw [loadDescriptor, Thread.safe_bind, askTask, Thread.safe_ask, forall_eq']
  cases (engine.task taskId).descriptor <;> rfl

attribute [local irreducible] Thread.Safe

def Cancellable (taskId reason : String) (engine : Engine) : Prop :=
  Continuity.strip reason ≠ "" ∧
    ∃ descriptor, (engine.task taskId).descriptor = some descriptor ∧ descriptor.status = some .queued

theorem cancellable_leads {taskId reason : String} {engine : Engine} (pid : Nat) (mode : CancelMode)
    (recoverable : Recoverable engine) (waiting : Cancellable taskId reason engine) :
    Journal.Leads (fun after => Recoverable after ∨ Stranded after)
      (fun reply later => reply = .cancelled ∧ Recoverable later ∧ CancelledTask taskId later)
      (Thread.journal (cancelWorkerTask pid taskId mode reason)) engine := by
  obtain ⟨given, descriptor, found, queued⟩ := waiting
  exact cancel_leads pid mode reason given recoverable found queued

theorem cancel_queued_safe {taskId reason : String} {engine : Engine} (pid : Nat) (mode : CancelMode)
    (recoverable : Recoverable engine) (waiting : Cancellable taskId reason engine) :
    Thread.Safe Eq (fun _ after => Recoverable after ∨ Stranded after) (fun _ => Recoverable)
      (cancelWorkerTask pid taskId mode reason) engine := by
  have safe := Thread.safe_of_leads (cancellable_leads pid mode recoverable waiting) (.inl recoverable)
  refine safe.mono (fun _ _ step => step) fun outcome later ended => ?_
  obtain ⟨reply, same, finish⟩ := ended
  exact finish.2.1

theorem request_keeping (taskId : String) (mode : CancelMode) (reason : String) :
    Keeping Recoverable (requestCancel taskId mode reason) := by
  refine Thread.within_bind (Thread.within_exchange (eq_stable _) fun engine fine => ?_) fun _ => Thread.within_pure _
  cases (engine.task taskId).cancelRequest with
  | some _ => exact ⟨.inl fine, fine⟩
  | none => exact ⟨.inl (fine.aside rfl rfl rfl), fine.aside rfl rfl rfl⟩

theorem cancel_other_safe {taskId reason : String} {engine : Engine} (pid : Nat) (mode : CancelMode)
    (recoverable : Recoverable engine) (other : ¬ Cancellable taskId reason engine) :
    Thread.Safe Eq (fun _ after => Recoverable after ∨ Stranded after) (fun _ => Recoverable)
      (cancelWorkerTask pid taskId mode reason) engine := by
  rw [cancelWorkerTask, Thread.safe_bind, Thread.safe_require]
  split
  case isTrue _ => exact recoverable
  case isFalse given =>
    rw [Thread.and_then_ok, Thread.safe_bind, Thread.safe_require]
    split
    case isTrue _ => exact recoverable
    case isFalse valid =>
      rw [Thread.and_then_ok, Thread.safe_bind, load_descriptor_safe]
      cases found : (engine.task taskId).descriptor with
      | none => exact recoverable
      | some descriptor =>
          dsimp only
          rw [Thread.and_then_ok]
          match status : descriptor.status with
          | none => exact request_keeping taskId mode reason engine recoverable
          | some (.terminal ended) => exact (Thread.safe_pure _).mpr recoverable
          | some .queued => exact absurd ⟨given, descriptor, found, status⟩ other
          | some .starting | some .running | some .cancelling =>
              exact request_keeping taskId mode reason engine recoverable

theorem cancel_keeping (pid : Nat) (taskId : String) (mode : CancelMode) (reason : String) :
    Keeping Recoverable (cancelWorkerTask pid taskId mode reason) := fun _ recoverable =>
  (Classical.em _).elim (cancel_queued_safe pid mode recoverable) (cancel_other_safe pid mode recoverable)

theorem perform_keeping (pid : Nat) (site : Site) (call : Call) : Keeping Recoverable (call.perform pid site) := by
  cases call with
  | runWorker dispatch => exact run_worker_keeping pid site dispatch
  | queueTick draws => exact queue_tick_keeping pid site draws
  | cancelWorkerTask taskId mode reason =>
      exact Thread.within_bind (cancel_keeping pid taskId mode reason) fun _ => Thread.within_pure ()
  | reapWorkerTasks observed => exact reap_keeping pid observed
  | superviseWorker watch worker taskId => exact supervise_keeping pid site watch worker

def MachineSound : Machine → Prop
  | ⟨engine, none⟩ => Recoverable engine
  | ⟨engine, some (_, thread)⟩ => (Recoverable engine ∨ Stranded engine) ∧
      Thread.Safe Eq (fun _ after => Recoverable after ∨ Stranded after) (fun _ => Recoverable) thread engine

theorem Recoverable.unlock {engine : Engine} (recoverable : Recoverable engine) (pid : Nat) :
    Recoverable (engine.unlock pid) := by
  have task : ∀ taskId, ∃ publisher, (engine.unlock pid).task taskId = { engine.task taskId with publisher } := by
    intro taskId
    rw [Engine.task, Engine.task, Engine.unlock, Dict.get_map_values]
    cases engine.tasks.get? taskId with
    | none => exact ⟨none, rfl⟩
    | some files => exact ⟨_, rfl⟩
  refine ⟨fun taskId => ?_, fun key claim standing => ?_⟩
  · obtain ⟨publisher, same⟩ := task taskId
    rw [same]
    exact ⟨(recoverable.sound taskId).unpublished, (recoverable.sound taskId).queued⟩
  · obtain ⟨publisher, same⟩ := task claim.taskId
    rw [same]
    exact recoverable.claimed key claim standing

theorem moment_sound (site : Site) (label : Moment) (machine next : Machine) (sound : MachineSound machine)
    (survivable : Survivable label machine) (taken : moment site label machine = some next) : MachineSound next := by
  obtain ⟨engine, running⟩ := machine
  cases label with
  | enter pid call =>
      cases running with
      | some _ => cases taken
      | none =>
          cases taken
          exact ⟨.inl sound, perform_keeping pid site call engine sound⟩
  | go =>
      cases running with
      | none => cases taken
      | some process =>
          obtain ⟨pid, thread⟩ := process
          obtain ⟨passed, safe⟩ := sound
          have step : ∀ after rest, thread.advance engine = some (after, rest) →
            MachineSound ⟨after, some (pid, rest)⟩ := by
            intro after rest moved
            obtain ⟨same | guaranteed, onward⟩ := safe.advance rfl moved
            · rw [same] at onward ⊢
              exact ⟨passed, onward⟩
            · exact ⟨guaranteed, onward⟩
          cases thread with
          | ret value =>
              cases taken
              exact (Thread.safe_pure value).mp safe
          | fail error =>
              cases taken
              exact (Thread.safe_fail error).mp safe
          | look rest =>
              simp only [moment, Option.map_eq_some_iff] at taken
              obtain ⟨⟨after, rest⟩, moved, rfl⟩ := taken
              exact step after rest moved
          | move ready change rest =>
              simp only [moment, Option.map_eq_some_iff] at taken
              obtain ⟨⟨after, rest⟩, moved, rfl⟩ := taken
              exact step after rest moved
  | die =>
      cases running with
      | none => cases taken
      | some process =>
          cases taken
          exact (sound.1.resolve_right survivable).unlock process.1
  | wait later =>
      cases running with
      | some _ => cases taken
      | none =>
          simp only [moment] at taken
          split at taken
          case isTrue _ =>
            cases taken
            exact Recoverable.fewer sound rfl fun _ _ standing => standing
          case isFalse _ => cases taken
  | exit process code =>
      cases running with
      | some _ => cases taken
      | none =>
          cases taken
          exact Recoverable.fewer sound rfl fun _ _ standing => standing

def Unclaimed (taskId : String) (engine : Engine) : Prop :=
  ∀ key claim, engine.claims.get? key = some claim → claim.taskId ≠ taskId

theorem active_claims_keeps (taskId : String) (keys : List (Fingerprint × String)) (engine : Engine)
    (unclaimed : Unclaimed taskId engine) :
    Journal.Keeps (Unclaimed taskId) (fun active later => taskId ∉ active ∧ Unclaimed taskId later)
      (Thread.journal (activeClaims keys)) engine := by
  induction keys generalizing engine with
  | nil =>
      simp only [activeClaims, Thread.journal_pure, Journal.keeps_pure]
      exact ⟨List.not_mem_nil, unclaimed⟩
  | cons key rest ih =>
      simp only [activeClaims, Thread.journal_bind, Thread.journal_ask, Journal.keeps_bind, Journal.keeps_ask]
      cases standing : engine.claims.get? key with
      | none => exact ih engine unclaimed
      | some claim =>
          have other := unclaimed key claim standing
          simp only [Thread.journal_bind, journal_ask_task, Journal.keeps_bind, Journal.keeps_ask]
          cases (engine.task claim.taskId).descriptor with
          | none => exact ih engine unclaimed
          | some descriptor =>
              dsimp only
              split
              case isTrue _ =>
                simp only [Thread.journal_bind, Journal.keeps_bind]
                unfold releaseDispatchClaim
                cases descriptor.dispatchClaim with
                | none => exact (Journal.keeps_pure ()).mpr (ih engine unclaimed)
                | some held =>
                    have fewer := release_claim_fewer held claim.taskId engine
                    have kept : Unclaimed taskId _ := fun key claim present => unclaimed key claim
                      (fewer.2 key claim present)
                    exact (Journal.keeps_write _ _).mpr ⟨kept, ih _ kept⟩
              case isFalse _ =>
                simp only [Thread.journal_bind, Journal.keeps_bind, Thread.journal_pure, Journal.keeps_pure]
                refine (ih engine unclaimed).mono (fun _ kept => kept) fun active later finish => ⟨?_, finish.2⟩
                rintro (_ | ⟨_, listed⟩)
                · exact other rfl
                · exact finish.1 listed

def blocking (fingerprint : Fingerprint) (engine : Engine) : Except Error (List String) :=
  ((Thread.journal (activeClaims (claimKeys fingerprint engine))).run engine).2

def Engine.placeholder (engine : Engine) (taskId : String) : Prop :=
  ∃ descriptor, (engine.task taskId).descriptor = some descriptor ∧ descriptor.status = none

theorem dispatch_recovers (site : Site) (schedule : List Moment) (start : Int) (final : Engine)
    (met : Meets (moment site) Survivable schedule ⟨{ clock := start }, none⟩)
    (reached : follow (moment site) schedule ⟨{ clock := start }, none⟩ = some ⟨final, none⟩) :
    (∀ taskId descriptor, (final.task taskId).descriptor = some descriptor → descriptor.status = some .queued →
      ∀ pid mode reason, Continuity.strip reason ≠ "" → ∃ visited,
        (Thread.journal (cancelWorkerTask pid taskId mode reason)).run final = (visited, .ok .cancelled) ∧
          CancelledTask taskId (visited.getLastD final)) ∧
    ∀ fingerprint active, blocking fingerprint final = .ok active → ∀ taskId ∈ active, ¬ final.placeholder taskId := by
  have initial : MachineSound ⟨{ clock := start }, none⟩ := by
    refine ⟨fun taskId => ⟨fun _ => ⟨rfl, rfl⟩, ?_⟩, ?_⟩
    · rintro _ found
      cases found
    · rintro _ _ standing
      cases standing
  have recoverable : Recoverable final :=
    follow_invariant MachineSound (moment_sound site) schedule _ _ initial met reached
  constructor
  · intro taskId descriptor found queued pid mode reason given
    obtain ⟨visited, reply, done, _, same, _, cancelled⟩ := cancel_leads pid mode reason given recoverable found queued
    subst same
    exact ⟨visited, done, cancelled⟩
  · rintro fingerprint active outcome taskId listed ⟨descriptor, found, blank⟩
    have unclaimed : Unclaimed taskId final := by
      rintro key claim standing rfl
      have dispatched := recoverable.claimed key claim standing
      rw [TaskFiles.dispatched, found, Option.any_some, blank] at dispatched
      cases dispatched
    exact ((active_claims_keeps taskId _ final unclaimed).2 active outcome).1 listed

-- One task may run at a time, and another one does.
def fullSite : Site := ⟨fun _ => some ⟨"run", none⟩, some 1⟩

def occupying : Dispatch := { taskId := "u", worker := "w", promptSha256 := "q" }

def dispatched : Dispatch := { taskId := "t", worker := "w", promptSha256 := "p" }

def dispatchedAfter (steps : Nat) : List Moment :=
  .enter 1 (.runWorker occupying) :: List.replicate 13 .go ++ .enter 2 (.runWorker dispatched) ::
  List.replicate steps .go

def cancelledAfter (steps : Nat) : List Moment :=
  dispatchedAfter 15 ++ .enter 3 (.cancelWorkerTask "t" .graceful "stop") :: List.replicate steps .go ++ [.die]

def machineAfter (schedule : List Moment) : Machine :=
  (follow (moment fullSite) schedule ⟨{ clock := 0 }, none⟩).getD ⟨{ clock := 0 }, none⟩

theorem moved_entry_recovers : ∃ visited,
    (Thread.journal (cancelWorkerTask 4 "t" .graceful "again")).run (machineAfter (cancelledAfter 6)).engine =
      (visited, .ok .cancelled) ∧ CancelledTask "t" (visited.getLastD (machineAfter (cancelledAfter 6)).engine) :=
  (dispatch_recovers fullSite (cancelledAfter 6) 0 (machineAfter (cancelledAfter 6)).engine (by decide) rfl).1 "t"
    (((machineAfter (cancelledAfter 6)).engine.task "t").descriptor.getD {}) rfl (by decide) 4 .graceful
    "again" (by decide)

def promptFingerprint : Fingerprint := ⟨"w", "p", none, none, "run"⟩

theorem interrupted_calls_stick :
    ((Thread.journal (cancelWorkerTask 4 "t" .graceful "again")).run (machineAfter (cancelledAfter 9)).engine).2 =
        .error (.missingKey "event_path") ∧
      ((machineAfter (cancelledAfter 9)).engine.task "t").pending = none ∧
      (((machineAfter (cancelledAfter 9)).engine.task "t").descriptor.map Descriptor.status) = some (some .queued) ∧
      blocking promptFingerprint
        (machineAfter (dispatchedAfter 5 ++ [.die])).engine = .ok ["t"] ∧
      ((machineAfter (dispatchedAfter 5 ++ [.die])).engine.task "t").descriptor = some {} := by
  refine ⟨?_, ?_, ?_, ?_, ?_⟩ <;> decide

end OrchestratorEngine.Workers
