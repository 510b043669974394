import OrchestratorEngine.Foundation.Interleaving
import OrchestratorEngine.Workers.Publication

set_option autoImplicit false

namespace OrchestratorEngine.Workers

open Foundation
open Foundation.Journal

inductive Publication where
  | supervised (result : WorkerResult) (evidence : Evidence)
  | cancelled (reason : String)
  | released
  | lost
deriving DecidableEq, Repr

def Publication.perform (pid : Nat) (taskId : String) (descriptor : Descriptor) : Publication → Program
    (Option Finalized)
  | .supervised result evidence => do
      let finalized ← finalizeSupervised pid taskId descriptor result evidence
      return some finalized
  | .cancelled reason => do
      let finalized ← finalizeCancelled pid taskId descriptor reason
      return some finalized.1
  | .released => finalizeReleased pid taskId descriptor
  | .lost => do
      let finalized ← finalizeLost pid taskId descriptor
      return some finalized

-- A publication may be cut off after any number of its writes, and a writer
-- of the result may die in the middle of it.
inductive Episode where
  | publication (pid : Nat) (publication : Publication) (cut : Option Nat)
  | tear (raw : String)
  | wait (later : Int)
deriving DecidableEq, Repr

structure Publishing where
  engine : Engine
  published : Bool
deriving DecidableEq

def Finalized.isPublished : Finalized → Bool
  | .published _ _ _ => true
  | .lost _ => false

def publishes : Except Error (Option Finalized) → Bool
  | .ok (some finalized) => finalized.isPublished
  | _ => false

def episode (taskId : String) (descriptor : Descriptor) : Episode → Publishing → Option Publishing
  | .publication pid publication cut, state =>
      let ran := (Thread.journal (publication.perform pid taskId descriptor)).run state.engine
      match cut with
      | some writes => some ⟨(ran.1.take writes).getLastD state.engine, state.published⟩
      | none => some ⟨ran.1.getLastD state.engine, state.published || publishes ran.2⟩
  | .tear raw, state =>
      if (state.engine.task taskId).result = none then
        some ⟨state.engine.modify taskId fun files => { files with result := some (.torn raw) }, state.published⟩
      else none
  | .wait later, state =>
      if state.engine.clock ≤ later then some ⟨{ state.engine with clock := later }, state.published⟩ else none

def Faithful (taskId : String) (descriptor : Descriptor) : Episode → Publishing → Prop
  | .publication _ .lost _, state => ∀ result, loadTerminalResult (state.engine.task taskId) = some result →
      ¬ (descriptor.wakePolicy = some "on-failure" ∧ result.terminalStatus = .completed)
  | _, _ => True

structure Honest (taskId : String) (descriptor : Descriptor) (published : Bool) (files : TaskFiles) : Prop where
  event : ∀ event, files.event = some event → ∃ result evidence, files.result = some (.readable result) ∧
    files.evidence = some evidence ∧
    event = ⟨taskId, result.terminalStatus, .readable result, evidence, descriptor.wakeTarget, event.createdAt⟩
  signal : files.signal.isSome = true → files.event.isSome = true ∧ ∃ result, files.result = some (.readable result) ∧
    shouldEmitWorkerSignal descriptor.wakePolicy result.terminalStatus = .ok true
  published : published = true → files.event.isSome = true ∧ ∃ result, files.result = some (.readable result) ∧
    shouldEmitWorkerSignal descriptor.wakePolicy result.terminalStatus = .ok files.signal.isSome

section Finalizations

variable {taskId : String} {descriptor : Descriptor} {published : Bool}

theorem Honest.idle {files changed : TaskFiles} (honest : Honest taskId descriptor published files)
    (result : changed.result = files.result) (evidence : changed.evidence = files.evidence)
    (event : changed.event = files.event) (signal : changed.signal = files.signal) :
    Honest taskId descriptor published changed := by
  refine ⟨?_, ?_, ?_⟩
  · rw [event, result, evidence]
    exact honest.event
  · rw [signal, event, result]
    exact honest.signal
  · rw [event, result, signal]
    exact honest.published

def HonestIn (taskId : String) (descriptor : Descriptor) (published : Bool) (engine : Engine) : Prop :=
  Honest taskId descriptor published (engine.task taskId)

theorem Honest.weaken {more : Bool} {files : TaskFiles} (honest : Honest taskId descriptor (published || more) files) :
    Honest taskId descriptor published files :=
  ⟨honest.event, honest.signal, fun done => honest.published (by rw [done, Bool.true_or])⟩

theorem Honest.complete {files : TaskFiles} {result : WorkerResult} {evidence : Evidence} {event : TerminalEvent}
    (readable : files.result = some (.readable result)) (kept : files.evidence = some evidence)
    (present : files.event = some event)
    (content : event = ⟨taskId, result.terminalStatus, .readable result, evidence, descriptor.wakeTarget,
    event.createdAt⟩)
    (right : shouldEmitWorkerSignal descriptor.wakePolicy result.terminalStatus = .ok files.signal.isSome) :
    Honest taskId descriptor published files := by
  refine ⟨?_, ?_, ?_⟩
  · intro other found
    cases present.symm.trans found
    exact ⟨result, evidence, readable, kept, content⟩
  · intro signalled
    refine ⟨by rw [present]; rfl, result, readable, ?_⟩
    rw [signalled] at right
    exact right
  · exact fun _ => ⟨by rw [present]; rfl, result, readable, right⟩

variable (engine : Engine)

variable (result : WorkerResult)

variable (evidence : Evidence)

theorem signal_keeps (event : TerminalEvent)
    (signal : TerminalSignal) (emitSignal : Bool) (honest : HonestIn taskId descriptor published engine)
    (readable : (engine.task taskId).result = some (.readable result))
    (kept : (engine.task taskId).evidence = some evidence) (present : (engine.task taskId).event = some event)
    (content : event = ⟨taskId, result.terminalStatus, .readable result, evidence, descriptor.wakeTarget,
    event.createdAt⟩)
    (right : shouldEmitWorkerSignal descriptor.wakePolicy result.terminalStatus = .ok emitSignal) :
    Keeps (HonestIn taskId descriptor published) (fun _ => HonestIn taskId descriptor true)
      (Thread.journal (if emitSignal then writeTask taskId fun files => { files with signal := some signal }
        else return () : Program Unit)) engine := by
  cases emitSignal with
  | true =>
      rw [if_pos rfl, journal_write_task, keeps_write]
      constructor
      · rw [HonestIn, task_modify, if_pos rfl]
        exact Honest.complete readable kept present content right
      · rw [HonestIn, task_modify, if_pos rfl]
        exact Honest.complete readable kept present content right
  | false =>
      rw [if_neg (by simp), Thread.journal_pure, keeps_pure]
      refine Honest.complete readable kept present content ?_
      cases signalled : (engine.task taskId).signal.isSome with
      | false => exact right
      | true =>
          obtain ⟨_, other, otherReadable, should⟩ := honest.signal signalled
          cases readable.symm.trans otherReadable
          exact should

theorem retain_keeps (emitSignal : Bool) (now : Int)
    (honest : HonestIn taskId descriptor published engine)
    (readable : (engine.task taskId).result = some (.readable result))
    (kept : (engine.task taskId).evidence = some evidence)
    (right : shouldEmitWorkerSignal descriptor.wakePolicy result.terminalStatus = .ok emitSignal) :
    Keeps (HonestIn taskId descriptor published) (fun _ => HonestIn taskId descriptor true)
      (Thread.journal (retainEventAndSignal
        ⟨taskId, result.terminalStatus, .readable result, evidence, descriptor.wakeTarget, now⟩
        ⟨taskId, result.terminalStatus, descriptor.wakeTarget, now⟩ emitSignal)) engine := by
  rw [retainEventAndSignal, Thread.journal_bind, journal_ask_task, keeps_bind, keeps_ask]
  cases present : (engine.task taskId).event with
  | some existing =>
      obtain ⟨other, proof, otherReadable, otherKept, content⟩ := honest.event existing present
      cases readable.symm.trans otherReadable
      cases kept.symm.trans otherKept
      simp only [Thread.journal_bind, Thread.journal_require, keeps_bind, keeps_require]
      intro _
      exact signal_keeps engine result evidence existing _ emitSignal honest readable kept present content right
  | none =>
      have unsignalled : (engine.task taskId).signal.isSome = false := by
        cases signalled : (engine.task taskId).signal.isSome with
        | false => rfl
        | true =>
            have event := (honest.signal signalled).1
            rw [present] at event
            cases event
      have unpublished : published = false := by
        cases done : published with
        | false => rfl
        | true =>
            have event := (honest.published done).1
            rw [present] at event
            cases event
      simp only [Thread.journal_bind, journal_write_task, keeps_bind, keeps_write]
      let event : TerminalEvent :=
        ⟨taskId, result.terminalStatus, .readable result, evidence, descriptor.wakeTarget, now⟩
      have written : HonestIn taskId descriptor published
          (engine.modify taskId fun files => { files with event := some event }) := by
        rw [HonestIn, task_modify, if_pos rfl]
        refine ⟨?_, ?_, ?_⟩
        · intro other found
          cases found
          exact ⟨result, evidence, readable, kept, rfl⟩
        · intro signalled
          rw [show _ = false from unsignalled] at signalled
          cases signalled
        · intro done
          rw [unpublished] at done
          cases done
      refine ⟨written, signal_keeps _ result evidence event _ emitSignal written ?_ ?_ ?_ rfl right⟩
      · rw [task_modify, if_pos rfl]
        exact readable
      · rw [task_modify, if_pos rfl]
        exact kept
      · rw [task_modify, if_pos rfl]

theorem publish_keeps (outcome : Outcome) (result : WorkerResult) (evidence : Evidence)
    (quarantined : Option String) (emitSignal : Bool) (honest : HonestIn taskId descriptor published engine)
    (readable : (engine.task taskId).result = some (.readable result))
    (first : outcome ≠ .reconciled → (engine.task taskId).event = none)
    (right : shouldEmitWorkerSignal descriptor.wakePolicy result.terminalStatus = .ok emitSignal) :
    Keeps (HonestIn taskId descriptor published)
      (fun finalized state => finalized.isPublished = true ∧ HonestIn taskId descriptor true state)
      (Thread.journal (publishFinal taskId outcome result evidence quarantined descriptor.wakeTarget emitSignal))
      engine := by
  have finish (state : Engine) (kept : Evidence) (still : HonestIn taskId descriptor published state)
      (readable : (state.task taskId).result = some (.readable result))
      (present : (state.task taskId).evidence = some kept) :
      Keeps (HonestIn taskId descriptor published)
        (fun finalized later => finalized.isPublished = true ∧ HonestIn taskId descriptor true later)
        (Thread.journal (do
          writeTerminalEvent taskId result.terminalStatus descriptor.wakeTarget emitSignal
          return (.published outcome result emitSignal : Finalized))) state := by
    simp only [Thread.journal_bind, Thread.journal_pure, keeps_bind, keeps_pure, writeTerminalEvent, journal_ask_task,
      keeps_ask, readable, present, journal_utc_now]
    exact (retain_keeps state result kept emitSignal state.clock still readable present right).mono (fun _ done => done)
      fun _ _ done => ⟨rfl, done⟩
  rw [publishFinal, Thread.journal_bind, journal_ask_task, keeps_bind, keeps_ask]
  by_cases rewritten : (engine.task taskId).evidence.isSome = false ∨ outcome ≠ .reconciled
  · have noEvent : (engine.task taskId).event = none := by
      rcases rewritten with missing | own
      · cases present : (engine.task taskId).event with
        | none => rfl
        | some event =>
            obtain ⟨_, kept, _, found, _⟩ := honest.event event present
            rw [found] at missing
            cases missing
      · exact first own
    have unsignalled : (engine.task taskId).signal.isSome = false := by
      cases signalled : (engine.task taskId).signal.isSome with
      | false => rfl
      | true =>
          have event := (honest.signal signalled).1
          rw [noEvent] at event
          cases event
    rw [if_pos rewritten, Thread.journal_bind, journal_write_task, keeps_bind, keeps_write]
    let kept : Evidence := { evidence with
      finishedAt := result.finishedAt
      quarantined := quarantined.or evidence.quarantined }
    have written : HonestIn taskId descriptor published
        (engine.modify taskId fun files => { files with evidence := some kept }) := by
      rw [HonestIn, task_modify, if_pos rfl]
      refine ⟨?_, ?_, ?_⟩
      · intro event found
        cases noEvent.symm.trans found
      · intro signalled
        cases (show (engine.task taskId).signal.isSome = true from signalled).symm.trans unsignalled
      · intro done
        have event := (honest.published done).1
        rw [noEvent] at event
        cases event
    refine ⟨written, finish _ kept written ?_ ?_⟩
    · rw [task_modify, if_pos rfl]
      exact readable
    · rw [task_modify, if_pos rfl]
  · rw [not_or, not_not] at rewritten
    rw [if_neg (by rw [not_or, not_not]; exact rewritten)]
    cases present : (engine.task taskId).evidence with
    | none =>
        rw [present] at rewritten
        exact absurd rfl rewritten.1
    | some kept => exact finish engine kept honest readable present

def TaskFiles.finalResult (files : TaskFiles) (result : WorkerResult) : WorkerResult :=
  (loadTerminalResult files).getD result

theorem result_keeps (honest : HonestIn taskId descriptor published engine)
    (unread : loadTerminalResult (engine.task taskId) = none) :
    (engine.task taskId).event = none ∧ HonestIn taskId descriptor published
      (engine.modify taskId fun files => { files with result := some (.readable result) }) := by
  have noResult (other : WorkerResult) : (engine.task taskId).result ≠ some (.readable other) := by
    intro found
    rw [loadTerminalResult, found] at unread
    cases unread
  have noEvent : (engine.task taskId).event = none := by
    cases present : (engine.task taskId).event with
    | none => rfl
    | some event =>
        obtain ⟨other, _, readable, _⟩ := honest.event event present
        exact absurd readable (noResult other)
  refine ⟨noEvent, ?_⟩
  rw [HonestIn, task_modify, if_pos rfl]
  refine ⟨?_, ?_, ?_⟩
  · intro event found
    cases noEvent.symm.trans found
  · intro signalled
    have event := (honest.signal signalled).1
    rw [noEvent] at event
    cases event
  · intro done
    have event := (honest.published done).1
    rw [noEvent] at event
    cases event

theorem finalize_locked_keeps (emitSignal takeover : Bool)
    (honest : HonestIn taskId descriptor published engine)
    (right : takeover = true ∨ loadTerminalResult (engine.task taskId) = none →
      shouldEmitWorkerSignal descriptor.wakePolicy ((engine.task taskId).finalResult result).terminalStatus =
        .ok emitSignal) :
    Keeps (HonestIn taskId descriptor published)
      (fun finalized => HonestIn taskId descriptor (published || finalized.isPublished))
      (Thread.journal (finalizeLocked taskId result evidence descriptor.wakeTarget emitSignal takeover)) engine := by
  have finish (state : Engine) (outcome : Outcome) (final : WorkerResult) (quarantined : Option String)
      (still : HonestIn taskId descriptor published state)
      (readable : (state.task taskId).result = some (.readable final))
      (first : outcome ≠ .reconciled → (state.task taskId).event = none)
      (should : shouldEmitWorkerSignal descriptor.wakePolicy final.terminalStatus = .ok emitSignal) :
      Keeps (HonestIn taskId descriptor published)
        (fun finalized => HonestIn taskId descriptor (published || finalized.isPublished))
        (Thread.journal (publishFinal taskId outcome final evidence quarantined descriptor.wakeTarget emitSignal))
        state := by
    refine (publish_keeps state outcome final evidence quarantined emitSignal still readable first should).mono
      (fun _ done => done) ?_
    rintro finalized later ⟨done, complete⟩
    rw [done, Bool.or_true]
    exact complete
  rw [finalizeLocked, Thread.journal_bind, journal_ask_task, keeps_bind, keeps_ask]
  have unchanged : (published || false) = published := Bool.or_false published
  cases found : (engine.task taskId).result with
  | none =>
      have unread : loadTerminalResult (engine.task taskId) = none := by rw [loadTerminalResult, found]
      have should := right (.inr unread)
      rw [TaskFiles.finalResult, unread] at should
      obtain ⟨noEvent, written⟩ := result_keeps engine result honest unread
      simp only [putResult, Thread.journal_bind, journal_write_task, keeps_bind, keeps_write]
      refine ⟨written, finish _ _ _ _ written ?_ (fun _ => ?_) should⟩
      · rw [task_modify, if_pos rfl]
      · rw [task_modify, if_pos rfl]
        exact noEvent
  | some file =>
      cases file with
      | readable existing =>
          have read : loadTerminalResult (engine.task taskId) = some existing := by rw [loadTerminalResult, found]
          cases takeover with
          | false =>
              simp only [if_true, Thread.journal_pure, keeps_pure, Finalized.isPublished, unchanged]
              exact honest
          | true =>
              have should := right (.inl rfl)
              rw [TaskFiles.finalResult, read] at should
              simp only [Bool.true_eq_false, if_false]
              exact finish engine _ _ _ honest found (fun other => absurd rfl other) should
      | torn raw =>
          have unread : loadTerminalResult (engine.task taskId) = none := by rw [loadTerminalResult, found]
          have should := right (.inr unread)
          rw [TaskFiles.finalResult, unread] at should
          cases takeover with
          | false =>
              simp only [if_true, Thread.journal_pure, keeps_pure, Finalized.isPublished, unchanged]
              exact honest
          | true =>
              simp only [Bool.true_eq_false, if_false, putResult, Thread.journal_bind, journal_write_task, keeps_bind,
                keeps_write]
              have quarantined : HonestIn taskId descriptor published (engine.modify taskId fun files =>
                  { files with quarantine := raw :: files.quarantine.filter (· ≠ raw) }) := by
                rw [HonestIn, task_modify, if_pos rfl]
                exact honest.idle rfl rfl rfl rfl
              have still : loadTerminalResult ((engine.modify taskId fun files =>
                  { files with quarantine := raw :: files.quarantine.filter (· ≠ raw) }).task taskId) = none := by
                rw [task_modify, if_pos rfl]
                exact unread
              obtain ⟨noEvent, written⟩ := result_keeps _ result quarantined still
              refine ⟨quarantined, written, finish _ _ _ _ written ?_ (fun _ => ?_) should⟩
              · rw [task_modify, if_pos rfl]
              · rw [task_modify, if_pos rfl]
                exact noEvent

theorem lock_honest (holder : Option Nat) (honest : HonestIn taskId descriptor published engine) :
    HonestIn taskId descriptor published (engine.modify taskId fun files => { files with publisher := holder }) := by
  rw [HonestIn, task_modify, if_pos rfl]
  exact honest.idle rfl rfl rfl rfl

variable (pid : Nat)

theorem finalize_keeps (result : WorkerResult) (evidence : Evidence)
    (emitSignal takeover : Bool) (honest : HonestIn taskId descriptor published engine)
    (right : takeover = true ∨ loadTerminalResult (engine.task taskId) = none →
      shouldEmitWorkerSignal descriptor.wakePolicy ((engine.task taskId).finalResult result).terminalStatus =
        .ok emitSignal) :
    Keeps (HonestIn taskId descriptor published)
      (fun finalized => HonestIn taskId descriptor (published || finalized.isPublished))
      (Thread.journal (finalizeTerminalTask pid taskId result evidence descriptor.wakeTarget emitSignal takeover))
      engine := by
  have locked := lock_honest engine (some pid) honest
  simp only [finalizeTerminalTask, acquirePublication, Thread.journal_bind, Thread.journal_await,
    Thread.journal_attempt,
    keeps_bind, keeps_write, keeps_attempt]
  have inner := finalize_locked_keeps (engine.modify taskId fun files => { files with publisher := some pid }) result
    evidence emitSignal takeover locked (by
      rw [task_modify, if_pos rfl]
      exact right)
  refine ⟨locked, inner.1, ?_⟩
  cases ended : ((Thread.journal (finalizeLocked taskId result evidence descriptor.wakeTarget emitSignal takeover)).run
      (engine.modify taskId fun files => { files with publisher := some pid })).2 with
  | ok finalized =>
      have released := lock_honest _ none (inner.2 finalized ended)
      simp only [releasePublication, Thread.journal_bind, journal_write_task, Thread.journal_pure,
        keeps_bind, keeps_write,
        keeps_pure]
      exact ⟨released.weaken, released⟩
  | error error =>
      simp only [releasePublication, Thread.journal_bind, journal_write_task, Thread.journal_fail,
        keeps_bind, keeps_write,
        keeps_raise, and_true]
      refine lock_honest _ none ?_
      rcases List.mem_cons.mp (final_mem_states _ _) with same | visited
      · rw [same]
        exact locked
      · exact inner.1 _ visited

theorem supervised_keeps (result : WorkerResult) (evidence : Evidence)
    (honest : HonestIn taskId descriptor published engine) :
    Keeps (HonestIn taskId descriptor published)
      (fun finalized => HonestIn taskId descriptor (published || finalized.isPublished))
      (Thread.journal (finalizeSupervised pid taskId descriptor result evidence)) engine := by
  simp only [finalizeSupervised, Thread.journal_bind, Thread.journal_lift, keeps_bind, keeps_lift]
  intro emitSignal should
  refine finalize_keeps engine pid result evidence emitSignal false honest ?_
  rintro (wrong | unread)
  · cases wrong
  · rw [TaskFiles.finalResult, unread]
    exact should

theorem cancelled_keeps (reason : String)
    (honest : HonestIn taskId descriptor published engine) :
    Keeps (HonestIn taskId descriptor published)
      (fun finalized => HonestIn taskId descriptor (published || finalized.1.isPublished))
      (Thread.journal (finalizeCancelled pid taskId descriptor reason)) engine := by
  simp only [finalizeCancelled, journal_utc_now, Thread.journal_bind, Thread.journal_lift,
    Thread.journal_pure, keeps_bind,
    keeps_lift, keeps_ask, keeps_pure]
  intro emitSignal should
  refine finalize_keeps engine pid _ _ emitSignal false honest ?_
  rintro (wrong | unread)
  · cases wrong
  · rw [TaskFiles.finalResult, unread]
    exact should

theorem released_keeps (honest : HonestIn taskId descriptor published engine) :
    Keeps (HonestIn taskId descriptor published)
      (fun finalized => HonestIn taskId descriptor (published || publishes (.ok finalized)))
      (Thread.journal (finalizeReleased pid taskId descriptor)) engine := by
  have unchanged : (published || false) = published := Bool.or_false published
  simp only [finalizeReleased, Thread.journal_bind, journal_ask_task, keeps_bind, keeps_ask]
  cases read : loadTerminalResult (engine.task taskId) with
  | none =>
      simp only [Thread.journal_pure, keeps_pure, publishes, unchanged]
      exact honest
  | some result =>
      cases present : (engine.task taskId).evidence with
      | none =>
          simp only [Thread.journal_pure, keeps_pure, publishes, unchanged]
          exact honest
      | some evidence =>
          simp only [Thread.journal_bind, journal_ask_task, keeps_bind, keeps_ask, present,
            Thread.journal_lift, keeps_lift,
            Thread.journal_pure, keeps_pure]
          intro emitSignal should
          refine finalize_keeps engine pid result evidence emitSignal true honest fun _ => ?_
          rw [TaskFiles.finalResult, read]
          exact should

theorem lost_keeps (honest : HonestIn taskId descriptor published engine)
    (faithful : ∀ result, loadTerminalResult (engine.task taskId) = some result →
      ¬ (descriptor.wakePolicy = some "on-failure" ∧ result.terminalStatus = .completed)) :
    Keeps (HonestIn taskId descriptor published)
      (fun finalized => HonestIn taskId descriptor (published || finalized.isPublished))
      (Thread.journal (finalizeLost pid taskId descriptor)) engine := by
  simp only [finalizeLost, journal_utc_now, Thread.journal_bind, Thread.journal_lift, keeps_bind, keeps_lift, keeps_ask]
  intro emitSignal should
  refine finalize_keeps engine pid _ _ emitSignal true honest fun _ => ?_
  cases read : loadTerminalResult (engine.task taskId) with
  | none =>
      rw [TaskFiles.finalResult, read]
      exact should
  | some result =>
      rw [TaskFiles.finalResult, read, ← should]
      have right := faithful result read
      simp only [shouldEmitWorkerSignal, supervisorLost, Option.getD_some]
      cases policy : descriptor.wakePolicy with
      | none => rfl
      | some text =>
          rw [policy] at right
          by_cases failing : text = "on-failure"
          · have other : result.terminalStatus ≠ .completed := fun complete => right ⟨by rw [failing], complete⟩
            simp [failing, other]
          · simp [failing]

end Finalizations

def Unpublished (files : TaskFiles) : Prop :=
  loadTerminalResult files = none ∧ files.event = none ∧ files.signal = none

instance (files : TaskFiles) : Decidable (Unpublished files) := inferInstanceAs (Decidable (_ ∧ _ ∧ _))

theorem perform_keeps (taskId : String) (descriptor : Descriptor) (pid : Nat) (publication : Publication)
    (state : Publishing)
    (cut : Option Nat) (honest : HonestIn taskId descriptor state.published state.engine)
    (faithful : Faithful taskId descriptor (.publication pid publication cut) state) :
    Keeps (HonestIn taskId descriptor state.published)
      (fun finalized => HonestIn taskId descriptor (state.published || publishes (.ok finalized)))
      (Thread.journal (publication.perform pid taskId descriptor)) state.engine := by
  cases publication with
  | supervised result evidence =>
      simp only [Publication.perform, Thread.journal_bind, Thread.journal_pure, keeps_bind, keeps_pure]
      exact supervised_keeps state.engine pid result evidence honest
  | cancelled reason =>
      simp only [Publication.perform, Thread.journal_bind, Thread.journal_pure, keeps_bind, keeps_pure]
      exact cancelled_keeps state.engine pid reason honest
  | released => exact released_keeps state.engine pid honest
  | lost =>
      simp only [Publication.perform, Thread.journal_bind, Thread.journal_pure, keeps_bind, keeps_pure]
      exact lost_keeps state.engine pid honest faithful

theorem episode_honest (taskId : String) (descriptor : Descriptor) (step : Episode) (state next : Publishing)
    (honest : HonestIn taskId descriptor state.published state.engine)
    (faithful : Faithful taskId descriptor step state)
    (taken : episode taskId descriptor step state = some next) :
    HonestIn taskId descriptor next.published next.engine := by
  cases step with
  | publication pid publication cut =>
      have keeps := perform_keeps taskId descriptor pid publication state cut honest faithful
      cases cut with
      | some writes =>
          cases taken
          rcases List.mem_cons.mp (List.getLastD_mem_cons (l := ((Thread.journal (publication.perform pid taskId
            descriptor)).run state.engine).1.take writes) (a := state.engine)) with same | visited
          · rw [HonestIn, same]
            exact honest
          · exact keeps.1 _ (List.mem_of_mem_take visited)
      | none =>
          cases taken
          cases ended : ((Thread.journal (publication.perform pid taskId descriptor)).run state.engine).2 with
          | ok finalized => exact keeps.2 finalized ended
          | error error =>
              have silent : publishes (.error error) = false := rfl
              rw [silent, Bool.or_false]
              rcases List.mem_cons.mp (final_mem_states (Thread.journal (publication.perform pid taskId descriptor))
                state.engine) with same | visited
              · rw [HonestIn, show List.getLastD _ _ = _ from same]
                exact honest
              · exact keeps.1 _ visited
  | tear raw =>
      simp only [episode] at taken
      split at taken
      case isTrue absent =>
        cases taken
        have noEvent : (state.engine.task taskId).event = none := by
          cases present : (state.engine.task taskId).event with
          | none => rfl
          | some event =>
              obtain ⟨_, _, readable, _⟩ := honest.event event present
              cases absent.symm.trans readable
        rw [HonestIn, task_modify, if_pos rfl]
        refine ⟨?_, ?_, ?_⟩
        · intro event found
          cases noEvent.symm.trans found
        · intro signalled
          have event := (honest.signal signalled).1
          rw [noEvent] at event
          cases event
        · intro done
          have event := (honest.published done).1
          rw [noEvent] at event
          cases event
      case isFalse _ => cases taken
  | wait later =>
      simp only [episode] at taken
      split at taken
      case isTrue _ =>
        cases taken
        exact honest
      case isFalse _ => cases taken

theorem wake_policy_honoured (taskId : String) (descriptor : Descriptor) (schedule : List Episode) (start : Engine)
    (final : Publishing) (fresh : Unpublished (start.task taskId))
    (met : Meets (episode taskId descriptor) (Faithful taskId descriptor) schedule ⟨start, false⟩)
    (reached : follow (episode taskId descriptor) schedule ⟨start, false⟩ = some final) :
    (final.published = true → ∃ result, loadTerminalResult (final.engine.task taskId) = some result ∧
      shouldEmitWorkerSignal descriptor.wakePolicy result.terminalStatus =
        .ok (final.engine.task taskId).signal.isSome) ∧
    ((final.engine.task taskId).signal.isSome = true → ∃ result,
      loadTerminalResult (final.engine.task taskId) = some result ∧
      shouldEmitWorkerSignal descriptor.wakePolicy result.terminalStatus = .ok true) := by
  have initial : HonestIn taskId descriptor false start := by
    refine ⟨?_, ?_, fun wrong => (by cases wrong)⟩
    · intro event found
      cases fresh.2.1.symm.trans found
    · intro signalled
      rw [fresh.2.2] at signalled
      cases signalled
  have honest := follow_invariant (fun state => HonestIn taskId descriptor state.published state.engine)
    (fun label state next kept fine taken => episode_honest taskId descriptor label state next kept fine taken)
    schedule ⟨start, false⟩ final initial met reached
  constructor
  · intro done
    obtain ⟨_, result, readable, right⟩ := honest.published done
    exact ⟨result, by rw [loadTerminalResult, readable], right⟩
  · intro signalled
    obtain ⟨_, result, readable, right⟩ := honest.signal signalled
    exact ⟨result, by rw [loadTerminalResult, readable], right⟩

instance (taskId : String) (descriptor : Descriptor) (step : Episode) (state : Publishing) :
    Decidable (Faithful taskId descriptor step state) := by
  cases step with
  | publication pid publication cut =>
      cases publication with
      | lost =>
          rw [Faithful]
          cases loadTerminalResult (state.engine.task taskId) with
          | none => exact isTrue fun _ found => (by cases found)
          | some result =>
              exact decidable_of_iff
                (¬ (descriptor.wakePolicy = some "on-failure" ∧ result.terminalStatus = .completed))
                ⟨fun right _ found => Option.some.inj found ▸ right, fun every => every result rfl⟩
      | supervised result evidence => exact isTrue trivial
      | cancelled reason => exact isTrue trivial
      | released => exact isTrue trivial
  | tear raw => exact isTrue trivial
  | wait later => exact isTrue trivial

def onFailure : Descriptor := { worker := some "w", wakePolicy := some "on-failure" }

def completedRun : Publication := .supervised ⟨"w", .completed, some 0, none, none, 7⟩
    ⟨"w", 7, "on-failure", none, none⟩

def reconciledRun : List Episode := [.publication 1 completedRun (some 3), .publication 2 .released none]

def reconciled : Publishing :=
  (follow (episode "t" onFailure) reconciledRun ⟨{ clock := 0 }, false⟩).getD ⟨{ clock := 0 }, false⟩

theorem interrupted_completion_honoured : ∃ result, loadTerminalResult (reconciled.engine.task "t") = some result ∧
    shouldEmitWorkerSignal onFailure.wakePolicy result.terminalStatus =
      .ok (reconciled.engine.task "t").signal.isSome :=
  (wake_policy_honoured "t" onFailure reconciledRun { clock := 0 } reconciled (by decide) (by decide) (by decide)).1
    (by decide)

theorem lost_takeover_wakes :
    (follow (episode "t" onFailure) [.publication 1 completedRun (some 2), .publication 2 .lost none]
      ⟨{ clock := 0 }, false⟩).map (fun final => (final.published, (final.engine.task "t").signal.isSome,
        (loadTerminalResult (final.engine.task "t")).map WorkerResult.terminalStatus)) =
        some (true, true, some .completed) ∧
      shouldEmitWorkerSignal onFailure.wakePolicy .completed = .ok false :=
  ⟨by decide, by decide⟩

end OrchestratorEngine.Workers
