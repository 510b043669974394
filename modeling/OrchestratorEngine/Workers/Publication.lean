import OrchestratorEngine.Workers.Records

set_option autoImplicit false

namespace OrchestratorEngine.Workers

open Foundation

def loadTerminalResult (files : TaskFiles) : Option WorkerResult :=
  match files.result with
  | some (.readable result) => some result
  | _ => none

def shouldEmitWorkerSignal (wakePolicy : Option String) (terminalStatus : TerminalStatus) : Except Error Bool :=
  let policy := wakePolicy.getD "always"
  if policy ∉ ["always", "never", "on-failure"] then
    .error (.worker "wake policy must be one of: always, never, on-failure")
  else .ok (decide (policy = "always" ∨ policy = "on-failure" ∧ terminalStatus ≠ .completed))

def TerminalEvent.immutable (event : TerminalEvent) :
    String × TerminalStatus × ResultFile × Evidence × Option String :=
  (event.taskId, event.terminalStatus, event.result, event.evidence, event.wakeTarget)

def retainEventAndSignal (event : TerminalEvent) (signal : TerminalSignal) (emitSignal : Bool) : Program Unit := do
  match ← askTask event.taskId TaskFiles.event with
  | some existing => do
      Thread.require (existing.immutable ≠ event.immutable)
        (.core ("terminal event " ++ event.taskId ++ " conflicts with retained outcome"))
      if emitSignal then
        writeTask event.taskId fun files =>
          { files with signal := some { signal with createdAt := existing.createdAt } }
      else return ()
  | none => do
      writeTask event.taskId fun files => { files with event := some event }
      if emitSignal then writeTask event.taskId fun files => { files with signal := some signal }
      else return ()

def writeTerminalEvent (taskId : String) (terminalStatus : TerminalStatus) (wakeTarget : Option String)
    (emitSignal : Bool) : Program Unit := do
  match ← askTask taskId fun files => (files.result, files.evidence) with
  | (none, _) => Thread.fail (.core "result is not a file")
  | (_, none) => Thread.fail (.core "evidence is not a file")
  | (some result, some evidence) => do
      let now ← utcNow
      retainEventAndSignal ⟨taskId, terminalStatus, result, evidence, wakeTarget, now⟩
        ⟨taskId, terminalStatus, wakeTarget, now⟩ emitSignal

inductive Outcome where
  | claimed | reconciled | recoveredPartial
deriving DecidableEq, Repr

inductive Finalized where
  | lost (result : Option WorkerResult)
  | published (outcome : Outcome) (result : WorkerResult) (signalEmitted : Bool)
deriving DecidableEq, Repr

def putResult (taskId : String) (result : WorkerResult) : Program Unit :=
  writeTask taskId fun files => { files with result := some (.readable result) }

def publishFinal (taskId : String) (outcome : Outcome) (final : WorkerResult) (evidence : Evidence)
    (quarantined wakeTarget : Option String) (emitSignal : Bool) : Program Finalized := do
  let present ← askTask taskId fun files => files.evidence.isSome
  if present = false ∨ outcome ≠ .reconciled then
    writeTask taskId fun files =>
      { files with evidence := some { evidence with
          finishedAt := final.finishedAt
          quarantined := quarantined.or evidence.quarantined } }
  else pure ()
  writeTerminalEvent taskId final.terminalStatus wakeTarget emitSignal
  return .published outcome final emitSignal

def finalizeLocked (taskId : String) (result : WorkerResult) (evidence : Evidence) (wakeTarget : Option String)
    (emitSignal takeover : Bool) : Program Finalized := do
  match ← askTask taskId TaskFiles.result with
  | some (.readable existing) =>
      if takeover = false then return .lost (some existing)
      else publishFinal taskId .reconciled existing evidence none wakeTarget emitSignal
  | some (.torn raw) =>
      if takeover = false then return .lost none
      else do
        writeTask taskId fun files => { files with quarantine := raw :: files.quarantine.filter (· ≠ raw) }
        putResult taskId result
        publishFinal taskId .recoveredPartial result evidence (some raw) wakeTarget emitSignal
  | none => do
      putResult taskId result
      publishFinal taskId .claimed result evidence none wakeTarget emitSignal

def acquirePublication (pid : Nat) (taskId : String) : Program Unit :=
  Thread.await (fun engine => (engine.task taskId).publisher.isNone)
    fun engine => engine.modify taskId fun files => { files with publisher := some pid }

def releasePublication (taskId : String) : Program Unit :=
  writeTask taskId fun files => { files with publisher := none }

def finalizeTerminalTask (pid : Nat) (taskId : String) (result : WorkerResult) (evidence : Evidence)
    (wakeTarget : Option String) (emitSignal takeover : Bool) : Program Finalized := do
  acquirePublication pid taskId
  match ← Thread.attempt (finalizeLocked taskId result evidence wakeTarget emitSignal takeover) with
  | .ok finalized => do
      releasePublication taskId
      return finalized
  | .error error => do
      releasePublication taskId
      Thread.fail error

def finalizeSupervised (pid : Nat) (taskId : String) (descriptor : Descriptor) (result : WorkerResult)
    (evidence : Evidence) : Program Finalized := do
  let emitSignal ← Thread.lift (shouldEmitWorkerSignal descriptor.wakePolicy result.terminalStatus)
  finalizeTerminalTask pid taskId result evidence descriptor.wakeTarget emitSignal false

def Descriptor.workerName (descriptor : Descriptor) : String := descriptor.worker.getD "unknown"

def queuedCancellationArtifacts (descriptor : Descriptor) (reason : String) (now : Int) : WorkerResult × Evidence :=
  (⟨descriptor.workerName, .cancelled, none, some reason, descriptor.createdAt, now⟩,
    { worker := descriptor.workerName, finishedAt := now, wakePolicy := descriptor.wakePolicy.getD "always" })

def finalizeCancelled (pid : Nat) (taskId : String) (descriptor : Descriptor) (reason : String) :
    Program (Finalized × Int) := do
  let now ← utcNow
  let artifacts := queuedCancellationArtifacts descriptor reason now
  let emitSignal ← Thread.lift (shouldEmitWorkerSignal descriptor.wakePolicy .cancelled)
  let finalized ← finalizeTerminalTask pid taskId artifacts.1 artifacts.2 descriptor.wakeTarget emitSignal false
  return (finalized, now)

def finalizeReleased (pid : Nat) (taskId : String) (descriptor : Descriptor) : Program (Option Finalized) := do
  match ← askTask taskId fun files => (loadTerminalResult files, files.evidence) with
  | (some result, some _) => do
      match ← askTask taskId TaskFiles.evidence with
      | none => Thread.fail (.core "file not found: evidence.json")
      | some evidence => do
          let emitSignal ← Thread.lift (shouldEmitWorkerSignal descriptor.wakePolicy result.terminalStatus)
          let finalized ← finalizeTerminalTask pid taskId result evidence descriptor.wakeTarget emitSignal true
          return some finalized
  | _ => return none

def supervisorLost (descriptor : Descriptor) (finishedAt : Int) : WorkerResult × Evidence :=
  (⟨descriptor.workerName, .failed, none, some "supervisor_lost", descriptor.createdAt, finishedAt⟩,
    { worker := descriptor.workerName, finishedAt, wakePolicy := descriptor.wakePolicy.getD "always"
      recovery := some "supervisor_lost" })

def finalizeLost (pid : Nat) (taskId : String) (descriptor : Descriptor) : Program Finalized := do
  let finishedAt ← utcNow
  let artifacts := supervisorLost descriptor finishedAt
  let emitSignal ← Thread.lift (shouldEmitWorkerSignal descriptor.wakePolicy artifacts.1.terminalStatus)
  finalizeTerminalTask pid taskId artifacts.1 artifacts.2 descriptor.wakeTarget emitSignal true

end OrchestratorEngine.Workers
