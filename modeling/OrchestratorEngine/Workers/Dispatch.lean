import OrchestratorEngine.Continuity.Queries
import OrchestratorEngine.Workers.Reaping

set_option autoImplicit false

namespace OrchestratorEngine.Workers

open Foundation

def acquireAdmission (pid : Nat) : Program Unit :=
  Thread.await (fun engine => engine.admission.isNone) fun engine => { engine with admission := some pid }

def releaseAdmission : Program Unit := Thread.write fun engine => { engine with admission := none }

def withAdmissionLock {α : Type} (pid : Nat) (body : Program α) : Program α := do
  acquireAdmission pid
  match ← Thread.attempt body with
  | .ok value => do
      releaseAdmission
      return value
  | .error error => do
      releaseAdmission
      Thread.fail error

def activeWorkers : List String → Program (List String)
  | [] => return []
  | taskId :: rest => do
      let descriptor ← askTask taskId TaskFiles.descriptor
      let others ← activeWorkers rest
      match descriptor with
      | some known =>
          match known.worker with
          | some worker => return if known.status.any Status.active then worker :: others else others
          | none => return others
      | none => return others

def canAdmitWorker (site : Site) (worker : String) (config : WorkerConfig) : Program Bool := do
  let listed ← taskIds
  let active ← activeWorkers listed
  return !(site.maxConcurrent.any (fun limit => decide (limit ≤ active.length)) ||
    config.maxConcurrent.any fun limit => decide (limit ≤ active.count worker))

def spawnSupervisor (taskId worker : String) (spawns : Except String Unit) : Program Nat :=
  match spawns with
  | .error message => Thread.fail (.os message)
  | .ok () => Thread.exchange (fun engine => engine.processes.length) fun engine =>
      { engine with
        processes := engine.processes ++ [some ⟨taskId, worker, engine.clock⟩]
        live := engine.live ++ [engine.processes.length] }

def claimKeys (fingerprint : Fingerprint) (engine : Engine) : List (Fingerprint × String) :=
  engine.claims.keys.filter fun key => decide (key.1 = fingerprint)

def activeClaims : List (Fingerprint × String) → Program (List String)
  | [] => return []
  | key :: rest => do
      match ← Thread.ask fun engine => engine.claims.get? key with
      | none => activeClaims rest
      | some claim => do
          match ← askTask claim.taskId TaskFiles.descriptor with
          | none => activeClaims rest
          | some descriptor =>
              if descriptor.status.any Status.isTerminal then do
                releaseDispatchClaim claim.taskId descriptor
                activeClaims rest
              else do
                let others ← activeClaims rest
                return claim.taskId :: others

-- claim_json creates the file or finds that it exists.
def claimFile (key : Fingerprint × String) (claim : Claim) : Program Bool :=
  Thread.exchange (fun engine => (engine.claims.get? key).isNone) fun engine =>
    match engine.claims.get? key with
    | none => { engine with claims := engine.claims.set key claim }
    | some _ => engine

def Descriptor.dispatchFingerprint (descriptor : Descriptor) (config : WorkerConfig) (intentSha256 : Option String) :
    Fingerprint :=
  ⟨descriptor.worker.getD "", descriptor.promptSha256.getD "", descriptor.workerPolicy, intentSha256, config.command⟩

def claimDispatchFingerprint (taskId : String) (descriptor : Descriptor) (config : WorkerConfig)
    (intentSha256 : Option String) (allowDuplicate : Bool) (duplicateReason : Option String) : Program Descriptor := do
  let fingerprint := descriptor.dispatchFingerprint config intentSha256
  let keys ← Thread.ask (claimKeys fingerprint)
  let active ← activeClaims keys
  Thread.require (active ≠ [] ∧ allowDuplicate = false)
    (.worker ("exact duplicate of active task " ++ active.headD "" ++
      "; use --allow-duplicate with --duplicate-reason to override"))
  Thread.require (active ≠ [] ∧ (duplicateReason.any fun reason => Continuity.strip reason ≠ "") = false)
    (.worker "--allow-duplicate requires --duplicate-reason")
  let created ← claimFile (fingerprint, taskId) ⟨taskId, descriptor.worker.getD ""⟩
  Thread.require (created = false) (.worker ("dispatch claim already exists for task " ++ taskId))
  return { descriptor with
    fingerprint := some fingerprint
    dispatchClaim := some (fingerprint, taskId)
    duplicateOverride := if active = [] then none else some ⟨Continuity.strip (duplicateReason.getD ""), active⟩ }

def enqueueTask (taskId : String) (descriptor : Descriptor) : Program Unit := do
  let now ← utcNow
  putDescriptor taskId { descriptor with status := some .queued, queuedAt := some now }
  writeTask taskId fun files => { files with pending := some ⟨taskId, descriptor.worker.getD "", now, none⟩ }

inductive DeliveryCheck where
  | ready | deferred | blocked
deriving DecidableEq, Repr

structure TickDraws where
  observed : Observations
  delivery : String → DeliveryCheck
  spawns : String → Except String Unit

def configForDescriptor (site : Site) (descriptor : Descriptor) (worker : String) : Option WorkerConfig :=
  match descriptor.executionSnapshot with
  | some snapshot => if snapshot.worker = worker then some snapshot.config else none
  | none => site.workers worker

def claimEntry (taskId : String) : Program (Option QueueEntry) :=
  Thread.exchange (fun engine => (engine.task taskId).pending) fun engine =>
    match (engine.task taskId).pending with
    | none => engine
    | some entry => engine.modify taskId fun files => { files with pending := none, admitted := some entry }

def returnEntry (taskId : String) (entry : QueueEntry) : Program Unit :=
  writeTask taskId fun files => { files with admitted := none, pending := some entry }

def admitEntry (entry : QueueEntry) (descriptor : Descriptor) (spawns : Except String Unit) : Program Unit := do
  match ← claimEntry entry.taskId with
  | none => return ()
  | some claimed => do
      let now ← utcNow
      let starting := { descriptor with status := some .starting, admittedAt := some now }
      putDescriptor entry.taskId starting
      match ← Thread.attempt (spawnSupervisor entry.taskId entry.worker spawns) with
      | .ok pid => writeTask entry.taskId fun files => { files with admitted := some { entry with supervisorPid := some pid } }
      | .error (.os message) => do
          putDescriptor entry.taskId
            { starting with status := some .queued, queueLastError := some message, admittedAt := none }
          returnEntry entry.taskId claimed
      | .error error => Thread.fail error

def tickEntry (site : Site) (draws : TickDraws) (entry : QueueEntry) : Program Unit := do
  match ← askTask entry.taskId TaskFiles.descriptor with
  | none => return ()
  | some descriptor =>
      match configForDescriptor site descriptor entry.worker with
      | none => return ()
      | some config =>
          if descriptor.status ≠ some .queued then
            writeTask entry.taskId fun files => { files with pending := none }
          else do
            let now ← utcNow
            if descriptor.lineage.any (fun lineage => decide (now < lineage.notBefore)) then return ()
            else do
              let room ← canAdmitWorker site entry.worker config
              if room = false ∨ draws.delivery entry.taskId ≠ .ready then return ()
              else admitEntry entry descriptor (draws.spawns entry.taskId)

def entryBefore (first second : QueueEntry) : Prop :=
  first.queuedAt < second.queuedAt ∨ first.queuedAt = second.queuedAt ∧ first.taskId ≤ second.taskId

instance : DecidableRel entryBefore := fun _ _ => inferInstanceAs (Decidable (_ ∨ _))

def pendingEntries (engine : Engine) : List QueueEntry :=
  (engine.tasks.items.filterMap fun item => item.2.pending).insertionSort entryBefore

def queueTick (pid : Nat) (site : Site) (draws : TickDraws) : Program Unit := do
  suppressing (reapWorkerTasks pid draws.observed)
  withAdmissionLock pid do
    let entries ← Thread.ask pendingEntries
    Thread.each (tickEntry site draws) entries

structure Dispatch where
  taskId : String
  worker : String
  promptSha256 : String
  workerPolicy : Option String := none
  intentSha256 : Option String := none
  wakePolicy : String := "always"
  wakeTarget : Option String := none
  allowDuplicate : Bool := false
  duplicateReason : Option String := none
  lineage : Option RetryLineage := none
  -- The outcome of the checks before the task directory is claimed.
  checks : Except Error Unit := .ok ()
  -- The outcome of the prompt snapshot.
  snapshot : Except String Unit := .ok ()
  spawns : Except String Unit := .ok ()

def validTaskId (taskId : String) : Bool :=
  decide (taskId ≠ "" ∧ '/' ∉ taskId.toList ∧ '\\' ∉ taskId.toList ∧ taskId.toList.head? ≠ some '.')

def unlinkDescriptor (taskId : String) : Program Unit := writeTask taskId fun files => { files with descriptor := none }

-- The exclusive create of task.json.
def claimTask (taskId : String) : Program Bool :=
  Thread.exchange (fun engine => (engine.task taskId).descriptor.isNone) fun engine =>
    match (engine.task taskId).descriptor with
    | none => engine.modify taskId fun files => { files with descriptor := some {} }
    | some _ => engine

def Dispatch.descriptor (dispatch : Dispatch) (config : WorkerConfig) (now : Int) : Descriptor where
  taskId := some dispatch.taskId
  worker := some dispatch.worker
  status := some .queued
  createdAt := some now
  promptSha256 := some dispatch.promptSha256
  workerPolicy := dispatch.workerPolicy
  wakePolicy := some dispatch.wakePolicy
  wakeTarget := dispatch.wakeTarget
  executionSnapshot := some ⟨dispatch.worker, config⟩
  leaseRequired := true
  lineage := dispatch.lineage

def admitClaimed (site : Site) (dispatch : Dispatch) (config : WorkerConfig) (descriptor : Descriptor) : Program Unit := do
  let now ← utcNow
  if descriptor.lineage.any (fun lineage => decide (now < lineage.notBefore)) then enqueueTask dispatch.taskId descriptor
  else do
    let room ← canAdmitWorker site dispatch.worker config
    if room = false then enqueueTask dispatch.taskId descriptor
    else do
      putDescriptor dispatch.taskId { descriptor with status := some .starting }
      let _ ← spawnSupervisor dispatch.taskId dispatch.worker dispatch.spawns
      return ()

def admitDispatch (site : Site) (dispatch : Dispatch) (config : WorkerConfig) (unclaimed : Descriptor) :
    Program Unit := do
  let descriptor ← claimDispatchFingerprint dispatch.taskId unclaimed config dispatch.intentSha256
    dispatch.allowDuplicate
    dispatch.duplicateReason
  putDescriptor dispatch.taskId descriptor
  admitClaimed site dispatch config descriptor

def runWorker (pid : Nat) (site : Site) (dispatch : Dispatch) : Program Unit := do
  Thread.require (dispatch.wakePolicy ∉ ["always", "never", "on-failure"])
    (.worker "wake policy must be one of: always, never, on-failure")
  Thread.require (dispatch.wakeTarget.isSome = true ∧ dispatch.wakePolicy = "never")
    (.worker "an explicit wake target requires a wake-enabled policy")
  Thread.require (validTaskId dispatch.taskId = false) (.worker ("invalid task id: " ++ dispatch.taskId))
  match site.workers dispatch.worker with
  | none => Thread.fail (.worker ("unknown worker: " ++ dispatch.worker))
  | some config => do
      Thread.lift dispatch.checks
      let created ← claimTask dispatch.taskId
      Thread.require (created = false) (.worker "task already exists")
      match dispatch.snapshot with
      | .error message => do
          unlinkDescriptor dispatch.taskId
          Thread.fail (.worker message)
      | .ok () => do
          let now ← utcNow
          match ← Thread.attempt
            (withAdmissionLock pid (admitDispatch site dispatch config (dispatch.descriptor config now))) with
          | .ok done => return done
          | .error (.worker message) => do
              unlinkDescriptor dispatch.taskId
              Thread.fail (.worker message)
          | .error error => Thread.fail error

inductive CancelReply where
  | alreadyTerminal (status : TerminalStatus)
  | cancelled
  | alreadyRequested
  | requested
deriving DecidableEq, Repr

def cancelQueued (pid : Nat) (taskId reason : String) : Program (Option CancelReply) := do
  let descriptor ← loadDescriptor taskId
  if descriptor.status ≠ some .queued then return none
  else do
    writeTask taskId fun files =>
      match files.pending with
      | some entry => { files with pending := none, cancelled := some entry }
      | none => files
    let finalized ← finalizeCancelled pid taskId descriptor reason
    match finalized.1 with
    | .lost _ => Thread.fail (.missingKey "event_path")
    | .published _ _ signalEmitted => do
        let ended := { descriptor with
          status := some (.terminal .cancelled)
          finishedAt := some finalized.2
          signalEmitted := some signalEmitted }
        putDescriptor taskId ended
        releaseDispatchClaim taskId ended
        return some .cancelled

def claimCancelRequest (taskId : String) (request : CancelRequest) : Program Bool :=
  Thread.exchange (fun engine => (engine.task taskId).cancelRequest.isNone) fun engine =>
    match (engine.task taskId).cancelRequest with
    | none => engine.modify taskId fun files => { files with cancelRequest := some request }
    | some _ => engine

def requestCancel (taskId : String) (mode : CancelMode) (reason : String) : Program CancelReply := do
  let created ← claimCancelRequest taskId ⟨mode, Continuity.strip reason⟩
  return if created then .requested else .alreadyRequested

def cancelWorkerTask (pid : Nat) (taskId : String) (mode : CancelMode) (reason : String) : Program CancelReply := do
  Thread.require (Continuity.strip reason = "") (.worker "cancellation reason is required")
  Thread.require (validTaskId taskId = false) (.worker ("invalid task id: " ++ taskId))
  let descriptor ← loadDescriptor taskId
  match descriptor.status with
  | some (.terminal status) => return .alreadyTerminal status
  | some .queued => do
      match ← withAdmissionLock pid (cancelQueued pid taskId reason) with
      | some reply => return reply
      | none => requestCancel taskId mode reason
  | _ => requestCancel taskId mode reason

end OrchestratorEngine.Workers
