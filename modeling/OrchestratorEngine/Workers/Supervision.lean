import OrchestratorEngine.Workers.Dispatch

set_option autoImplicit false

namespace OrchestratorEngine.Workers

open Foundation

def leaseExpirySeconds : Int := 30000 * 3

inductive Beat where
  | quiet
  | heartbeat
deriving DecidableEq, Repr

inductive Ending where
  | exited (code : Option Int)
  | timedOut (seconds : String) (stops : Bool)
  | broken (message : String)
deriving DecidableEq, Repr

structure Watch where
  identified : Bool
  prompt : Except Error Unit
  promptSha256 : String
  spawns : Except String Unit
  workerIdentified : Bool
  beats : List Beat
  ending : Ending
  -- The worker exits when a cancellation signals it.
  stops : Bool
  rateLimited : Bool
  tick : TickDraws

structure Watched where
  descriptor : Descriptor
  lease : Lease
  terminalStatus : TerminalStatus
  exitCode : Option Int
  failureReason : Option String

def Engine.exitCode (engine : Engine) (process : Nat) : Option Int :=
  match engine.workers[process]? with
  | some ⟨_, .exited code⟩ => code
  | _ => none

def acquireLease (pid : Nat) (taskId worker : String) (identified : Bool) : Program Lease := do
  Thread.require (identified = false) (.lease "cannot read a process identity token for supervisor")
  let now ← utcNow
  let lease : Lease := {
    status := .held, worker, supervisorIdentity := some pid, expiry := some leaseExpirySeconds
    acquiredAt := now, renewedAt := now }
  putLease taskId lease
  return lease

def renewLease (taskId : String) (lease : Lease) : Program Lease := do
  let now ← utcNow
  putLease taskId { lease with renewedAt := now }
  return { lease with renewedAt := now }

def recordWorkerIdentity (taskId : String) (lease : Lease) (process : Nat) (identified : Bool) : Program Lease :=
  renewLease taskId { lease with
    workerPid := some process
    workerIdentity := if identified then some process else lease.workerIdentity }

def spawnWorker (taskId : String) : Program Nat :=
  Thread.exchange (fun engine => engine.workers.length) fun engine =>
    { engine with workers := engine.workers ++ [⟨taskId, .running⟩] }

def terminateWorker (process : Nat) (stops : Bool) : Program Unit :=
  if stops then Thread.write fun engine => engine.endWorker process none else return ()

def waitWorker (process : Nat) (code : Option Int) : Program (Option Int) := do
  Thread.write fun engine => engine.endWorker process code
  Thread.ask fun engine => engine.exitCode process

def watchWorker (taskId : String) (process : Nat) (stops : Bool) (ending : Ending) :
    List Beat → Descriptor → Lease → Program Watched
  | beats, descriptor, lease => do
      match ← askTask taskId TaskFiles.cancelRequest with
      | some request => do
          putDescriptor taskId { descriptor with status := some .cancelling }
          terminateWorker process stops
          let code ← Thread.ask fun engine => engine.exitCode process
          return ⟨{ descriptor with status := some .cancelling }, lease, .cancelled, code, some request.reason⟩
      | none =>
          match beats with
          | .quiet :: rest => watchWorker taskId process stops ending rest descriptor lease
          | .heartbeat :: rest => do
              let now ← utcNow
              let beating := { descriptor with
                status := some .running, workerPid := some process, lastAliveAt := some now }
              putDescriptor taskId beating
              let renewed ← renewLease taskId lease
              watchWorker taskId process stops ending rest beating renewed
          | [] =>
              match ending with
              | .exited drawn => do
                  let code ← waitWorker process drawn
                  return ⟨descriptor, lease, .completed, code, none⟩
              | .timedOut seconds killed => do
                  terminateWorker process killed
                  return ⟨descriptor, lease, .timedOut, none, some ("worker exceeded " ++ seconds ++ " seconds")⟩
              | .broken message => return ⟨descriptor, lease, .failed, none, some message⟩

def startWorker (taskId : String) (watch : Watch) (descriptor : Descriptor) (lease : Lease) : Program Watched := do
  match watch.spawns with
  | .error message => return ⟨descriptor, lease, .failed, none, some message⟩
  | .ok () => do
      let process ← spawnWorker taskId
      putDescriptor taskId { descriptor with workerPid := some process }
      let recorded ← recordWorkerIdentity taskId lease process watch.workerIdentified
      watchWorker taskId process watch.stops watch.ending watch.beats { descriptor with workerPid := some process } recorded

def Watched.classify (watched : Watched) (rateLimited : Bool) : TerminalStatus × Option String :=
  if watched.terminalStatus = .completed ∧ watched.exitCode ≠ some 0 then
    if rateLimited then (.rateLimited, some "worker output matched a rate-limit diagnostic")
    else (.failed, some ("worker exited with code " ++ (watched.exitCode.map toString).getD "None"))
  else (watched.terminalStatus, watched.failureReason)

def completeTask (pid : Nat) (site : Site) (tick : TickDraws) (taskId : String) (watched : Watched)
    (result : WorkerResult)
    (signalEmitted : Bool) : Program Unit := do
  endTask taskId watched.descriptor result signalEmitted
  suppressing (queueTick pid site tick)
  releaseLease taskId watched.lease

def concludeTask (pid : Nat) (site : Site) (watch : Watch) (worker taskId : String) (startedAt : Int)
    (watched : Watched) :
    Program Unit := do
  let now ← utcNow
  let ended := watched.classify watch.rateLimited
  let result : WorkerResult := ⟨worker, ended.1, watched.exitCode, ended.2, some startedAt, now⟩
  let evidence : Evidence :=
    { worker, finishedAt := now, wakePolicy := watched.descriptor.wakePolicy.getD "always" }
  match ← finalizeSupervised pid taskId watched.descriptor result evidence with
  | .lost _ => suppressing (queueTick pid site watch.tick)
  | .published _ final signalEmitted => completeTask pid site watch.tick taskId watched final signalEmitted

def superviseWorker (pid : Nat) (site : Site) (watch : Watch) (worker taskId : String) : Program Unit := do
  let found ← askTask taskId TaskFiles.descriptor
  let snapshot := found.getD {}
  match configForDescriptor site snapshot worker with
  | none => Thread.fail (.worker ("unknown worker: " ++ worker))
  | some _ => do
      let now ← utcNow
      let lease ← acquireLease pid taskId worker watch.identified
      let claimedAt ← utcNow
      let running := { snapshot with
        createdAt := some (snapshot.createdAt.getD now)
        taskId := some taskId
        worker := some worker
        status := some .running
        supervisorPid := some pid
        lastAliveAt := some claimedAt }
      putDescriptor taskId running
      Thread.lift watch.prompt
      let identified := { running with promptSha256 := some (running.promptSha256.getD watch.promptSha256) }
      if running.promptSha256 = none then putDescriptor taskId identified else pure ()
      let startedAt ← utcNow
      let watched ← startWorker taskId watch identified lease
      concludeTask pid site watch worker taskId startedAt watched

end OrchestratorEngine.Workers
