import OrchestratorEngine.Monitors.Publication

set_option autoImplicit false

namespace OrchestratorEngine.Monitors.Recovery

inductive Launcher (ο τ : Type) where
  | waiting
  | owning
  | owned
  | creating
  | launching
  -- The supervisor runs; its launch is not recorded yet.
  | spawned
  | failing (report : Report ο τ) (remaining : List Stage)
  | ended
deriving DecidableEq, Repr

inductive Supervisor (ο τ : Type) where
  | unspawned
  | waiting
  | running (descriptor : Descriptor τ)
  | finalizing (handled : Bool) (report : Report ο τ) (remaining : List Stage)
  | ended
deriving DecidableEq, Repr

inductive Reaper (ο τ : Type) where
  | idle
  | burying (report : Report ο τ) (remaining : List Stage)
deriving DecidableEq, Repr

-- One monitor: its files, the call that starts it, its supervisor and the calls that
-- reap it, one after another under the admission lock.
structure Monitor (ο τ : Type) where
  files : Files ο τ
  launcher : Launcher ο τ
  supervisor : Supervisor ο τ
  reaper : Reaper ο τ
deriving DecidableEq, Repr

def Monitor.start {ο τ : Type} : Monitor ο τ := ⟨.empty, .waiting, .unspawned, .idle⟩

structure Dispatch where
  wakePolicy : WakePolicy
  wakeTarget : Option String
deriving DecidableEq, Repr

inductive Step (ο : Type) where
  | own
  | fillOwner
  | create
  | fill (dispatch : Dispatch) (now : String)
  | spawn
  | spawnFails (error : String) (now : String)
  | record
  | launcherPublishes
  -- The process dies, or its write raises and the call with it.
  | launcherEnds
  | claim (now : String)
  | observe (observation : ο) (now : String)
  | supervisorPublishes
  | raises (error : String) (now : String)
  | supervisorEnds
  | reap (now : String)
  | reaperPublishes
  | reaperEnds
deriving DecidableEq, Repr

namespace Supervisor

variable {ο τ : Type}

def gone : Supervisor ο τ → Bool
  | .ended => true
  | _ => false

end Supervisor

def Descriptor.claimed {τ : Type} (descriptor : Descriptor τ) (now : String) : Descriptor τ :=
  { descriptor with status := .running, identified := true, startedAt := some now }

def Launcher.locked {ο τ : Type} : Launcher ο τ → Bool
  | .owning | .owned | .creating => true
  | _ => false

section Steps

variable {ο τ : Type} (reporting : Reporting ο τ) (site : Site ο)

-- The next durable step of a finalization. One that raises ends its call.
def publish (report : Report ο τ) (remaining : List Stage) (files : Files ο τ) : Option (Files ο τ × List Stage) :=
  match remaining with
  | [] => none
  | stage :: rest =>
      match perform reporting site report stage files with
      | .ok next => some (next, rest)
      | .error _ => none

def step : Step ο → Monitor ο τ → Option (Monitor ο τ)
  | .own, monitor =>
      match monitor.launcher, monitor.files.owner with
      | .waiting, .absent => some { monitor with files.owner := .torn, launcher := .owning }
      | .waiting, .whole _ => some { monitor with launcher := .owned }
      | _, _ => none
  | .fillOwner, monitor =>
      match monitor.launcher with
      | .owning => some { monitor with files.owner := .whole (), launcher := .owned }
      | _ => none
  | .create, monitor =>
      match monitor.launcher, monitor.files.descriptor with
      | .owned, .absent => some { monitor with files.descriptor := .torn, launcher := .creating }
      | _, _ => none
  | .fill dispatch now, monitor =>
      match monitor.launcher with
      | .creating => some { monitor with
          files.descriptor := .whole {
            monitorDir := site.monitorDir
            status := .starting
            identified := false
            wakePolicy := dispatch.wakePolicy
            wakeTarget := dispatch.wakeTarget
            createdAt := now
            startedAt := none
            finishedAt := none
            signalEmitted := none }
          launcher := .launching }
      | _ => none
  | .spawn, monitor =>
      match monitor.launcher with
      | .launching => some { monitor with launcher := .spawned, supervisor := .waiting }
      | _ => none
  | .spawnFails error now, monitor =>
      match monitor.launcher, monitor.files.descriptor with
      | .launching, .whole descriptor => some { monitor with
          launcher := .failing ⟨reporting.launchFailed error, descriptor, descriptor.createdAt, now⟩ finalization }
      | _, _ => none
  | .record, monitor =>
      match monitor.launcher with
      | .spawned => some { monitor with files.launch := true, launcher := .ended }
      | _ => none
  | .launcherPublishes, monitor =>
      match monitor.launcher with
      | .failing report remaining =>
          (publish reporting site report remaining monitor.files).map fun (files, rest) =>
            { monitor with files, launcher := if rest = [] then .ended else .failing report rest }
      | _ => none
  -- Without a descriptor another call may start the monitor.
  | .launcherEnds, monitor =>
      match monitor.files.descriptor with
      | .absent => some { monitor with launcher := .waiting }
      | _ => some { monitor with launcher := .ended }
  | .claim now, monitor =>
      match monitor.supervisor, monitor.launcher.locked, monitor.files.descriptor with
      | .waiting, false, .whole descriptor =>
          match descriptor.status with
          | .starting => some { monitor with
              files.descriptor := .whole (descriptor.claimed now), supervisor := .running (descriptor.claimed now) }
          | _ => none
      | _, _, _ => none
  | .observe observation now, monitor =>
      match monitor.supervisor with
      | .running descriptor => some { monitor with
          supervisor := .finalizing (reporting.handled observation)
            ⟨observation, descriptor, descriptor.startedAt.getD descriptor.createdAt, now⟩ finalization }
      | _ => none
  | .supervisorPublishes, monitor =>
      match monitor.supervisor with
      | .finalizing handled report remaining =>
          (publish reporting site report remaining monitor.files).map fun (files, rest) =>
            { monitor with files, supervisor := if rest = [] then .ended else .finalizing handled report rest }
      | _ => none
  -- The handler of supervise_monitor finalizes once more; elsewhere the process ends.
  | .raises error now, monitor =>
      match monitor.supervisor with
      | .finalizing true report _ => some { monitor with
          supervisor := .finalizing false
            { report with observation := reporting.processFailure report.observation error, finishedAt := now }
            finalization }
      | .finalizing false _ _ => some { monitor with supervisor := .ended }
      | _ => none
  | .supervisorEnds, monitor =>
      match monitor.supervisor with
      | .unspawned => none
      | _ => some { monitor with supervisor := .ended }
  | .reap now, monitor =>
      match monitor.reaper, monitor.launcher.locked, doomed monitor.files monitor.supervisor.gone with
      | .idle, false, some descriptor => some { monitor with
          reaper := .burying (burial reporting site monitor.files descriptor now).1
            (burial reporting site monitor.files descriptor now).2 }
      | _, _, _ => none
  | .reaperPublishes, monitor =>
      match monitor.reaper with
      | .burying report remaining =>
          (publish reporting site report remaining monitor.files).map fun (files, rest) =>
            { monitor with files, reaper := if rest = [] then .idle else .burying report rest }
      | _ => none
  | .reaperEnds, monitor => some { monitor with reaper := .idle }

end Steps

end OrchestratorEngine.Monitors.Recovery
