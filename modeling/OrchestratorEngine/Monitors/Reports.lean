import Mathlib.Data.List.Forall2
import OrchestratorEngine.Monitors.Github
import OrchestratorEngine.Monitors.Life

set_option autoImplicit false

namespace OrchestratorEngine.Monitors

open Foundation
open Recovery (VerificationStatus EventStatus Reporting)

namespace GithubActions

inductive Conclusion where
  | success
  | failure
  | startupFailure
  | timedOut
  | actionRequired
  | cancelled
  | other (name : String)
deriving DecidableEq, Repr

inductive Discovery where
  | unneeded
  | resolved
  | ended
deriving DecidableEq, Repr

structure Observation where
  monitorStatus : TerminalStatus
  ciConclusion : Option Conclusion
  failureKind : Option String
  error : Option String
  discovery : Discovery
deriving DecidableEq, Repr

namespace Observation

def verificationStatus (observation : Observation) : VerificationStatus :=
  match observation.monitorStatus, observation.ciConclusion with
  | .completed, some .success => .passed
  | .completed, some .failure | .completed, some .startupFailure | .completed, some .timedOut
  | .completed, some .actionRequired => .failed
  | .completed, some .cancelled => .cancelled
  | .completed, _ => .unknown
  | .cancelled, _ => .cancelled
  | _, _ => .unknown

def eventStatus (observation : Observation) : EventStatus :=
  match observation.monitorStatus, observation.ciConclusion with
  | .completed, some .success => .completed
  | .completed, some .failure | .completed, some .startupFailure => .failed
  | .completed, some .cancelled => .cancelled
  | .completed, some .timedOut => .timedOut
  | .completed, some .actionRequired => .actionRequired
  | .completed, _ => .ambiguous
  | .failed, _ => .failed
  | .cancelled, _ => .cancelled
  | .timedOut, _ => .timedOut
  | .unavailable, _ => .unavailable
  | .ambiguous, _ => .ambiguous

def shouldWake (policy : WakePolicy) (observation : Observation) : Bool :=
  match policy with
  | .always => true
  | .never => false
  | .onFailure => decide (observation.verificationStatus ≠ .passed)
  | .actionRequired => decide (observation.verificationStatus ≠ .passed)

def failed (failureKind error : String) : Observation := ⟨.failed, none, some failureKind, some error, .unneeded⟩

end Observation

def reporting : Reporting Observation TerminalStatus where
  monitorStatus := Observation.monitorStatus
  verificationStatus := Observation.verificationStatus
  eventStatus := Observation.eventStatus
  shouldWake := Observation.shouldWake
  launchFailed error := .failed "supervisor_launch_failed" error
  processFailure observation error :=
    { Observation.failed "monitor_process_failure" error with discovery := observation.discovery }
  lost status := .failed (match status with | .starting => "supervisor_never_claimed" | _ => "supervisor_not_alive")
    "detached monitor supervisor exited before finalization"
  recovered observation := { observation with error := none, discovery := .unneeded }
  handled observation := decide (observation.discovery = .ended)
  strict := true
  recovered_monitor _ := rfl
  recovered_event _ := rfl

end GithubActions

namespace GithubPullRequests

structure Observation where
  status : TerminalStatus
  failureKind : Option String
  snapshot : Option String
  sampleCount : Nat
  error : Option String
deriving DecidableEq, Repr

namespace Observation

def succeeds (observation : Observation) : Bool :=
  match observation.status with
  | .ready | .merged => true
  | _ => false

def verificationStatus (observation : Observation) : VerificationStatus :=
  match observation.status with
  | .ready | .merged => .passed
  | .failedChecks => .failed
  | .cancelled => .cancelled
  | _ => .unknown

def eventStatus (observation : Observation) : EventStatus :=
  match observation.status with
  | .ready | .merged => .completed
  | .failedChecks | .failed => .failed
  | .cancelled | .closed => .cancelled
  | .timedOut => .timedOut
  | .unavailable => .unavailable
  | .ambiguous => .ambiguous
  | .changesRequested | .conflicting | .headChanged => .actionRequired

def shouldWake (policy : WakePolicy) (observation : Observation) : Bool :=
  match policy with
  | .always => true
  | .onFailure => !observation.succeeds
  | .actionRequired | .never => !observation.succeeds && decide (observation.status ≠ .cancelled)

def failed (failureKind error : String) : Observation := ⟨.failed, some failureKind, none, 0, some error⟩

end Observation

def reporting : Reporting Observation TerminalStatus where
  monitorStatus := Observation.status
  verificationStatus := Observation.verificationStatus
  eventStatus := Observation.eventStatus
  shouldWake := Observation.shouldWake
  launchFailed error := .failed "supervisor_launch_failed" error
  processFailure _ error := .failed "monitor_process_failure" error
  lost status := .failed (match status with | .starting => "supervisor_never_claimed" | _ => "supervisor_not_alive")
    "detached PR monitor supervisor exited before finalization"
  recovered observation := { observation with error := none }
  handled _ := false
  strict := false
  recovered_monitor _ := rfl
  recovered_event _ := rfl

end GithubPullRequests

namespace Recovery

variable {ο τ : Type} {reporting : Reporting ο τ} {site : Site ο}

def Files.loads (files : Files ο τ) : Bool :=
  match files.descriptor with
  | .torn => false
  | _ => true

def reapMonitors (reporting : Reporting ο τ) (site : Site ο) (now : String) :
    List (Monitor ο τ) → Except Error (List (Files ο τ))
  | [] => .ok []
  | monitor :: rest =>
      match reapMonitor reporting site now monitor.files monitor.supervisor.gone with
      | .ok files =>
          match reapMonitors reporting site now rest with
          | .ok others => .ok (files :: others)
          | .error error => .error error
      | .error error => .error error

def Monitor.free (monitor : Monitor ο τ) : Prop := monitor.launcher.locked = false ∧ monitor.reaper = .idle

def Monitor.left (monitor : Monitor ο τ) : Prop :=
  monitor.launcher = .ended ∧ (monitor.supervisor = .unspawned ∨ monitor.supervisor = .ended)

theorem not_doomed_reaped (now : String) (files : Files ο τ) (gone : Bool) (spared : doomed files gone = none) :
    reapMonitor reporting site now files gone = .ok files := by
  unfold reapMonitor
  rw [spared]

theorem life_reaped (now : String) (monitor : Monitor ο τ) (life : Life reporting site monitor)
    (intact : Intact site monitor.files) (free : monitor.free) :
    monitor.files.loads = true ∧ ∃ files, reapMonitor reporting site now monitor.files
    monitor.supervisor.gone = .ok files ∧
      (monitor.left → Agreed reporting site files) := by
  cases life with
  | unborn files launcher early absent =>
      refine ⟨by simp [Files.loads, absent], files, not_doomed_reaped now files _ (doomed_none_torn _ (Or.inl absent)), ?_⟩
      intro left
      have ended : launcher = .ended := left.1
      rw [ended] at early
      simp at early
  | creating => cases free.1
  | launching files descriptor stored starting unknown =>
      exact ⟨by simp [Files.loads, stored], files, not_doomed_reaped now files _ (unknown_doomed _ unknown),
        fun left => nomatch left.1⟩
  | failing files descriptor report remaining stored starting unknown =>
      exact ⟨by simp [Files.loads, stored], files, not_doomed_reaped now files _ (unknown_doomed _ unknown),
        fun left => nomatch left.1⟩
  | waiting files descriptor launcher done stored | running files descriptor copy launcher done stored
  | finalizing files descriptor launcher handled report remaining done stored =>
      refine ⟨by simp [Files.loads, stored], files, not_doomed_reaped now files _ doomed_alive, ?_⟩
      intro left
      cases left.2 with
      | inl wrong | inr wrong => cases wrong
  | stranded files descriptor launcher done stored active found owned filed =>
      refine ⟨by simp [Files.loads, stored], ?_⟩
      cases doom : doomed files true with
      | none =>
          refine ⟨files, not_doomed_reaped now files _ doom, ?_⟩
          intro left
          have ended : launcher = .ended := left.1
          have known : files.found = true := found.resolve_right (by rw [ended]; exact nofun)
          simp only [Files.found, stored, Bool.or_eq_true] at known
          simp [doomed, stored, active, known.symm] at doom
      | some dead =>
          obtain ⟨whole, _⟩ := doomed_whole true dead doom
          cases stored.symm.trans whole
          obtain ⟨more, same, progress⟩ := burial_progress filed intact descriptor stored now
          obtain ⟨final, done, agreed⟩ := finalize_agreed _ more files owned (by rw [same]) progress
          refine ⟨final, ?_, fun _ => agreed⟩
          change reapMonitor reporting site now files true = .ok final
          unfold reapMonitor
          rw [doom]
          exact done
  | burying => cases free.2
  | finished files launcher supervisor done quiet agreed =>
      obtain ⟨descriptor, _, _, _, stored, _⟩ := id agreed
      exact ⟨by simp [Files.loads, stored], files, not_doomed_reaped now files _ (doomed_agreed _ agreed), fun _ => agreed⟩

def Reached (reporting : Reporting ο τ) (site : Site ο) (monitor : Monitor ο τ) : Prop :=
  ∃ schedule, Meets (step reporting site) (fun label monitor => timely label monitor = true) schedule Monitor.start ∧
    follow (step reporting site) schedule Monitor.start = some monitor

def Recovers (reporting : Reporting ο τ) (site : Site ο) (now : String) (monitors : List (Monitor ο τ)) : Prop :=
  ∃ reaped, reapMonitors reporting site now monitors = .ok reaped ∧
    List.Forall₂ (fun monitor files => monitor.files.loads = true ∧ (monitor.left → Agreed reporting site files))
      monitors reaped

theorem reached_recovers (now : String) (monitors : List (Monitor ο τ))
    (reached : ∀ monitor ∈ monitors, Reached reporting site monitor) (free : ∀ monitor ∈ monitors, monitor.free) :
    Recovers reporting site now monitors := by
  induction monitors with
  | nil => exact ⟨[], rfl, .nil⟩
  | cons monitor rest ih =>
      obtain ⟨schedule, met, arrived⟩ := reached monitor List.mem_cons_self
      obtain ⟨life, placed⟩ := run_life schedule monitor met arrived
      obtain ⟨loads, files, done, agreed⟩ := life_reaped now monitor life placed.intact
        (free monitor List.mem_cons_self)
      obtain ⟨others, reaped, agree⟩ := ih (fun other listed => reached other (List.mem_cons_of_mem _ listed))
        fun other listed => free other (List.mem_cons_of_mem _ listed)
      refine ⟨files :: others, ?_, .cons ⟨loads, agreed⟩ agree⟩
      rw [reapMonitors, done, reaped]

theorem monitors_recover (actionsSite : Site GithubActions.Observation)
    (pullRequestSite : Site GithubPullRequests.Observation)
    (now : String) (actions : List (Monitor GithubActions.Observation GithubActions.TerminalStatus))
    (pullRequests : List (Monitor GithubPullRequests.Observation GithubPullRequests.TerminalStatus))
    (reached : ∀ monitor ∈ actions, Reached GithubActions.reporting actionsSite monitor)
    (also : ∀ monitor ∈ pullRequests, Reached GithubPullRequests.reporting pullRequestSite monitor)
    (free : ∀ monitor ∈ actions, monitor.free) (others : ∀ monitor ∈ pullRequests, monitor.free) :
    Recovers GithubActions.reporting actionsSite now actions ∧
      Recovers GithubPullRequests.reporting pullRequestSite now pullRequests :=
  ⟨reached_recovers now actions reached free, reached_recovers now pullRequests also others⟩

section Runs

def actionsSite : Site GithubActions.Observation := ⟨"actions-1", Result.finishedAt, Evidence.finishedAt⟩

def pullRequestSite : Site GithubPullRequests.Observation := ⟨"pull-request-1", Result.finishedAt, Evidence.finishedAt⟩

def timedOutDiscovery : GithubActions.Observation := ⟨.timedOut, none, some "run_discovery_timeout", none, .ended⟩

def readyPullRequest : GithubPullRequests.Observation := ⟨.ready, none, some "snapshot", 3, none⟩

def observed {ο : Type} (observation : ο) (published : Nat) : List (Step ο) :=
  [.own, .fillOwner, .create, .fill ⟨.always, none⟩ "09:00", .spawn, .record, .claim "09:01",
  .observe observation "09:20"] ++
    List.replicate published .supervisorPublishes

def interruptedDiscovery : Monitor GithubActions.Observation GithubActions.TerminalStatus :=
  (follow (step GithubActions.reporting actionsSite) (observed timedOutDiscovery 5 ++ [.supervisorEnds])
  Monitor.start).getD
    Monitor.start

def interruptedPullRequest : Monitor GithubPullRequests.Observation GithubPullRequests.TerminalStatus :=
  (follow (step GithubPullRequests.reporting pullRequestSite) (observed readyPullRequest 3 ++ [.supervisorEnds])
    Monitor.start).getD Monitor.start

theorem interrupted_monitors_recover :
    Recovers GithubActions.reporting actionsSite "10:00" [interruptedDiscovery] ∧
      Recovers GithubPullRequests.reporting pullRequestSite "10:00" [interruptedPullRequest] := by
  refine monitors_recover actionsSite pullRequestSite "10:00" _ _ ?_ ?_ ?_ ?_
  · intro monitor listed
    cases List.mem_singleton.mp listed
    exact ⟨observed timedOutDiscovery 5 ++ [.supervisorEnds], by decide, rfl⟩
  · intro monitor listed
    cases List.mem_singleton.mp listed
    exact ⟨observed readyPullRequest 3 ++ [.supervisorEnds], by decide, rfl⟩
  · intro monitor listed
    cases List.mem_singleton.mp listed
    exact ⟨rfl, rfl⟩
  · intro monitor listed
    cases List.mem_singleton.mp listed
    exact ⟨rfl, rfl⟩

-- The event of a timed out discovery is out when the write of its signal raises; the
-- handler finalizes the monitor as failed, and no event can tell that any more.
def finalizedTwice : List (Step GithubActions.Observation) :=
  observed timedOutDiscovery 5 ++ [.raises "disk full" "09:21"] ++ List.replicate 4 .supervisorPublishes ++
    [.raises "conflict" "09:22"]

theorem twice_finalized_not_reaped : ¬ ∀ (now : String)
    (actions : List (Monitor GithubActions.Observation GithubActions.TerminalStatus)),
    (∀ monitor ∈ actions, ∃ schedule,
      follow (step GithubActions.reporting actionsSite) schedule Monitor.start = some monitor) →
    (∀ monitor ∈ actions, monitor.free) → Recovers GithubActions.reporting actionsSite now actions := by
  intro every
  have reached : ∃ monitor, follow (step GithubActions.reporting actionsSite) finalizedTwice
    Monitor.start = some monitor ∧
      monitor.launcher.locked = false ∧ monitor.reaper = .idle ∧
      reapMonitors GithubActions.reporting actionsSite "10:00" [monitor] = .error .conflictingEvent :=
    ⟨_, rfl, rfl, rfl, rfl⟩
  obtain ⟨monitor, arrived, unlocked, idle, raised⟩ := reached
  obtain ⟨reaped, done, _⟩ := every "10:00" [monitor]
    (fun other listed => ⟨finalizedTwice, List.mem_singleton.mp listed ▸ arrived⟩)
    (fun other listed => List.mem_singleton.mp listed ▸ ⟨unlocked, idle⟩)
  rw [raised] at done
  cases done

end Runs

end Recovery

end OrchestratorEngine.Monitors
