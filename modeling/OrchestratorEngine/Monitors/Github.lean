import OrchestratorEngine.Monitors.Exclusivity

set_option autoImplicit false

namespace OrchestratorEngine.Monitors

open Foundation

def casefold (text : String) : List Char := text.toList.map Char.toLower

def sameRepository (left right : String) : Bool := decide (casefold left = casefold right)

theorem same_repository_iff (left right : String) : sameRepository left right = true ↔ casefold left = casefold right :=
  decide_eq_true_iff

structure Options where
  wakePolicy : WakePolicy
  timeoutSeconds : Option String
  ghCommand : String
  retryOf : Option String
  retryReason : Option String
  wakeTarget : Option String
deriving DecidableEq, Repr

namespace GithubActions

inductive TerminalStatus where
  | completed
  | failed
  | cancelled
  | timedOut
  | unavailable
  | ambiguous
deriving DecidableEq, Repr

structure Request where
  hostname : String
  repository : String
  runId : Option Nat
  attempt : Option Nat
  workflowName : Option String
  expectedHeadSha : Option String
  options : Options
deriving DecidableEq, Repr

structure Subject where
  hostname : String
  repository : String
  runId : Option Nat
  requestedRunId : Option (Option Nat)
  attempt : Option Nat
  workflowName : Option String
  expectedHeadSha : Option String
  options : Options
deriving DecidableEq, Repr

namespace Subject

def requested (subject : Subject) : Option Nat := subject.requestedRunId.getD subject.runId

def sameHostRepo (existing subject : Subject) : Bool :=
  decide (existing.hostname = subject.hostname) && sameRepository existing.repository subject.repository

def sameDispatch (existing subject : Subject) : Bool :=
  existing.sameHostRepo subject && decide (existing.requested = subject.requested ∧ existing.attempt = subject.attempt ∧
    existing.workflowName = subject.workflowName ∧ existing.expectedHeadSha = subject.expectedHeadSha ∧
    existing.options = subject.options)

def sameExactRun (existing subject : Subject) : Bool :=
  subject.runId.isSome && decide (existing.runId = subject.runId)

def sameDiscovery (existing subject : Subject) : Bool :=
  subject.runId.isNone && existing.requested.isNone &&
    decide (existing.expectedHeadSha = subject.expectedHeadSha ∧ existing.workflowName = subject.workflowName)

def owns (existing subject : Subject) : Bool :=
  existing.sameHostRepo subject && (existing.sameExactRun subject || existing.sameDiscovery subject)

def Rival (first second : Subject) : Prop :=
  first.hostname = second.hostname ∧ casefold first.repository = casefold second.repository ∧
    ((∃ run, first.runId = some run ∧ second.runId = some run) ∨
      (first.requested = none ∧ second.requested = none ∧ first.expectedHeadSha = second.expectedHeadSha ∧
        first.workflowName = second.workflowName))

end Subject

def Request.subject (request : Request) : Subject :=
  { hostname := request.hostname, repository := request.repository, runId := request.runId
    requestedRunId := some request.runId, attempt := request.attempt, workflowName := request.workflowName
    expectedHeadSha := request.expectedHeadSha, options := request.options }

theorem same_host_repo_iff (existing subject : Subject) : existing.sameHostRepo subject = true ↔
    existing.hostname = subject.hostname ∧ casefold existing.repository = casefold subject.repository := by
  rw [Subject.sameHostRepo, Bool.and_eq_true, decide_eq_true_iff, same_repository_iff]

theorem owns_rival (existing : Subject) (request : Request) (rival : existing.Rival request.subject) :
    existing.owns request.subject = true := by
  obtain ⟨host, repository, conflict⟩ := rival
  rw [Subject.owns, Bool.and_eq_true, Bool.or_eq_true]
  refine ⟨(same_host_repo_iff _ _).mpr ⟨host, repository⟩, ?_⟩
  cases conflict with
  | inl exact =>
      obtain ⟨run, existingRun, requestRun⟩ := exact
      refine Or.inl ?_
      rw [Subject.sameExactRun, existingRun, requestRun]
      simp
  | inr discovery =>
      obtain ⟨unrequested, alsoUnrequested, sha, workflow⟩ := discovery
      refine Or.inr ?_
      have undetermined : request.subject.runId = none := alsoUnrequested
      rw [Subject.sameDiscovery, undetermined, unrequested, sha, workflow]
      simp

def Subject.resolve (subject : Subject) (run : Nat) : Subject := { subject with runId := some run }

def Subject.monitors (existing current : Subject) (run : Nat) : Bool :=
  existing.sameHostRepo current && decide (existing.runId = some run)

theorem resolve_rival (existing current : Subject) (run : Nat) (rival : existing.Rival (current.resolve run)) :
    existing.Rival current ∨ existing.monitors current run = true := by
  obtain ⟨host, repository, conflict⟩ := rival
  cases conflict with
  | inl exact =>
      obtain ⟨found, existingRun, resolved⟩ := exact
      cases resolved
      refine Or.inr ?_
      rw [Subject.monitors, Bool.and_eq_true, decide_eq_true_iff]
      exact ⟨(same_host_repo_iff _ _).mpr ⟨host, repository⟩, existingRun⟩
  | inr discovery =>
      obtain ⟨unrequested, alsoUnrequested, sha, workflow⟩ := discovery
      refine Or.inl ⟨host, repository, Or.inr ⟨unrequested, ?_, sha, workflow⟩⟩
      unfold Subject.requested at alsoUnrequested ⊢
      cases recorded : current.requestedRunId with
      | none => simp [Subject.resolve, recorded] at alsoUnrequested
      | some requested => simpa [Subject.resolve, recorded] using alsoUnrequested

theorem rival_symmetric (first second : Subject) (rival : first.Rival second) : second.Rival first := by
  obtain ⟨host, repository, conflict⟩ := rival
  refine ⟨host.symm, repository.symm, ?_⟩
  cases conflict with
  | inl exact =>
      obtain ⟨run, one, other⟩ := exact
      exact Or.inl ⟨run, other, one⟩
  | inr discovery =>
      obtain ⟨one, other, sha, workflow⟩ := discovery
      exact Or.inr ⟨other, one, sha.symm, workflow.symm⟩

def family : Family Request Subject Nat where
  subject := Request.subject
  concerns _ _ := true
  sameDispatch := Subject.sameDispatch
  owns := Subject.owns
  resolve := Subject.resolve
  monitors := Subject.monitors
  reloads := true
  Rival := Subject.Rival
  symmetric := rival_symmetric
  refuses existing request rival := ⟨rfl, owns_rival existing request rival⟩
  resolves := resolve_rival

end GithubActions

namespace GithubPullRequests

inductive TerminalStatus where
  | ready
  | merged
  | failedChecks
  | changesRequested
  | conflicting
  | headChanged
  | closed
  | cancelled
  | timedOut
  | unavailable
  | ambiguous
  | failed
deriving DecidableEq, Repr

inductive ReviewPolicy where
  | ignore
  | approved
deriving DecidableEq, Repr

structure Subject where
  hostname : String
  repository : String
  prNumber : Nat
  expectedHeadSha : String
  reviewPolicy : ReviewPolicy
  intervalSeconds : String
  options : Options
deriving DecidableEq, Repr

namespace Subject

def sameIdentity (existing subject : Subject) : Bool :=
  decide (existing.hostname = subject.hostname) && sameRepository existing.repository subject.repository &&
    decide (existing.prNumber = subject.prNumber)

def sameDispatch (existing subject : Subject) : Bool :=
  existing.sameIdentity subject && decide (existing.expectedHeadSha = subject.expectedHeadSha ∧
    existing.reviewPolicy = subject.reviewPolicy ∧ existing.intervalSeconds = subject.intervalSeconds ∧
    existing.options = subject.options)

def Rival (first second : Subject) : Prop :=
  first.hostname = second.hostname ∧ casefold first.repository = casefold second.repository ∧
    first.prNumber = second.prNumber

end Subject

theorem same_identity_iff (existing subject : Subject) :
    existing.sameIdentity subject = true ↔ existing.Rival subject := by
  rw [Subject.sameIdentity, Bool.and_eq_true, Bool.and_eq_true, decide_eq_true_iff, same_repository_iff,
    decide_eq_true_iff, and_assoc]
  rfl

def family : Family Subject Subject Empty where
  subject request := request
  concerns := Subject.sameIdentity
  sameDispatch := Subject.sameDispatch
  owns _ _ := true
  resolve subject _ := subject
  monitors _ _ _ := false
  reloads := false
  Rival := Subject.Rival
  symmetric _ _ rival := ⟨rival.1.symm, rival.2.1.symm, rival.2.2.symm⟩
  refuses existing request rival := ⟨(same_identity_iff existing request).mpr rival, rfl⟩
  resolves _ _ _ rival := Or.inl rival

end GithubPullRequests

abbrev ActionsStep := Step GithubActions.Request GithubActions.TerminalStatus Nat

abbrev PullRequestStep := Step GithubPullRequests.Subject GithubPullRequests.TerminalStatus Empty

theorem monitors_exclusive (actions : List ActionsStep) (pullRequests : List PullRequestStep)
    (met : Meets (step GithubActions.family) (fun label world => timely label world = true) actions World.start)
    (also : Meets (step GithubPullRequests.family) (fun label world => timely label world = true) pullRequests
      World.start) :
    Meets (step GithubActions.family) (Orderly GithubActions.family) actions World.start ∧
      Meets (step GithubPullRequests.family) (Orderly GithubPullRequests.family) pullRequests World.start :=
  ⟨run_orderly actions met, run_orderly pullRequests also⟩

section Runs

def options : Options := ⟨.always, none, "gh", none, none, none⟩

def request : GithubActions.Request := ⟨"github.com", "acme/app", some 7, none, none, none, options⟩

def pullRequest : GithubPullRequests.Subject :=
  ⟨"github.com", "acme/app", 12, "c0ffee", .ignore, "15.0", options⟩

def admitted {ρ τ κ : Type} (pid : Nat) (id : String) (request : ρ) : List (Step ρ τ κ) :=
  [.start pid id request, .scan pid, .create pid, .fill pid]

def supervised {ρ τ κ : Type} (pid : Nat) (id : String) : List (Step ρ τ κ) :=
  [.supervise pid id, .take pid, .hold pid]

def monitoredAgain : List ActionsStep :=
  admitted 0 "first" request ++ [.spawn 0 1, .record 0] ++ supervised 1 "first" ++
    [.load 1, .beat 1, .conclude 1, .finish 1 .completed] ++ admitted 0 "second" request

def launchFailed : List PullRequestStep :=
  admitted 0 "first" pullRequest ++ [.spawnFails 0, .giveUp 0 .failed] ++ admitted 0 "second" pullRequest

theorem launched_monitors_exclusive :
    Meets (step GithubActions.family) (Orderly GithubActions.family) monitoredAgain World.start ∧
      Meets (step GithubPullRequests.family) (Orderly GithubPullRequests.family) launchFailed World.start :=
  monitors_exclusive _ _ (by decide) (by decide)

-- A supervisor takes the monitor whose launcher is about to record that it could not be
-- spawned: a heartbeat brings the ended monitor back, next to the one that replaced it.
def revived : List PullRequestStep :=
  admitted 0 "first" pullRequest ++ [.spawnFails 0] ++ supervised 1 "first" ++ [.load 1, .giveUp 0 .failed] ++
    admitted 2 "second" pullRequest

theorem revived_monitor_not_exclusive :
    ¬ ∀ pullRequests : List PullRequestStep,
      Meets (step GithubPullRequests.family) (Orderly GithubPullRequests.family) pullRequests World.start := by
  intro every
  have reached : ∃ middle next, follow (step GithubPullRequests.family) revived World.start = some middle ∧
      step GithubPullRequests.family (.beat 1) middle = some next ∧
      next.monitors.get? "first" = some (.whole ⟨pullRequest, .running, some 1⟩) ∧
      next.monitors.get? "second" = some (.whole ⟨pullRequest, .starting, none⟩) :=
    ⟨_, _, rfl, rfl, by decide, by decide⟩
  obtain ⟨middle, next, arrived, taken, first, second⟩ := reached
  obtain ⟨_, late⟩ := Meets.append_inv revived [.beat 1] World.start middle (every (revived ++ [.beat 1])) arrived
  obtain ⟨exclusive, _⟩ := late.1 next taken
  exact (clear_iff next "first" pullRequest).mp (exclusive "first" _ first rfl) "second" _ (by decide) second rfl
    ⟨rfl, rfl, rfl⟩

end Runs

end OrchestratorEngine.Monitors
