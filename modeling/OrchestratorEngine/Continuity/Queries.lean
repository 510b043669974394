import OrchestratorEngine.Continuity.Records

set_option autoImplicit false

namespace OrchestratorEngine.Continuity

open Foundation

def isSpace (character : Char) : Bool :=
  decide (character.toNat ∈ [9, 10, 11, 12, 13, 28, 29, 30, 31, 32, 133, 160, 5760, 8232, 8233, 8239, 8287, 12288] ∨
    8192 ≤ character.toNat ∧ character.toNat ≤ 8202)

def strip (value : String) : String :=
  String.ofList ((value.toList.dropWhile isSpace).reverse.dropWhile isSpace).reverse

def text (value field : String) (limit : Nat) : Except Error String :=
  if strip value = "" then .error (.continuity (field ++ " is required"))
  else if limit < (strip value).length then
    .error (.continuity (field ++ " must be at most " ++ toString limit ++ " characters"))
  else .ok (strip value)

def idCharacter (character : Char) : Bool := character.isAlphanum || decide (character ∈ ['_', '.', '-'])

def validEventId (value : String) : Bool :=
  match value.toList with
  | [] => false
  | first :: rest => first.isAlphanum && decide (rest.length ≤ 127) && rest.all idCharacter

def checkId (value field : String) : Except Error Unit :=
  refuse (validEventId value = false) (.continuity ("invalid " ++ field ++
    ": event_id must match [A-Za-z0-9][A-Za-z0-9_.-]{0,127}"))

def SourceKind.parse (kind : String) : Option SourceKind :=
  if kind = "obligation" then some .obligation
  else if kind = "worker" then some .worker
  else if kind = "check" then some .check
  else if kind = "ci" then some .ci
  else if kind = "pr" then some .pr
  else if kind = "workstream" then some .workstream
  else none

def sourceKey (value : String) : Except Error SourceKey :=
  let kind := String.ofList (value.toList.takeWhile (· ≠ ':'))
  let identity := String.ofList ((value.toList.dropWhile (· ≠ ':')).drop 1)
  match SourceKind.parse kind with
  | some known =>
      if ':' ∈ value.toList then do
        checkId identity "source identity"
        return ⟨known, identity⟩
      else .error (.continuity "wait source must use KIND:ID with a supported kind")
  | none => .error (.continuity "wait source must use KIND:ID with a supported kind")

def obligationSource (obligationId : String) : SourceKey := ⟨.obligation, obligationId⟩

def ScopeKind.text : ScopeKind → String
  | .project => "project"
  | .actor => "actor"
  | .work => "work"

def WorkMode.text : WorkMode → String
  | .continues => "continue"
  | .waiting => "waiting"
  | .paused => "paused"
  | .complete => "complete"

def ObligationStatus.text : ObligationStatus → String
  | .opened => "open"
  | .completed => "completed"
  | .failed => "failed"
  | .cancelled => "cancelled"

def ActivationStatus.text : ActivationStatus → String
  | .pending => "pending"
  | .published => "published"
  | .claimed => "claimed"
  | .revoked => "revoked"

structure Capability where
  endpointAddressability : String
  sequentialQueueProcessing : String
  terminalTurnObservation : String
deriving DecidableEq

def forHost (host : String) : Option Capability :=
  if host = "claude" then some ⟨"bound_session", "best_effort", "unsupported"⟩
  else if host = "vscode" then some ⟨"best_effort", "best_effort", "unsupported"⟩
  else if host = "codex" then some ⟨"exact", "supported", "unsupported"⟩
  else none

def Capability.safe (capability : Capability) : Bool :=
  decide (capability.sequentialQueueProcessing = "supported" ∨ capability.terminalTurnObservation = "supported")

namespace Store

def actor? (store : Store) (actorId : String) : Option Actor := row? Actor.actorId actorId store.actors

def work? (store : Store) (workId : String) : Option Work := row? Work.workId workId store.works

def obligation? (store : Store) (obligationId : String) : Option Obligation :=
  row? Obligation.obligationId obligationId store.obligations

def wait? (store : Store) (workId : String) : Option Wait := row? Wait.workId workId store.waits

def request? (store : Store) (requestId : String) : Option Request := row? Request.requestId requestId store.requests

def linkedRequest? (store : Store) (obligationId : String) : Option Request :=
  store.requests.find? fun request => decide (request.obligationId = some obligationId)

def response? (store : Store) (responseId : String) : Option Response :=
  row? Response.responseId responseId store.responses

def checkpoint? (store : Store) (obligationId : String) : Option AssignmentCheckpoint :=
  row? AssignmentCheckpoint.obligationId obligationId store.assignmentCheckpoints

def activation? (store : Store) (activationId : Nat) : Option Activation :=
  row? Activation.activationId activationId store.activations

def policy? (store : Store) (workId : String) : Option RecoveryPolicy :=
  row? RecoveryPolicy.workId workId store.recoveryPolicies

def incident? (store : Store) (incidentId : IncidentId) : Option RecoveryIncident :=
  row? RecoveryIncident.incidentId incidentId store.recoveryIncidents

def diagnostic? (store : Store) (diagnosticId : Finding) : Option Diagnostic :=
  row? Diagnostic.diagnosticId diagnosticId store.diagnostics

end Store

def requireActor (store : Store) (actorId : String) : Except Error Actor :=
  match store.actor? actorId with
  | some actor =>
      if actor.active then .ok actor else .error (.continuity ("unknown active actor: " ++ actorId))
  | none => .error (.continuity ("unknown active actor: " ++ actorId))

def requireWork (store : Store) (workId : String) : Except Error Work :=
  match store.work? workId with
  | some work => .ok work
  | none => .error (.continuity ("unknown work: " ++ workId))

def assertOwnerRevision (work : Work) (actorId : String) (expectedRevision : Nat) : Except Error Unit := do
  refuse (work.ownerActor ≠ actorId) (.continuity "actor does not own this work")
  refuse (work.revision ≠ expectedRevision) (.continuity ("stale work revision: expected " ++
    toString expectedRevision ++ ", current " ++ toString work.revision))

def assertMutableWork (work : Work) : Except Error Unit :=
  refuse (work.mode = .complete) (.continuity "completed work is immutable")

def RecoveryControl.covers (control : RecoveryControl) (workId actorId : String) : Bool :=
  decide (control.state = .stopped) &&
    match control.scopeKind with
    | .project => true
    | .actor => decide (control.scopeId = actorId)
    | .work => decide (control.scopeId = workId)

def RecoveryControl.text (control : RecoveryControl) : String :=
  control.scopeKind.text ++ ":" ++ control.scopeId ++ ":" ++ control.reason

def effectiveExplicitStop (store : Store) (workId actorId : String) : Option String :=
  let stop (scope : ScopeKind) := store.recoveryControls.find? fun control =>
    decide (control.scopeKind = scope) && control.covers workId actorId
  ((stop .project).orElse fun _ => (stop .actor).orElse fun _ => stop .work).map RecoveryControl.text

def effectiveRecoveryStop (store : Store) (work : Work) (actorId : String) : Option String :=
  if work.mode = .paused ∨ work.mode = .complete then some ("work_" ++ work.mode.text)
  else effectiveExplicitStop store work.workId actorId

def Mark.request? : Mark → Option String
  | .request id => some id
  | _ => none

def Mark.obligation? : Mark → Option String
  | .obligation id => some id
  | _ => none

def Mark.activation? : Mark → Option Nat
  | .activation id => some id
  | _ => none

def manifestValue {α : Type} (manifest : List Mark) (select : Mark → Option α) (field : String) :
    Except Error (Option α) :=
  match manifest.filterMap select with
  | [] => .ok none
  | [value] => .ok (some value)
  | _ => .error (.continuity ("activation manifest contains duplicate " ++ field))

def names (request? : Mark → Option String) (manifest : List Mark) : Bool := manifest.any fun mark =>
    (request? mark).isSome

def Activation.active (activation : Activation) : Bool :=
  decide (activation.status = .pending ∨ activation.status = .published)

def Activation.live (activation : Activation) : Bool := activation.active || decide (activation.status = .claimed)

@[simp] theorem active_iff (activation : Activation) :
    activation.active = true ↔ activation.status = .pending ∨ activation.status = .published := by
  simp [Activation.active]

@[simp] theorem live_iff (activation : Activation) :
    activation.live = true ↔ activation.active = true ∨ activation.status = .claimed := by
  simp [Activation.live]

theorem require_actor_ok (store : Store) (actorId : String) (actor : Actor)
    (found : requireActor store actorId = .ok actor) : store.actor? actorId = some actor ∧ actor.active = true := by
  rw [requireActor] at found
  cases row : store.actor? actorId with
  | none => simp [row] at found
  | some other =>
      by_cases enabled : other.active = true
      · simp only [row, enabled, if_true, Except.ok.injEq] at found
        exact ⟨congrArg some found, found ▸ enabled⟩
      · simp [row, enabled] at found

theorem require_work_ok (store : Store) (workId : String) (work : Work) (found : requireWork store workId = .ok work) :
    store.work? workId = some work := by
  rw [requireWork] at found
  cases row : store.work? workId with
  | none => simp [row] at found
  | some other =>
      simp only [row, Except.ok.injEq] at found
      exact congrArg some found

end OrchestratorEngine.Continuity
