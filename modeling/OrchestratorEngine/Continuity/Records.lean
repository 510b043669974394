import OrchestratorEngine.Foundation.Dict
import OrchestratorEngine.Foundation.Table
import OrchestratorEngine.Foundation.Transaction

set_option autoImplicit false

namespace OrchestratorEngine.Continuity

inductive WorkMode where
  | continues | waiting | paused | complete
deriving DecidableEq

inductive WaitMode where
  | all | any
deriving DecidableEq

inductive AssignmentMode where
  | continues | waiting | paused
deriving DecidableEq

inductive ObligationStatus where
  | opened | completed | failed | cancelled
deriving DecidableEq

inductive ResponseKind where
  | receipt | progress | terminal
deriving DecidableEq

inductive RequestStatus where
  | deliveryPending | claimed | replyReady | handled | closedNoReply
deriving DecidableEq

inductive ControlState where
  | armed | stopped
deriving DecidableEq

inductive ScopeKind where
  | project | actor | work
deriving DecidableEq

inductive ActivationStatus where
  | pending | published | claimed | revoked
deriving DecidableEq

inductive Reason where
  | obligationAssigned | obligationReminder | requestMessage | requestReply
  | assignmentContinue | assignmentWaitSatisfied | assignmentPausedControl | assignmentRecovery
  | continueCheckpoint | waitSatisfied | ownershipTransferred | workRecovery
deriving DecidableEq

inductive IncidentStatus where
  | queued | waiting | resolved | superseded | stopped | capabilityBlocked | invalid
deriving DecidableEq

inductive IncidentCause where
  | unconfirmedCheckpointOrResponse | unconfirmedReplyHandling | unconfirmedOwnerCheckpoint
deriving DecidableEq

inductive OutboxStatus where
  | pending | published
deriving DecidableEq

inductive DiagnosticStatus where
  | opened | resolved
deriving DecidableEq

inductive SourceKind where
  | obligation | worker | check | ci | pr | workstream
deriving DecidableEq

inductive Error where
  | continuity (message : String)
  | integrity
  | publication (message : String)
  | interrupted
deriving DecidableEq

structure SourceKey where
  kind : SourceKind
  identity : String
deriving DecidableEq

structure Endpoint where
  host : String
  targetThreadId : Option String := none
  codexCommand : Option String := none
deriving DecidableEq

-- A result reference: its text and, when the file could be read, its hash.
structure Reference where
  reference : String
  contentSha256 : Option String := none
deriving DecidableEq

inductive Message where
  | inline (text : String)
  | reference (value : Reference)
deriving DecidableEq

inductive Details where
  | facts (text : String)
  | transport (state : String) (reason : Option String) (artifacts : List (String × String))
  | resolution (resumeActor : String) (activation generation : Nat)
  | response (requestId responseId : String) (content : Message) (resumeActor : String) (activation generation : Nat)
deriving DecidableEq

structure Data where
  resultSha256 : Option String := none
  resultReference : Option Reference := none
  details : Details
deriving DecidableEq

inductive Anchor where
  | result (sha256 : String)
  | reference (value : Reference)
  | event (id : String)
  | data (value : Data)
deriving DecidableEq

-- Digests are kept as the value they are taken of: an outcome is what its
-- identity digests, and so is every other digested name below.
structure Outcome where
  source : SourceKey
  status : String
  identity : Anchor
deriving DecidableEq

inductive Digest where
  | current (outcome : Outcome)
  | legacy (source : SourceKey) (status : String) (data : Data)
deriving DecidableEq

-- An entry of an activation manifest. Activations are named by the sequence
-- number that makes their digested identity unique.
inductive Mark where
  | request (id : String)
  | obligation (id : String)
  | response (id : String)
  | activation (id : Nat)
  | outcome (id : Outcome)
deriving DecidableEq

structure Actor where
  actorId : String
  endpoint : Endpoint
  capabilities : List String
  generation : Nat
  active : Bool
deriving DecidableEq

structure Work where
  workId : String
  ownerActor : String
  mode : WorkMode
  revision : Nat
  controlEpoch : Nat
deriving DecidableEq

structure Obligation where
  obligationId : String
  workId : String
  assigneeActor : String
  resumeActor : String
  required : Bool
  status : ObligationStatus
  resultRef : Option String
  generation : Nat
  claimedAt : Option Int
  claimedActivationId : Option Nat
  claimedGeneration : Option Nat
  reminderSeconds : Int
  maxReminders : Nat
deriving DecidableEq

structure Result where
  outcomeId : Outcome
  sourceKey : SourceKey
  status : String
  eventId : Option String
  digest : Digest
  data : Data
  recordedAt : Int
deriving DecidableEq

structure Wait where
  workId : String
  generation : Nat
  mode : WaitMode
  sources : List SourceKey
  handled : List Outcome
deriving DecidableEq

structure HandledResult where
  workId : String
  outcomeId : Outcome
  sourceKey : SourceKey
  actorId : String
deriving DecidableEq

structure ResultAlias where
  aliasOutcomeId : Outcome
  outcomeId : Outcome
deriving DecidableEq

structure Route where
  actorId : String
  endpointGeneration : Nat
  endpoint : Endpoint
deriving DecidableEq

structure Envelope where
  workId : String
  requestId : String
  senderActor : String
  recipientActor : String
  returnActor : String
  message : Message
  requiresReply : Bool
  required : Bool
  recipientRoute : Route
  returnRoute : Route
deriving DecidableEq

structure Request where
  requestId : String
  idempotencyKey : String
  fingerprint : Envelope
  workId : String
  recipientActor : String
  returnActor : String
  requiresReply : Bool
  recipientRoute : Route
  returnRoute : Route
  obligationId : Option String
  status : RequestStatus
  requestActivationId : Option Nat
  terminalResponseId : Option String
  replyActivationId : Option Nat
deriving DecidableEq

structure Response where
  responseId : String
  requestId : String
  actorId : String
  kind : ResponseKind
  terminalStatus : Option ObligationStatus
  content : Message
deriving DecidableEq

structure AssignmentCheckpoint where
  obligationId : String
  assignmentGeneration : Nat
  revision : Nat
  mode : AssignmentMode
  waitMode : Option WaitMode
  sources : List SourceKey
  handled : List Outcome
deriving DecidableEq

structure AssignmentHandledResult where
  obligationId : String
  outcomeId : Outcome
  sourceKey : SourceKey
  actorId : String
deriving DecidableEq

structure RecoveryPolicy where
  workId : String
  armed : Bool
  intervalSeconds : Int
  maxIntervalSeconds : Int
deriving DecidableEq

structure RecoveryControl where
  scopeKind : ScopeKind
  scopeId : String
  state : ControlState
  reason : String
deriving DecidableEq

inductive IncidentId where
  | assignment (workId obligationId : String) (generation endpointGeneration : Nat) (transition : Int)
  | reply (workId requestId : String) (endpointGeneration : Nat) (source : Option Nat)
  | owner (workId : String) (revision controlEpoch endpointGeneration source : Nat)
deriving DecidableEq

structure RecoveryIncident where
  incidentId : IncidentId
  workId : String
  obligationId : Option String
  actorId : String
  cause : IncidentCause
  status : IncidentStatus
  attempts : Nat
  nextInspectionAt : Int
  activationId : Option Nat
deriving DecidableEq

structure Activation where
  activationId : Nat
  workId : String
  actorId : String
  workRevision : Nat
  controlEpoch : Nat
  endpointGeneration : Nat
  assignmentGeneration : Option Nat
  status : ActivationStatus
  reason : Reason
  manifest : List Mark
  wakeTarget : Endpoint
  notBefore : Option Int
  createdAt : Int
  claimedAt : Option Int
deriving DecidableEq

structure OutboxRow where
  activationId : Nat
  status : OutboxStatus
  attempts : Nat
  lastError : Option String
deriving DecidableEq

inductive Finding where
  | ownerEndpointMissing (workId : String)
  | assigneeEndpointMissing (obligationId : String)
  | requestReplyObligationMissing (requestId : String)
  | requestMessageDeliveryMissing (requestId : String)
  | requestReplyDeliveryMissing (requestId : String)
  | assignmentDependencyCycle (obligationIds : List String)
  | obligationAssignmentDeliveryMissing (workId obligationId : String)
  | waitSourceMissing (workId : String) (sourceKey : SourceKey)
  | waitSourceUnavailable (state workId : String) (sourceKey : SourceKey) (detail : String)
  | terminalSourceUnrecorded (workId : String) (sourceKey : SourceKey) (outcomeId : Outcome)
  | claimedResultUnhandled (workId : String) (activationId : Nat) (outcomeIds : List Mark)
  | satisfiedWaitNotActivated (workId : String)
  | assignmentWaitSourceMissing (obligationId : String) (sourceKey : SourceKey)
  | assignmentWaitSourceUnavailable (state obligationId : String) (sourceKey : SourceKey) (detail : String)
  | assignmentWaitNotActivated (obligationId : String)
  | waitingCheckpointMissing (workId : String)
  | continuationRouteMissing (workId : String)
  | outboxDeliveryFailed (activationId attempts : Nat) (lastError : Option String)
deriving DecidableEq

structure Resolution where
  correction : String
  resolvedBy : String
  resolvedAt : Int
deriving DecidableEq

structure Diagnostic where
  diagnosticId : Finding
  status : DiagnosticStatus
  findingDigest : Finding
  resolution : Option Resolution
deriving DecidableEq

structure ReplyWaitOwner where
  revision : Nat
  controlEpoch : Nat
  endpointGeneration : Nat
  activationId : Nat
deriving DecidableEq

structure Metadata where
  activationSequence : Nat := 0
  defaultRecoveryObservation : Bool := false
  defaultRecoveryIntervalSeconds : Int := 60
  defaultRecoveryMaxIntervalSeconds : Int := 3600
  recoveryCursor : String := ""
  recoveryReplyCursor : String := ""
  recoveryWorkCursor : String := ""
  pendingReplays : Foundation.Dict String (Foundation.Dict Outcome Nat) := Foundation.Dict.empty
  replyWaitOwner : Foundation.Dict String ReplyWaitOwner := Foundation.Dict.empty
deriving DecidableEq

structure Store where
  actors : List Actor := []
  works : List Work := []
  obligations : List Obligation := []
  results : List Result := []
  waits : List Wait := []
  handledResults : List HandledResult := []
  resultAliases : List ResultAlias := []
  requests : List Request := []
  responses : List Response := []
  assignmentCheckpoints : List AssignmentCheckpoint := []
  assignmentHandledResults : List AssignmentHandledResult := []
  recoveryPolicies : List RecoveryPolicy := []
  recoveryControls : List RecoveryControl := []
  recoveryIncidents : List RecoveryIncident := []
  activations : List Activation := []
  outbox : List OutboxRow := []
  diagnostics : List Diagnostic := []
  metadata : Metadata := {}

-- What is known of a source outside the database.
inductive Observation where
  | terminal (status : String) (data : Data)
  | pending
  | missing (descriptorPath : String)
  | invalid (reason : String)
  | unsupported (reason : String)
deriving DecidableEq

inductive Attempt where
  | delivered
  | failed (error : String)
  | interrupted
deriving DecidableEq

-- The surroundings of one call: the clock as it is read at the transition and
-- at each insertion, the retained artifacts, the readable files, the order of
-- digests and source keys as texts, and the fate of each publication.
structure World where
  now : Int
  created : Nat → Int
  recorded : Nat → Int
  retained : SourceKey → Observation
  contentSha256 : String → Option String
  -- The digits of the digest that name the reply obligation of a request.
  requestDigest : String → String
  signalResult : Option String
  signalArtifacts : List (String × String)
  rank : Outcome → Nat
  sourceRank : SourceKey → Nat
  preflight : Except String Unit
  attempt : Nat → Attempt

structure Creation where
  before : Store
  activation : Activation

abbrev Database := Foundation.Session Store Creation

abbrev Transaction (α : Type) := Foundation.Tx Store Creation Error α

end OrchestratorEngine.Continuity
