import OrchestratorEngine.Continuity.Recovery

set_option autoImplicit false

namespace OrchestratorEngine.Continuity

open Foundation

def stringList (values : List String) (field : String) (countLimit itemLimit : Nat) : Except Error (List String) := do
  refuse (countLimit < values.length)
    (.continuity (field ++ " may contain at most " ++ toString countLimit ++ " items"))
  values.mapM fun item => text item (field ++ " item") itemLimit

structure Registration where
  actorId : String
  role : String
  host : String
  targetThreadId : Option String := none
  codexCommand : Option String := none
  capabilities : List String := []

def codexLauncher (registration : Registration) : Except Error (Option String) :=
  match registration.codexCommand with
  | none => .ok none
  | some command =>
      if registration.host ≠ "codex" then
        .error (.continuity "codex_command is valid only for a Codex endpoint")
      else return some (← text command "codex_command" 4096)

def Registration.admitted (registration : Registration) (world : World) : Except Error (Endpoint × List String) := do
  checkId registration.actorId "actor_id"
  let _ ← text registration.role "role" 128
  let capabilities ← stringList registration.capabilities "capabilities" 64 128
  let _ ← registration.targetThreadId.toList.mapM fun id => checkId id "target_thread_id"
  let codexCommand ← codexLauncher registration
  match forHost registration.host with
  | none => .error (.continuity ("binding has unsupported host: " ++ registration.host))
  | some capability => do
      refuse (registration.host = "codex" ∧ registration.targetThreadId = none)
        (.continuity "binding for host codex is missing target_thread_id")
      refuse (capability.endpointAddressability ≠ "exact")
        (.continuity ("host " ++ registration.host ++ " does not provide exact multi-chat addressability"))
      match world.preflight with
      | .error message => .error (.continuity message)
      | .ok _ => return (⟨registration.host, registration.targetThreadId, codexCommand⟩, capabilities)

def putActor (actor : Actor) (store : Store) : Store := { store with actors := put Actor.actorId actor store.actors }

def supersedeIncidents (actorId : String) (store : Store) : Store :=
  { store with recoveryIncidents := store.recoveryIncidents.map fun incident =>
    if incident.actorId = actorId ∧ incident.status ≠ .resolved ∧ incident.status ≠ .superseded then
      { incident with status := .superseded }
    else incident }

def amendObligation (obligationId : String) (change : Obligation → Obligation) (store : Store) : Store :=
  { store with obligations := store.obligations.map fun obligation =>
    if obligation.obligationId = obligationId then change obligation else obligation }

def Obligation.renewed (obligation : Obligation) : Obligation :=
  { obligation with
    generation := obligation.generation + 1
    claimedAt := none
    claimedActivationId := none
    claimedGeneration := none }

def stampCheckpoint (obligationId : String) (generation : Nat) (store : Store) : Store :=
  { store with assignmentCheckpoints := store.assignmentCheckpoints.map fun row =>
    if row.obligationId = obligationId then { row with assignmentGeneration := generation } else row }

def rebindObligation (world : World) (obligation : Obligation) : Transaction Unit := do
  Tx.edit (amendObligation obligation.obligationId Obligation.renewed)
  match ← Tx.ask fun store => store.obligation? obligation.obligationId with
  | none => Tx.raise .integrity
  | some current => do
      let work ← Tx.read fun store => requireWork store obligation.workId
      let request ← Tx.ask fun store => store.linkedRequest? obligation.obligationId
      let assignment ← Tx.ask fun store => store.checkpoint? obligation.obligationId
      Tx.edit (stampCheckpoint obligation.obligationId current.generation)
      let _ ← rearmObligationRoute world work current request assignment

def rebindReply (world : World) (request : Request) : Transaction Unit := do
  let work ← Tx.read fun store => requireWork store request.workId
  let stopped ← Tx.ask fun store => effectiveExplicitStop store work.workId request.returnActor
  if stopped ≠ none then return ()
  else do
    let created ← createActivation world work request.returnActor .requestReply
      [.request request.requestId, .response (request.terminalResponseId.getD "None")] none none
    Tx.edit (amendRequest request.requestId (pointReply created))

def rebindWork (world : World) (work : Work) : Transaction Unit := do
  let stopped ← Tx.ask fun store => effectiveExplicitStop store work.workId work.ownerActor
  if stopped ≠ none then return ()
  else if work.mode = .continues then do
    let _ ← createActivation world work work.ownerActor .continueCheckpoint [] none none
  else if work.mode = .waiting then do
    let _ ← evaluateWait world work.workId
  else return ()

def revokeActor (actorId : String) (store : Store) : Store :=
  store.revokeWhere fun activation => decide (activation.actorId = actorId)

def reissue (world : World) (actorId : String) : Transaction Unit := do
  let obligations ← Tx.ask fun store => store.obligations.filter fun obligation =>
    decide (obligation.assigneeActor = actorId ∧ obligation.status = .opened)
  Tx.each (rebindObligation world) obligations
  let requests ← Tx.ask fun store => store.requests.filter fun request =>
    decide (request.returnActor = actorId ∧ request.status = .replyReady)
  Tx.each (rebindReply world) requests
  let works ← Tx.ask fun store => store.works.filter fun work =>
    decide (work.ownerActor = actorId ∧ work.mode ≠ .complete)
  Tx.each (rebindWork world) works

def registerActor (world : World) (registration : Registration) : Transaction Unit := do
  let (endpoint, capabilities) ← Tx.lift (registration.admitted world)
  match ← Tx.ask fun store => store.actor? registration.actorId with
  | none => Tx.edit (putActor ⟨registration.actorId, endpoint, capabilities, 1, true⟩)
  | some existing =>
      if existing.endpoint = endpoint then
        Tx.edit (putActor ⟨registration.actorId, endpoint, capabilities, existing.generation, true⟩)
      else do
        Tx.edit (revokeActor registration.actorId)
        Tx.edit (supersedeIncidents registration.actorId)
        Tx.edit (putActor ⟨registration.actorId, endpoint, capabilities, existing.generation + 1, true⟩)
        reissue world registration.actorId

structure Beginning where
  workId : String
  ownerActor : String
  objective : String
  references : List String := []

def insertWork (beginning : Beginning) (store : Store) : Store :=
  { store with works := store.works ++ [⟨beginning.workId, beginning.ownerActor, .paused, 1, 1⟩] }

def armByDefault (workId : String) (store : Store) : Store :=
  if store.metadata.defaultRecoveryObservation then
    { store with recoveryPolicies := store.recoveryPolicies ++
      [⟨workId, true, store.metadata.defaultRecoveryIntervalSeconds,
        store.metadata.defaultRecoveryMaxIntervalSeconds⟩] }
  else store

def startWork (beginning : Beginning) : Transaction Unit := do
  Tx.lift (checkId beginning.workId "work_id")
  Tx.lift (checkId beginning.ownerActor "owner_actor")
  let _ ← Tx.lift (text beginning.objective "objective" 4000)
  let _ ← Tx.lift (stringList beginning.references "references" 64 1024)
  let _ ← Tx.read fun store => requireActor store beginning.ownerActor
  let existing ← Tx.ask fun store => store.work? beginning.workId
  Tx.require (existing ≠ none) (.continuity ("work already exists: " ++ beginning.workId))
  Tx.edit (insertWork beginning)
  Tx.edit (armByDefault beginning.workId)

def resolveDiagnostic (world : World) (diagnosticId : Finding) (actorId correction : String) : Transaction Unit := do
  Tx.lift (checkId actorId "actor_id")
  let correction ← Tx.lift (text correction "diagnostic correction" 2000)
  let _ ← Tx.read fun store => requireActor store actorId
  let existing ← Tx.ask fun store => store.diagnostic? diagnosticId
  Tx.require (existing = none) (.continuity "unknown diagnostic")
  let resolution : Resolution := ⟨correction, actorId, world.now⟩
  Tx.edit fun store => { store with diagnostics := store.diagnostics.map fun row =>
    if row.diagnosticId = diagnosticId then { row with status := .resolved, resolution := some resolution } else row }

def checkReminders (reminderSeconds : Int) (maxReminders : Nat) : Except Error Unit := do
  refuse (reminderSeconds < 10 ∨ 86400 < reminderSeconds)
    (.continuity "reminder_seconds must be between 10 and 86400")
  refuse (10 < maxReminders) (.continuity "max_reminders must be between 0 and 10")

structure Opening where
  workId : String
  obligationId : String
  requesterActor : String
  assigneeActor : String
  resumeActor : String
  summary : String
  required : Bool := true
  reminderSeconds : Int := 600
  maxReminders : Nat := 2

def Opening.obligation (opening : Opening) : Obligation where
  obligationId := opening.obligationId
  workId := opening.workId
  assigneeActor := opening.assigneeActor
  resumeActor := opening.resumeActor
  required := opening.required
  status := .opened
  resultRef := none
  generation := 1
  claimedAt := none
  claimedActivationId := none
  claimedGeneration := none
  reminderSeconds := opening.reminderSeconds
  maxReminders := opening.maxReminders

def insertObligation (obligation : Obligation) (store : Store) : Store :=
  { store with obligations := store.obligations ++ [obligation] }

def Opening.check (opening : Opening) : Except Error Unit := do
  checkId opening.workId "work_id"
  checkId opening.obligationId "obligation_id"
  checkId opening.requesterActor "requester_actor"
  checkId opening.assigneeActor "assignee_actor"
  checkId opening.resumeActor "resume_actor"
  let _ ← text opening.summary "summary" 2000
  checkReminders opening.reminderSeconds opening.maxReminders

def openObligation (world : World) (opening : Opening) : Transaction (Option Nat) := do
  Tx.lift opening.check
  let work ← Tx.read fun store => requireWork store opening.workId
  Tx.lift (assertMutableWork work)
  let _ ← Tx.read fun store => requireActor store opening.requesterActor
  let _ ← Tx.read fun store => requireActor store opening.assigneeActor
  let _ ← Tx.read fun store => requireActor store opening.resumeActor
  Tx.require (work.ownerActor ≠ opening.requesterActor)
    (.continuity "only the current work owner may open an obligation")
  Tx.require (opening.resumeActor ≠ work.ownerActor) (.continuity "resume actor must be the current work owner")
  let existing ← Tx.ask fun store => store.obligation? opening.obligationId
  Tx.require (existing ≠ none) (.continuity ("obligation already exists: " ++ opening.obligationId))
  Tx.edit (insertObligation opening.obligation)
  scheduleObligationActivations world work opening.assigneeActor opening.obligation

def resultReference (world : World) (value : String) : Reference := ⟨value, world.contentSha256 value⟩

def messageValue (world : World) (message messageRef : Option String) : Except Error Message :=
  match message, messageRef with
  | some inline, none => return .inline (← text inline "message" 12000)
  | none, some reference => return .reference (resultReference world (← text reference "message_ref" 4096))
  | _, _ => .error (.continuity "provide exactly one inline message or message reference")

def actorRoute (actor : Actor) : Route := ⟨actor.actorId, actor.generation, actor.endpoint⟩

structure Sending where
  workId : String
  requestId : String
  idempotencyKey : String
  senderActor : String
  recipientActor : String
  returnActor : String
  message : Option String := none
  messageRef : Option String := none
  requiresReply : Bool := false
  required : Bool := false
  reminderSeconds : Int := 600
  maxReminders : Nat := 2

def Sending.check (sending : Sending) (world : World) : Except Error Message := do
  checkId sending.workId "work_id"
  checkId sending.requestId "request_id"
  checkId sending.idempotencyKey "idempotency_key"
  checkId sending.senderActor "sender_actor"
  checkId sending.recipientActor "recipient_actor"
  checkId sending.returnActor "return_actor"
  refuse (sending.required = true ∧ sending.requiresReply = false)
    (.continuity "required is valid only when requires_reply is true")
  checkReminders sending.reminderSeconds sending.maxReminders
  messageValue world sending.message sending.messageRef

def Sending.envelope (sending : Sending) (message : Message) (recipientRoute returnRoute : Route) : Envelope where
  workId := sending.workId
  requestId := sending.requestId
  senderActor := sending.senderActor
  recipientActor := sending.recipientActor
  returnActor := sending.returnActor
  message
  requiresReply := sending.requiresReply
  required := sending.required
  recipientRoute
  returnRoute

def Sending.obligationId (sending : Sending) (world : World) : Option String :=
  if sending.requiresReply then some ("reply-" ++ world.requestDigest sending.requestId) else none

def Sending.obligation (sending : Sending) (obligationId : String) : Obligation where
  obligationId
  workId := sending.workId
  assigneeActor := sending.recipientActor
  resumeActor := sending.returnActor
  required := sending.required
  status := .opened
  resultRef := none
  generation := 1
  claimedAt := none
  claimedActivationId := none
  claimedGeneration := none
  reminderSeconds := sending.reminderSeconds
  maxReminders := sending.maxReminders

def Sending.request (sending : Sending) (world : World) (envelope : Envelope) : Request where
  requestId := sending.requestId
  idempotencyKey := sending.idempotencyKey
  fingerprint := envelope
  workId := sending.workId
  recipientActor := sending.recipientActor
  returnActor := sending.returnActor
  requiresReply := sending.requiresReply
  recipientRoute := envelope.recipientRoute
  returnRoute := envelope.returnRoute
  obligationId := sending.obligationId world
  status := .deliveryPending
  requestActivationId := none
  terminalResponseId := none
  replyActivationId := none

def insertRequest (request : Request) (obligation : Option Obligation) (store : Store) : Store :=
  { store with
    obligations := store.obligations ++ obligation.toList
    requests := store.requests ++ [request] }

def sendActivations (world : World) (work : Work) (sending : Sending) : Transaction Unit := do
  let stopped ← Tx.ask fun store => effectiveExplicitStop store work.workId sending.recipientActor
  if stopped ≠ none then return ()
  else do
    let manifest := Mark.request sending.requestId :: (sending.obligationId world).toList.map .obligation
    let created ← createActivation world work sending.recipientActor .requestMessage manifest none
      ((sending.obligationId world).map fun _ => 1)
    Tx.edit (amendRequest sending.requestId (pointRequest created))
    if sending.requiresReply then
      Tx.each (createReminder world work sending.recipientActor manifest 1 sending.reminderSeconds)
        (List.range sending.maxReminders)
    else return ()

def requestSend (world : World) (sending : Sending) : Transaction Bool := do
  let message ← Tx.lift (sending.check world)
  let work ← Tx.read fun store => requireWork store sending.workId
  let _ ← Tx.read fun store => requireActor store sending.senderActor
  let recipient ← Tx.read fun store => requireActor store sending.recipientActor
  let returning ← Tx.read fun store => requireActor store sending.returnActor
  let existing ← Tx.ask fun store => store.requests.find? fun request =>
    decide (request.idempotencyKey = sending.idempotencyKey ∨ request.requestId = sending.requestId)
  match existing with
  | some old => do
      Tx.require (old.idempotencyKey ≠ sending.idempotencyKey ∨ old.requestId ≠ sending.requestId ∨
        old.fingerprint ≠ sending.envelope message old.recipientRoute old.returnRoute)
        (.continuity "request idempotency identity conflicts")
      return true
  | none => do
      Tx.lift (assertMutableWork work)
      let taken ← Tx.ask fun store => (sending.obligationId world).bind store.obligation?
      Tx.require (taken ≠ none) .integrity
      let envelope := sending.envelope message (actorRoute recipient) (actorRoute returning)
      Tx.edit (insertRequest (sending.request world envelope) ((sending.obligationId world).map sending.obligation))
      sendActivations world work sending
      return false

structure Responding where
  requestId : String
  responseId : String
  actorId : String
  activationId : Nat
  kind : ResponseKind
  content : Option String := none
  contentRef : Option String := none
  terminalStatus : Option ObligationStatus := none

def Responding.check (responding : Responding) (world : World) : Except Error Message := do
  checkId responding.requestId "request_id"
  checkId responding.responseId "response_id"
  checkId responding.actorId "actor_id"
  refuse (responding.kind = .terminal ∧ (responding.terminalStatus = none ∨ responding.terminalStatus = some .opened))
    (.continuity "terminal response requires completed, failed or cancelled status")
  refuse (responding.kind ≠ .terminal ∧ responding.terminalStatus ≠ none)
    (.continuity "terminal_status is valid only for terminal responses")
  messageValue world responding.content responding.contentRef

def Responding.response (responding : Responding) (content : Message) : Response where
  responseId := responding.responseId
  requestId := responding.requestId
  actorId := responding.actorId
  kind := responding.kind
  terminalStatus := responding.terminalStatus
  content

def Message.referenceText : Message → String
  | .inline text => "inline:sha256:" ++ text
  | .reference value => value.reference

def Obligation.settled (obligation : Obligation) (status : ObligationStatus) (resultRef : String) : Obligation :=
  { obligation with status, resultRef := some resultRef }

def resolveIncidents (obligationId : String) (store : Store) : Store :=
  { store with recoveryIncidents := store.recoveryIncidents.map fun incident =>
    if incident.obligationId = some obligationId ∧ incident.status ≠ .resolved then
      { incident with status := .resolved }
    else incident }

def insertResponse (response : Response) (store : Store) : Store :=
  { store with responses := store.responses ++ [response] }

def replyReady (responseId : String) (reply : Option Nat) (request : Request) : Request :=
  { request with status := .replyReady, terminalResponseId := some responseId, replyActivationId := reply }

def createReply (world : World) (work : Work) (request : Request) (responseId : String) (outcome : Outcome) :
    Transaction (Option Nat) := do
  let stopped ← Tx.ask fun store => effectiveExplicitStop store work.workId request.returnActor
  if stopped ≠ none then return none
  else do
    let created ← createActivation world work request.returnActor .requestReply
      [.request request.requestId, .response responseId, .outcome outcome] none none
    return some created

-- The terminal branch of a response: the obligation is settled, its result is
-- recorded and the reply is routed to the return actor.
def respondTerminally (world : World) (request : Request) (obligation : Obligation) (responding : Responding)
    (content : Message) (status : ObligationStatus) : Transaction Unit := do
  Tx.edit (amendObligation obligation.obligationId fun row => row.settled status content.referenceText)
  Tx.edit (revokeRequestActivations responding.requestId responding.actorId)
  let (_, outcome) ← recordResult world (obligationSource obligation.obligationId) status.text none
    { details := .response responding.requestId responding.responseId content request.returnActor
        responding.activationId obligation.generation }
  let work ← Tx.read fun store => requireWork store request.workId
  let reply ← createReply world work request responding.responseId outcome
  Tx.edit (amendRequest responding.requestId (replyReady responding.responseId reply))
  Tx.edit (resolveIncidents obligation.obligationId)
  let _ ← evaluateWait world request.workId

def markClaimed (request : Request) : Request := { request with status := .claimed }

def requestRespond (world : World) (responding : Responding) : Transaction Bool := do
  let content ← Tx.lift (responding.check world)
  match ← Tx.ask fun store => store.request? responding.requestId with
  | none => Tx.raise (.continuity ("unknown request: " ++ responding.requestId))
  | some request => do
      match ← Tx.ask fun store => store.response? responding.responseId with
      | some existing => do
          Tx.require (existing ≠ responding.response content) (.continuity "response identity conflicts")
          return true
      | none => do
          Tx.require (request.requiresReply = false) (.continuity "informational request does not accept responses")
          Tx.require (request.recipientActor ≠ responding.actorId)
            (.continuity "only the request recipient may respond")
          Tx.require (request.terminalResponseId ≠ none) (.continuity "request already has a terminal response")
          match ← Tx.ask fun store => request.obligationId.bind store.obligation? with
          | none => Tx.raise (.continuity "reply obligation is no longer open")
          | some obligation => do
              Tx.require (obligation.status ≠ .opened) (.continuity "reply obligation is no longer open")
              Tx.read fun store =>
                assertCurrentAssignmentClaim store obligation responding.actorId responding.activationId
              Tx.edit (insertResponse (responding.response content))
              match responding.kind, responding.terminalStatus with
              | .terminal, some status => respondTerminally world request obligation responding content status
              | _, _ => Tx.edit (amendRequest responding.requestId markClaimed)
              return false

def markHandled (request : Request) : Request := { request with status := .handled }

def Store.manifestNames (store : Store) (activationId : Option Nat) (marker : Mark) : Bool :=
  (activationId.bind store.activation?).any fun activation => decide (marker ∈ activation.manifest)

def resolveRecoveryIncidentsForManifest (marker : Mark) (cause : IncidentCause) (store : Store) : Store :=
  { store with recoveryIncidents := store.recoveryIncidents.map fun incident =>
    if incident.cause = cause ∧ incident.status ≠ .resolved ∧
        store.manifestNames incident.activationId marker = true then
      { incident with status := .resolved }
    else incident }

def replyClaim (store : Store) (request : Request) (actor : Actor) (activationId : Nat) : Bool :=
  (store.activation? activationId).any fun activation =>
    decide (activation.status = .claimed ∧ activation.actorId = actor.actorId ∧ activation.reason = .requestReply ∧
      request.replyActivationId = some activationId ∧ activation.endpointGeneration = actor.generation ∧
      Mark.request request.requestId ∈ activation.manifest)

def requestHandle (requestId actorId : String) (activationId : Nat) : Transaction Bool := do
  Tx.lift (checkId requestId "request_id")
  Tx.lift (checkId actorId "actor_id")
  match ← Tx.ask fun store => store.request? requestId with
  | none => Tx.raise (.continuity ("unknown request: " ++ requestId))
  | some request => do
      Tx.require (request.returnActor ≠ actorId)
        (.continuity "only the pinned return actor may handle the reply")
      if request.status = .handled then return true
      else do
        Tx.require (request.status ≠ .replyReady) (.continuity "terminal reply is not ready for handling")
        let actor ← Tx.read fun store => requireActor store actorId
        let claimed ← Tx.ask fun store => replyClaim store request actor activationId
        Tx.require (claimed = false) (.continuity "request reply requires its current claimed activation")
        Tx.edit (amendRequest requestId markHandled)
        Tx.edit (revokeManifestActivations (.request requestId) [.workRecovery])
        Tx.edit (resolveRecoveryIncidentsForManifest (.request requestId) .unconfirmedReplyHandling)
        return false

end OrchestratorEngine.Continuity
