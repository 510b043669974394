import OrchestratorEngine.Applicability.Declarations

set_option autoImplicit false

namespace OrchestratorEngine.Applicability

open Foundation
open ResourceAdapters (Text Json lit isDigest)

def artifactKind : String := "ORCHESTRATOR_OPERATION_APPLICABILITY"
def engineVersion : String := "1.11.0"

def precedes : Text → Text → Bool
  | _, [] => false
  | [], _ :: _ => true
  | left :: lefts, right :: rights => decide (left < right) || (decide (left = right) && precedes lefts rights)

def ascending : List Text → Bool
  | first :: second :: rest => precedes first second && ascending (second :: rest)
  | _ => true

mutual

def orderly : Json → Bool
  | .int value => decide (value.natAbs ≤ 2 ^ 63)
  | .arr items => orderlyItems items
  | .obj fields => ascending (fields.map Prod.fst) && orderlyFields fields
  | _ => true

def orderlyItems : List Json → Bool
  | [] => true
  | item :: rest => orderly item && orderlyItems rest

def orderlyFields : List (Text × Json) → Bool
  | [] => true
  | (_, item) :: rest => orderly item && orderlyFields rest

end

mutual

def utf8Encodable : Json → Bool
  | .str text => encodable text
  | .arr items => encodableItems items
  | .obj fields => encodableFields fields
  | _ => true

def encodableItems : List Json → Bool
  | [] => true
  | item :: rest => utf8Encodable item && encodableItems rest

def encodableFields : List (Text × Json) → Bool
  | [] => true
  | (name, item) :: rest => encodable name && utf8Encodable item && encodableFields rest

end

structure Tidy (value : Json) : Prop where
  bounded : boundedStructure 0 value = .ok ()
  orderly : orderly value = true

inductive Style where
  | compact
  | indented

-- The json and hashlib modules over the bytes of a file. A value is written with
-- its keys in order, and duplicate keys or constants that are no JSON do not load.
structure Host (β : Type) where
  size : β → Nat
  sha256 : β → Digest
  loads : β → Option Json
  written : Style → Json → β
  reads_back : ∀ style value, Tidy value → loads (written style value) = some value

inductive File (β : Type) where
  | missing
  | irregular (reachable : Bool)
  | unreadable
  | regular (raw : β)

def File.exists? {β : Type} : File β → Bool
  | .missing => false
  | .irregular reachable => reachable
  | _ => true

structure Files (β : Type) where
  input : File β
  artifact : File β

structure Site where
  components : List Text
  projectRoot : Text
  stateRoot : Text
  platform : Text
  node : Text
  pythonVersion : Bounded

structure Source where
  projectId : Text
  sourceNamespace : Digest
  nativeLocationBinding : Digest
deriving DecidableEq

structure Artifact where
  attemptId : Uuid
  capturedAt : Text
  source : Source
  engineVersion : Text
  pythonVersion : Text
  suiteFingerprint : Digest
  inputRawSha256 : Digest
  declarationSha256 : Digest
  declaration : Declaration
  requestFingerprint : Digest

structure Metadata where
  attemptId : Uuid
  artifactSha256 : Digest
  inputRawSha256 : Digest
  declarationSha256 : Digest
  requestFingerprint : Digest
  sourceNamespace : Digest
  nativeLocationBinding : Digest
  suiteFingerprint : Digest
deriving DecidableEq

structure Descriptor where
  applicability : Json
  fingerprint : Json

structure Observation where
  descriptor : Option Descriptor
  terminal : Bool
  sealed : Bool
  unchanged : Bool
  result : Option Json
  evidence : Option Json

structure World (β : Type) where
  files : OperationId → Files β
  contained : OperationId → Bool
  observed : OperationId → Observation

def leap (year : Nat) : Bool := decide (year % 4 = 0 ∧ year % 100 ≠ 0 ∨ year % 400 = 0)

def daysIn (year month : Nat) : Nat :=
  if month = 2 then (if leap year then 29 else 28) else if month = 4 ∨ month = 6 ∨ month = 9 ∨
  month = 11 then 30 else 31

def isMoment (year month day hour minute second : Nat) : Bool :=
  decide (1 ≤ year ∧ year ≤ 9999 ∧ 1 ≤ month ∧ month ≤ 12 ∧ 1 ≤ day ∧ day ≤ daysIn year month ∧ hour <
  24 ∧ minute < 60 ∧
    second < 60)

structure Moment where
  year : Nat
  month : Nat
  day : Nat
  hour : Nat
  minute : Nat
  second : Nat
  millisecond : Nat
  real : isMoment year month day hour minute second = true
  split : millisecond < 1000

def decimal : Nat → Nat → Text
  | 0, _ => []
  | width + 1, value => (48 + value / 10 ^ width % 10) :: decimal width value

def utcNow (now : Moment) : Text :=
  decimal 4 now.year ++ lit "-" ++ decimal 2 now.month ++ lit "-" ++ decimal 2 now.day ++ lit "T" ++
  decimal 2 now.hour ++
    lit ":" ++ decimal 2 now.minute ++ lit ":" ++ decimal 2 now.second ++ lit "." ++
    decimal 3 now.millisecond ++ lit "+00:00"

def number (digits : Text) : Nat := digits.foldl (fun total point => 10 * total + (point - 48)) 0

def isZone (rest : Text) : Bool := decide (rest = lit "Z" ∨ rest = lit "+00:00")

def isFraction : Text → Bool
  | 46 :: rest => decide (rest.takeWhile isDigit ≠ []) && isZone (rest.dropWhile isDigit)
  | rest => isZone rest

def isUtcTime : Text → Bool
  | y :: e :: a :: r :: 45 :: m :: o :: 45 :: d :: f :: 84 :: h :: g :: 58 :: n :: t :: 58 :: s :: c :: rest =>
      [y, e, a, r, m, o, d, f, h, g, n, t, s, c].all isDigit && isFraction rest &&
        isMoment (number [y, e, a, r]) (number [m, o]) (number [d, f]) (number [h, g]) (number [n, t]) (number [s, c])
  | _ => false

def utcTime (value : Json) (field : String) : Except Fault Text := do
  let text ← boundedText value field
  refuse (40 < text.length ∨ isUtcTime text = false) (.refused (field ++ " must be a UTC timestamp"))
  return text

section Reading

variable {β : Type} (host : Host β) (site : Site)

def secureRead (path : String) (contained : Bool) (file : File β) : Except Fault β := do
  refuse (contained = false) (.refused "applicability path escapes the state root")
  match file with
  | .missing => .error (.refused ("applicability input is missing: " ++ path))
  | .irregular _ => .error (.refused "applicability input must be a regular file")
  | .unreadable => .error (.refused ("applicability input is unreadable: " ++ path))
  | .regular raw => do
      refuse (maxInputBytes < host.size raw) (.refused "applicability input exceeds the size limit")
      return raw

def parseJson (raw : β) : Except Fault Json :=
  match host.loads raw with
  | none => .error (.refused "applicability input is not strict UTF-8 JSON")
  | some value => do
      boundedStructure 0 value
      return value

def digest (value : Json) : Except Fault Digest := do
  refuse (utf8Encodable value = false) .unicodeError
  return host.sha256 (host.written .compact value)

def readDeclaration (path : String) (file : File β) : Except Fault (β × Declaration × Digest) := do
  let raw ← secureRead host path true file
  let declaration ← normalizeDeclaration (← parseJson host raw)
  let sha ← digest host declaration.json
  return (raw, declaration, sha)

def projectId : Text := site.components.getLastD []

def namespacePayload : Json :=
  .obj [(lit "domain", .str (lit "orchestrator-engine/native-source/v1")), (lit "host", .str site.node),
    (lit "platform", .str site.platform)]

def locationPayload : Json :=
  .obj [(lit "domain", .str (lit "orchestrator-engine/native-location/v1")), (lit "project_id", .str (projectId site)),
    (lit "project_root", .str site.projectRoot), (lit "state_root", .str site.stateRoot)]

def sourceBinding : Except Fault Source := do
  let sourceNamespace ← digest host (namespacePayload site)
  let nativeLocationBinding ← digest host (locationPayload site)
  return { projectId := projectId site, sourceNamespace, nativeLocationBinding }

def Source.json (source : Source) : Json :=
  .obj [(lit "binding_version", .int 1), (lit "native_location_binding", source.nativeLocationBinding.json),
    (lit "project_id", .str source.projectId), (lit "source_namespace", source.sourceNamespace.json)]

def readSource (value : Json) : Except Fault Source :=
  match value with
  | .obj fields => do
      refuse (Json.hasFields ["binding_version", "project_id", "source_namespace", "native_location_binding"]
        fields = false ∨
          isVersionOne (Json.item "binding_version" fields) = false)
        (.refused "applicability source binding is invalid")
      let projectId ← boundedText (Json.item "project_id" fields) "source.project_id"
      let sourceNamespace ← matching isDigest (Json.item "source_namespace" fields)
        (.refused "applicability source binding is invalid")
      let nativeLocationBinding ← matching isDigest (Json.item "native_location_binding" fields)
        (.refused "applicability source binding is invalid")
      return { projectId, sourceNamespace, nativeLocationBinding }
  | _ => .error (.refused "applicability source binding is invalid")

def readProducer (value : Json) : Except Fault (Text × Text) :=
  match value with
  | .obj fields => do
      refuse (Json.hasFields ["engine_version", "python_version"] fields = false)
        (.refused "applicability producer runtime is invalid")
      let engine ← boundedText (Json.item "engine_version" fields) "producer.engine_version"
      let python ← boundedText (Json.item "python_version" fields) "producer.python_version"
      return (engine, python)
  | _ => .error (.refused "applicability producer runtime is invalid")

def assuranceJson : Json :=
  .obj [(lit "criteria_fulfillment", .str (lit "unknown")), (lit "declaration_binding", .str (lit "retained")),
    (lit "executed_candidate", .str (lit "unknown"))]

def isAssurance : Json → Bool
  | .obj fields =>
      Json.hasFields ["declaration_binding", "executed_candidate", "criteria_fulfillment"] fields &&
        (Json.item "declaration_binding" fields).isText (lit "retained") &&
        (Json.item "executed_candidate" fields).isText (lit "unknown") &&
        (Json.item "criteria_fulfillment" fields).isText (lit "unknown")
  | _ => false

def requestPayload (declarationSha256 : Digest) (retryOf : Option Retry) (suiteFingerprint : Digest) (source : Source) :
    Json :=
  .obj [(lit "declaration_sha256", declarationSha256.json), (lit "retry_of", retryJson retryOf),
    (lit "source", source.json), (lit "suite_fingerprint", suiteFingerprint.json)]

def Artifact.json (operationId : OperationId) (artifact : Artifact) : Json :=
  .obj [(lit "applicability_version", .int 1), (lit "assurance", assuranceJson),
    (lit "attempt_id", artifact.attemptId.json), (lit "captured_at", .str artifact.capturedAt),
    (lit "declaration", artifact.declaration.json), (lit "declaration_sha256", artifact.declarationSha256.json),
    (lit "input_raw_sha256", artifact.inputRawSha256.json), (lit "kind", .str (lit artifactKind)),
    (lit "operation_id", operationId.json), (lit "operation_kind", .str (lit "check")),
    (lit "producer", .obj [(lit "engine_version", .str artifact.engineVersion),
      (lit "python_version", .str artifact.pythonVersion)]),
    (lit "request_fingerprint", artifact.requestFingerprint.json),
      (lit "retry_of", retryJson artifact.declaration.retryOf),
    (lit "schema_version", .int 1), (lit "source", artifact.source.json),
    (lit "suite_fingerprint", artifact.suiteFingerprint.json)]

def digestField (name : String) (fields : List (Text × Json)) : Except Fault Digest :=
  matching isDigest (Json.item name fields) (.refused "applicability digest field is invalid")

def retryAgrees (value : Json) (expected : Option Retry) : Bool :=
  match retry value with
  | .ok found => decide (found = expected)
  | .error _ => false

def readArtifact (operationId : OperationId) (requireCurrentSource : Bool) (value : Json) : Except Fault Artifact :=
  match value with
  | .obj fields => do
      refuse (Json.hasFields ["schema_version", "kind", "applicability_version", "attempt_id", "captured_at",
          "operation_kind", "operation_id", "source", "producer", "suite_fingerprint", "input_raw_sha256",
          "declaration_sha256", "declaration", "retry_of", "request_fingerprint", "assurance"] fields = false)
        (.refused "unsupported applicability artifact fields")
      refuse (isVersionOne (Json.item "schema_version" fields) = false ∨
          (Json.item "kind" fields).isText (lit artifactKind) = false ∨
          isVersionOne (Json.item "applicability_version" fields) = false)
        (.refused "unsupported applicability artifact version")
      refuse (isCheck (Json.item "operation_kind" fields) = false ∨
          (Json.item "operation_id" fields).isText operationId.text = false)
        (.refused "applicability operation identity mismatch")
      let attemptId ← matching isUuid (Json.item "attempt_id" fields)
        (.refused "applicability attempt identity is invalid")
      let capturedAt ← utcTime (Json.item "captured_at" fields) "captured_at"
      let declaration ← normalizeDeclaration (Json.item "declaration" fields)
      refuse (retryAgrees (Json.item "retry_of" fields) declaration.retryOf = false)
        (.refused "applicability retry binding mismatch")
      let retained ← readSource (Json.item "source" fields)
      let source ← sourceBinding host site
      refuse (requireCurrentSource = true ∧ retained ≠ source)
        (.refused "applicability native location binding mismatch")
      let producer ← readProducer (Json.item "producer" fields)
      refuse (isAssurance (Json.item "assurance" fields) = false) (.refused "applicability assurance state is invalid")
      let suiteFingerprint ← digestField "suite_fingerprint" fields
      let inputRawSha256 ← digestField "input_raw_sha256" fields
      let declarationSha256 ← digestField "declaration_sha256" fields
      let requestFingerprint ← digestField "request_fingerprint" fields
      return {
        attemptId, capturedAt, source := retained, engineVersion := producer.1, pythonVersion := producer.2
        suiteFingerprint, inputRawSha256, declarationSha256, declaration, requestFingerprint }
  | _ => .error (.refused "unsupported applicability artifact fields")

def checkInput (artifact : Artifact) (rawInput : β) : Except Fault Unit := do
  refuse (artifact.inputRawSha256 ≠ host.sha256 rawInput) (.refused "retained applicability input digest mismatch")
  let parsed ← normalizeDeclaration (← parseJson host rawInput)
  let declarationSha256 ← digest host artifact.declaration.json
  refuse (parsed ≠ artifact.declaration ∨ artifact.declarationSha256 ≠ declarationSha256)
    (.refused "retained applicability declaration mismatch")
  let expected ← digest host (requestPayload artifact.declarationSha256 artifact.declaration.retryOf
    artifact.suiteFingerprint artifact.source)
  refuse (artifact.requestFingerprint ≠ expected) (.refused "applicability request fingerprint mismatch")

def metadataFromRaw (artifact : Artifact) (rawArtifact : β) : Metadata where
  attemptId := artifact.attemptId
  artifactSha256 := host.sha256 rawArtifact
  inputRawSha256 := artifact.inputRawSha256
  declarationSha256 := artifact.declarationSha256
  requestFingerprint := artifact.requestFingerprint
  sourceNamespace := artifact.source.sourceNamespace
  nativeLocationBinding := artifact.source.nativeLocationBinding
  suiteFingerprint := artifact.suiteFingerprint

def Metadata.json (metadata : Metadata) : Json :=
  .obj [(lit "artifact_path", .str (lit "applicability.json")), (lit "artifact_sha256", metadata.artifactSha256.json),
    (lit "attempt_id", metadata.attemptId.json), (lit "declaration_sha256", metadata.declarationSha256.json),
    (lit "input_path", .str (lit "applicability-input.json")), (lit "input_raw_sha256", metadata.inputRawSha256.json),
    (lit "native_location_binding", metadata.nativeLocationBinding.json), (lit "producer_version", .int 1),
    (lit "request_fingerprint", metadata.requestFingerprint.json),
    (lit "source_namespace", metadata.sourceNamespace.json), (lit "suite_fingerprint", metadata.suiteFingerprint.json)]

def readMetadata (value : Json) (fault : Fault) : Except Fault Metadata :=
  match value with
  | .obj fields => do
      refuse (Json.hasFields ["producer_version", "attempt_id", "artifact_path", "artifact_sha256", "input_path",
          "input_raw_sha256", "declaration_sha256", "request_fingerprint", "source_namespace",
          "native_location_binding",
          "suite_fingerprint"] fields = false ∨ isVersionOne (Json.item "producer_version" fields) = false) fault
      let attemptId ← matching isUuid (Json.item "attempt_id" fields) fault
      refuse ((Json.item "artifact_path" fields).isText (lit "applicability.json") = false ∨
        (Json.item "input_path" fields).isText (lit "applicability-input.json") = false) fault
      let artifactSha256 ← matching isDigest (Json.item "artifact_sha256" fields) fault
      let inputRawSha256 ← matching isDigest (Json.item "input_raw_sha256" fields) fault
      let declarationSha256 ← matching isDigest (Json.item "declaration_sha256" fields) fault
      let requestFingerprint ← matching isDigest (Json.item "request_fingerprint" fields) fault
      let sourceNamespace ← matching isDigest (Json.item "source_namespace" fields) fault
      let nativeLocationBinding ← matching isDigest (Json.item "native_location_binding" fields) fault
      let suiteFingerprint ← matching isDigest (Json.item "suite_fingerprint" fields) fault
      return {
        attemptId, artifactSha256, inputRawSha256, declarationSha256, requestFingerprint, sourceNamespace
        nativeLocationBinding, suiteFingerprint }
  | _ => .error fault

def checkDescriptor (artifact : Artifact) (rawArtifact : β) : Option Descriptor → Except Fault Unit
  | none => .ok ()
  | some descriptor => do
      let metadata ← readMetadata descriptor.applicability (.refused "descriptor applicability metadata is invalid")
      refuse (metadata ≠ metadataFromRaw host artifact rawArtifact)
        (.refused "descriptor applicability binding mismatch")
      refuse (descriptor.fingerprint.isText artifact.suiteFingerprint.text = false)
        (.refused "applicability suite fingerprint mismatch")

def artifactName : String := "applicability.json"
def inputName : String := "applicability-input.json"

def validateArtifact (world : World β) (operationId : OperationId) (descriptor : Option Descriptor)
    (requireCurrentSource : Bool) (verify : Declaration → Source → Except Fault (Option Retry)) :
    Except Fault Artifact := do
  let rawInput ← secureRead host inputName (world.contained operationId) (world.files operationId).input
  let rawArtifact ← secureRead host artifactName (world.contained operationId) (world.files operationId).artifact
  let artifact ← readArtifact host site operationId requireCurrentSource (← parseJson host rawArtifact)
  checkInput host artifact rawInput
  let verified ← verify artifact.declaration artifact.source
  refuse (verified ≠ artifact.declaration.retryOf) (.refused "applicability retry graph mismatch")
  checkDescriptor host artifact rawArtifact descriptor
  return artifact

end Reading

end OrchestratorEngine.Applicability
