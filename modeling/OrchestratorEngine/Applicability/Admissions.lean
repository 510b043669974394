import OrchestratorEngine.Applicability.Artifacts

set_option autoImplicit false

namespace OrchestratorEngine.Applicability

open Foundation
open ResourceAdapters (Text Json lit isDigest)

section Admitting

variable {β : Type} (host : Host β) (site : Site)

def noMetadata : Fault := .refused "retry predecessor applicability binding is invalid"

-- "metadata_matches(terminal.get('applicability'), metadata)"
def terminalBinding (metadata : Metadata) (terminal : Option Json) : Except Fault Unit :=
  match terminal with
  | none => .error (.refused "retry predecessor terminal binding is missing")
  | some value =>
      match readMetadata value noMetadata with
      | .ok copied => refuse (copied ≠ metadata) (.refused "retry predecessor terminal binding mismatch")
      | .error _ => .error (.refused "retry predecessor terminal binding mismatch")

def validatePredecessorObservation (declaration : Declaration) (source : Source) (retry : Retry) (seen : Observation)
    (metadata : Metadata) (artifact : Artifact) : Except Fault Unit := do
  refuse (seen.terminal = false) (.refused "retry predecessor is not terminal")
  refuse (seen.sealed = false) (.refused "retry predecessor terminal graph is invalid")
  refuse (metadata.artifactSha256 ≠ retry.applicabilitySha256)
    (.refused "retry predecessor applicability digest mismatch")
  refuse (artifact.attemptId ≠ retry.attemptId) (.refused "retry predecessor attempt mismatch")
  refuse (artifact.source.sourceNamespace ≠ retry.sourceNamespace ∨
      artifact.source.nativeLocationBinding ≠ retry.nativeLocationBinding ∨ artifact.source ≠ source)
    (.refused "retry predecessor belongs to a different source")
  terminalBinding metadata seen.result
  terminalBinding metadata seen.evidence
  refuse (artifact.declaration.project ≠ declaration.project ∨ artifact.declaration.work ≠ declaration.work)
    (.refused "retry predecessor logical work mismatch")

def skipRetry (declaration : Declaration) (_ : Source) : Except Fault (Option Retry) := .ok declaration.retryOf

def validatePredecessor (world : World β) (declaration : Declaration) (source : Source) : Except Fault (Option Retry) :=
  match declaration.retryOf with
  | none => .ok none
  | some retry => do
      refuse (retry.sourceNamespace ≠ source.sourceNamespace ∨ retry.nativeLocationBinding
        ≠ source.nativeLocationBinding)
        (.refused "retry predecessor belongs to a different source")
      let seen := world.observed retry.operationId
      match seen.descriptor with
      | none => .error (.refused "retry predecessor descriptor is invalid")
      | some descriptor => do
          refuse (seen.terminal = false) (.refused "retry predecessor is not terminal")
          refuse (seen.sealed = false) (.refused "retry predecessor terminal graph is invalid")
          refuse (seen.unchanged = false) (.refused "retry predecessor terminal graph changed")
          let artifact ← validateArtifact host site world retry.operationId (some descriptor) true skipRetry
          let metadata ← readMetadata descriptor.applicability noMetadata
          validatePredecessorObservation declaration source retry seen metadata artifact
          return some retry

def World.publish (world : World β) (operationId : OperationId) (raw rawArtifact : β) : World β :=
  { world with
    files := fun other =>
      if other = operationId then { input := .regular raw, artifact := .regular rawArtifact } else world.files other }

def prepare (world : World β) (operationId : OperationId) (suiteFingerprint : Digest) (attemptId : Uuid) (now : Moment)
    (path : String) (file : File β) : Except Fault (Metadata × World β) := do
  let (raw, declaration, declarationSha256) ← readDeclaration host path file
  let source ← sourceBinding host site
  let retryOf ← validatePredecessor host site world declaration source
  let requestFingerprint ← digest host (requestPayload declarationSha256 retryOf suiteFingerprint source)
  let files := world.files operationId
  refuse (files.input.exists? ≠ files.artifact.exists?)
    (.refused "incomplete applicability publication requires explicit recovery")
  if files.artifact.exists? then
    let artifact ← validateArtifact host site world operationId none true (validatePredecessor host site world)
    refuse (artifact.requestFingerprint ≠ requestFingerprint)
      (.refused "check already has a different applicability declaration or retry")
    let rawArtifact ← secureRead host artifactName true files.artifact
    return (metadataFromRaw host artifact rawArtifact, world)
  else
    let artifact : Artifact := {
      attemptId, capturedAt := utcNow now, source, engineVersion := lit engineVersion
      pythonVersion := site.pythonVersion.text, suiteFingerprint, inputRawSha256 := host.sha256 raw, declarationSha256
      declaration, requestFingerprint }
    refuse (utf8Encodable (artifact.json operationId) = false) .unicodeError
    let written := host.written .indented (artifact.json operationId)
    let rawArtifact ← secureRead host artifactName true (.regular written)
    return (metadataFromRaw host artifact rawArtifact, world.publish operationId raw written)

def replayMatches (world : World β) (operationId : OperationId) (descriptor : Descriptor)
    (input : Option (String × File β)) : Except Fault Bool :=
  match input with
  | none =>
      let files := world.files operationId
      .ok (isNull descriptor.applicability && !files.input.exists? && !files.artifact.exists?)
  | some (path, file) =>
      match readMetadata descriptor.applicability noMetadata with
      | .error _ => .ok false
      | .ok metadata => do
          let (_, declaration, declarationSha256) ← readDeclaration host path file
          if declarationSha256 ≠ metadata.declarationSha256 then
            return false
          let artifact ← validateArtifact host site world operationId (some descriptor) true
            (validatePredecessor host site world)
          return decide (artifact.declaration = declaration)

end Admitting

end OrchestratorEngine.Applicability
