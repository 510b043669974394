import OrchestratorEngine.Applicability.Tidiness

set_option autoImplicit false

namespace OrchestratorEngine.Applicability

open Foundation
open ResourceAdapters (Text Json lit isDigest)

theorem source_read (source : Source) (named : isBounded source.projectId = true) :
    readSource source.json = .ok source := by
  have name : boundedText (.str source.projectId) "source.project_id" = .ok source.projectId :=
    (bounded_text_ok_iff _ _ _).mpr ⟨rfl, named⟩
  simp [readSource, Source.json, Json.hasFields, Json.item, Dict.getItem, lit_inj, refuse, isVersionOne,
    Checked.json, name]

theorem read_source_bounded (value : Json) (source : Source) (done : readSource value = .ok source) :
    isBounded source.projectId = true := by
  unfold readSource at done
  split at done
  · simp only [bind_ok_iff] at done
    obtain ⟨_, _, name, read, first, _, second, _, same⟩ := done
    cases same
    exact ((bounded_text_ok_iff _ _ _).mp read).2
  · cases done

theorem metadata_read (metadata : Metadata) (fault : Fault) : readMetadata metadata.json fault = .ok metadata := by
  simp [readMetadata, Metadata.json, Json.hasFields, Json.item, Dict.getItem, lit_inj, refuse,
    isVersionOne, Json.isText,
    Checked.json]

section Reading

variable {β : Type} (host : Host β) (site : Site)

theorem digest_ok {value : Json} {found : Digest} (done : digest host value = .ok found) :
    found = host.sha256 (host.written .compact value) := by
  unfold digest at done
  rw [bind_ok_iff] at done
  obtain ⟨_, _, same⟩ := done
  cases same
  rfl

theorem source_named {source : Source} (done : sourceBinding host site = .ok source) :
    source.projectId = projectId site := by
  simp only [sourceBinding, bind_ok_iff] at done
  obtain ⟨first, _, second, _, same⟩ := done
  cases same
  rfl

theorem artifact_read (operationId : OperationId) (artifact : Artifact) (now : Moment)
    (captured : artifact.capturedAt = utcNow now) (named : isBounded artifact.source.projectId = true)
    (engine : isBounded artifact.engineVersion = true) (python : isBounded artifact.pythonVersion = true)
    (current : sourceBinding host site = .ok artifact.source) :
    readArtifact host site operationId true (artifact.json operationId) = .ok artifact := by
  have engineRead : boundedText (.str artifact.engineVersion) "producer.engine_version" = .ok artifact.engineVersion :=
    (bounded_text_ok_iff _ _ _).mpr ⟨rfl, engine⟩
  have pythonRead : boundedText (.str artifact.pythonVersion) "producer.python_version" = .ok artifact.pythonVersion :=
    (bounded_text_ok_iff _ _ _).mpr ⟨rfl, python⟩
  have assured : isAssurance assuranceJson = true := rfl
  simp [readArtifact, Artifact.json, Json.hasFields, Json.item, Dict.getItem, lit_inj, refuse,
    isVersionOne, Json.isText,
    isCheck, Checked.json, captured, declaration_read, retryAgrees, source_read _ named, current,
    readProducer, engineRead,
    pythonRead, assured, digestField]
  rw [← captured]

theorem read_artifact_source {operationId : OperationId} {value : Json} {artifact : Artifact}
    (done : readArtifact host site operationId true value = .ok artifact) :
    sourceBinding host site = .ok artifact.source ∧ isBounded artifact.source.projectId = true := by
  unfold readArtifact at done
  split at done
  · simp only [bind_ok_iff, refuse_ok_iff] at done
    obtain ⟨_, _, _, _, _, _, attempt, _, captured, _, declaration, _, _, _, retained, read, source, bound, _, current,
      producer, _, _, _, suite, _, input, _, declared, _, request, _, same⟩ := done
    cases same
    have equal : retained = source := by simpa using current
    exact ⟨equal ▸ bound, read_source_bounded _ _ read⟩
  · cases done

theorem secure_read_ok_iff (path : String) (contained : Bool) (file : File β) (raw : β) :
    secureRead host path contained file = .ok raw ↔
      contained = true ∧ file = .regular raw ∧ host.size raw ≤ maxInputBytes := by
  simp only [secureRead, bind_ok_iff, refuse_ok_iff, Bool.not_eq_false]
  cases file with
  | missing => simp
  | irregular reachable => simp
  | unreadable => simp
  | regular found =>
      simp only [bind_ok_iff, refuse_ok_iff, not_lt, File.regular.injEq]
      constructor
      · rintro ⟨_, inside, _, small, done⟩
        cases done
        exact ⟨inside, rfl, small⟩
      · rintro ⟨inside, rfl, small⟩
        exact ⟨(), inside, (), small, rfl⟩

structure Valid (world : World β) (operationId : OperationId)
    (verify : Declaration → Source → Except Fault (Option Retry)) (artifact : Artifact) (rawInput rawArtifact : β) :
    Prop where
  contained : world.contained operationId = true
  input : (world.files operationId).input = .regular rawInput ∧ host.size rawInput ≤ maxInputBytes
  output : (world.files operationId).artifact = .regular rawArtifact ∧ host.size rawArtifact ≤ maxInputBytes
  read : ∃ value, parseJson host rawArtifact = .ok value ∧ readArtifact host site operationId true value = .ok artifact
  bound : checkInput host artifact rawInput = .ok ()
  retried : verify artifact.declaration artifact.source = .ok artifact.declaration.retryOf

variable {host site}

theorem validate_iff (world : World β) (operationId : OperationId) (descriptor : Option Descriptor)
    (verify : Declaration → Source → Except Fault (Option Retry)) (artifact : Artifact) :
    validateArtifact host site world operationId descriptor true verify = .ok artifact ↔
      ∃ rawInput rawArtifact, Valid host site world operationId verify artifact rawInput rawArtifact ∧
        checkDescriptor host artifact rawArtifact descriptor = .ok () := by
  simp only [validateArtifact, bind_ok_iff, secure_read_ok_iff, refuse_ok_iff, not_not]
  constructor
  · rintro ⟨rawInput, ⟨inside, input, small⟩, rawArtifact, ⟨_, output, fits⟩, value, parsed, found, read, _, bound,
      verified, retried, _, agreed, _, described, done⟩
    cases done
    exact ⟨rawInput, rawArtifact, ⟨inside, ⟨input, small⟩, ⟨output, fits⟩, ⟨value, parsed, read⟩, bound,
      agreed ▸ retried⟩, described⟩
  · rintro ⟨rawInput, rawArtifact, valid, described⟩
    obtain ⟨value, parsed, read⟩ := valid.read
    exact ⟨rawInput, ⟨valid.contained, valid.input⟩, rawArtifact, ⟨valid.contained, valid.output⟩, value,
      parsed, artifact,
      read, (), valid.bound, _, valid.retried, (), rfl, (), described, rfl⟩

section Valid

variable {world : World β} {operationId : OperationId} {verify : Declaration → Source → Except Fault (Option Retry)}
  {artifact : Artifact} {rawInput rawArtifact : β}

theorem Valid.current (valid : Valid host site world operationId verify artifact rawInput rawArtifact) :
    sourceBinding host site = .ok artifact.source ∧ isBounded artifact.source.projectId = true := by
  obtain ⟨value, _, read⟩ := valid.read
  exact read_artifact_source host site read

theorem Valid.named (valid : Valid host site world operationId verify artifact rawInput rawArtifact) :
    isBounded (projectId site) = true := by
  obtain ⟨current, bounded⟩ := valid.current
  rw [← source_named host site current]
  exact bounded

theorem Valid.digests (valid : Valid host site world operationId verify artifact rawInput rawArtifact) :
    digest host artifact.declaration.json = .ok artifact.declarationSha256 ∧
      digest host (requestPayload artifact.declarationSha256 artifact.declaration.retryOf artifact.suiteFingerprint
        artifact.source) = .ok artifact.requestFingerprint := by
  have bound := valid.bound
  simp only [checkInput, bind_ok_iff, refuse_ok_iff, not_or, not_not] at bound
  obtain ⟨_, _, value, _, parsed, _, sha, declared, _, ⟨_, same⟩, expected, requested, agreed⟩ := bound
  exact ⟨same ▸ declared, agreed ▸ requested⟩

theorem descriptor_accepted (artifact : Artifact) (rawArtifact : β) :
    checkDescriptor host artifact rawArtifact
      (some ⟨(metadataFromRaw host artifact rawArtifact).json, artifact.suiteFingerprint.json⟩) = .ok () := by
  simp [checkDescriptor, metadata_read, refuse, Checked.json, Json.isText]

theorem Valid.accepted (valid : Valid host site world operationId verify artifact rawInput rawArtifact) :
    validateArtifact host site world operationId
      (some ⟨(metadataFromRaw host artifact rawArtifact).json, artifact.suiteFingerprint.json⟩) true verify =
        .ok artifact :=
  (validate_iff _ _ _ _ _).mpr ⟨rawInput, rawArtifact, valid, descriptor_accepted artifact rawArtifact⟩

end Valid

end Reading

end OrchestratorEngine.Applicability
