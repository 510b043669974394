import OrchestratorEngine.Applicability.RoundTrips

set_option autoImplicit false

namespace OrchestratorEngine.Applicability

open Foundation
open ResourceAdapters (Text Json lit isDigest)

section Retaining

variable {β : Type} {host : Host β} {site : Site}

def Unmatched (host : Host β) (value : Json) : Prop :=
  ∀ raw, host.sha256 raw = host.sha256 (host.written .compact value) → raw = host.written .compact value

theorem Unmatched.value {value other : Json} (unmatched : Unmatched host value) (tidy : Tidy value) (also : Tidy other)
    {found : Digest} (first : digest host value = .ok found) (second : digest host other = .ok found) :
    other = value := by
  have same : host.written .compact other = host.written .compact value :=
    unmatched _ ((digest_ok host second).symm.trans (digest_ok host first))
  have read := host.reads_back .compact value tidy
  rw [← same, host.reads_back .compact other also] at read
  exact Option.some.inj read

theorem declaration_json_inj {first second : Declaration} (same : first.json = second.json) : first = second := by
  have read := declaration_read first
  rw [same, declaration_read second] at read
  exact (Except.ok.inj read).symm

theorem digest_json_inj {first second : Digest} (same : first.json = second.json) : first = second := by
  cases first
  cases second
  cases same
  rfl

theorem predecessor_retry {world : World β} {declaration : Declaration} {source : Source} {found : Option Retry}
    (done : validatePredecessor host site world declaration source = .ok found) : found = declaration.retryOf := by
  unfold validatePredecessor at done
  split at done
  · rename_i none
    cases done
    exact none.symm
  · rename_i retry named
    simp only [bind_ok_iff] at done
    obtain ⟨_, _, done⟩ := done
    split at done
    · cases done
    · simp only [bind_ok_iff] at done
      obtain ⟨_, _, _, _, _, _, artifact, _, metadata, _, _, _, same⟩ := done
      cases same
      exact named.symm

theorem predecessor_kept (world : World β) (operationId : OperationId) (raw rawArtifact : β) (declaration : Declaration)
    (source : Source) (found : Option Retry) (unpublished : (world.files operationId).artifact.exists? = false)
    (done : validatePredecessor host site world declaration source = .ok found) :
    validatePredecessor host site (world.publish operationId raw rawArtifact) declaration source = .ok found := by
  unfold validatePredecessor at done ⊢
  split at done
  · exact done
  · rename_i retry named
    simp only [bind_ok_iff] at done ⊢
    obtain ⟨_, own, done⟩ := done
    refine ⟨(), own, ?_⟩
    have same : ((world.publish operationId raw rawArtifact).observed retry.operationId).descriptor =
        (world.observed retry.operationId).descriptor := rfl
    cases seen : (world.observed retry.operationId).descriptor with
    | none =>
        rw [seen] at done
        cases done
    | some descriptor =>
        rw [seen] at done
        rw [same, seen]
        simp only [bind_ok_iff] at done ⊢
        obtain ⟨_, terminal, _, sealed, _, unchanged, artifact, validated, rest⟩ := done
        refine ⟨(), terminal, (), sealed, (), unchanged, artifact, ?_, rest⟩
        have other : retry.operationId ≠ operationId := by
          rintro same
          obtain ⟨_, published, valid, _⟩ := (validate_iff _ _ _ _ _).mp validated
          rw [same] at valid
          rw [valid.output.1] at unpublished
          cases unpublished
        have files : (world.publish operationId raw rawArtifact).files retry.operationId =
            world.files retry.operationId := if_neg other
        unfold validateArtifact at validated ⊢
        rw [files]
        exact validated

theorem read_declaration_digest {path : String} {file : File β} {raw : β} {declaration : Declaration} {sha : Digest}
    (done : readDeclaration host path file = .ok (raw, declaration, sha)) :
    (file = .regular raw ∧ host.size raw ≤ maxInputBytes) ∧
      (∃ value, parseJson host raw = .ok value ∧ normalizeDeclaration value = .ok declaration) ∧
      digest host declaration.json = .ok sha := by
  simp only [readDeclaration, bind_ok_iff, secure_read_ok_iff] at done
  obtain ⟨found, ⟨_, regular, small⟩, value, parsed, normalized, declared, digested, done, same⟩ := done
  cases same
  exact ⟨⟨regular, small⟩, ⟨value, parsed, declared⟩, done⟩

theorem input_bound {artifact : Artifact} {rawInput : β} {value : Json}
    (input : artifact.inputRawSha256 = host.sha256 rawInput) (parsed : parseJson host rawInput = .ok value)
    (normalized : normalizeDeclaration value = .ok artifact.declaration)
    (declared : digest host artifact.declaration.json = .ok artifact.declarationSha256)
    (requested : digest host (requestPayload artifact.declarationSha256 artifact.declaration.retryOf
      artifact.suiteFingerprint artifact.source) = .ok artifact.requestFingerprint) :
    checkInput host artifact rawInput = .ok () := by
  simp [checkInput, refuse, input, parsed, normalized, declared, requested]

variable {world : World β} {operationId : OperationId} {suite : Digest} {attemptId : Uuid}
    {now : Moment} {path : String}
  {file : File β} {raw : β} {declaration : Declaration} {sha : Digest} {metadata : Metadata} {after : World β}

inductive Prepared (host : Host β) (site : Site) (world : World β) (operationId : OperationId)
    (suite : Digest) (raw : β)
    (declaration : Declaration) (sha : Digest) : Metadata → World β → Prop
  | replayed (artifact : Artifact) (rawInput rawArtifact : β)
      (valid : Valid host site world operationId (validatePredecessor host site world) artifact rawInput rawArtifact)
      (requested : digest host (requestPayload sha declaration.retryOf suite artifact.source) =
        .ok artifact.requestFingerprint) :
      Prepared host site world operationId suite raw declaration sha (metadataFromRaw host artifact rawArtifact) world
  | published (artifact : Artifact) (now : Moment) (fresh : (world.files operationId).artifact.exists? = false)
      (captured : artifact.capturedAt = utcNow now) (engine : artifact.engineVersion = lit engineVersion)
      (python : artifact.pythonVersion = site.pythonVersion.text)
      (current : sourceBinding host site = .ok artifact.source)
      (suited : artifact.suiteFingerprint = suite) (declared : artifact.declaration = declaration)
      (digested : artifact.declarationSha256 = sha) (input : artifact.inputRawSha256 = host.sha256 raw)
      (retried : validatePredecessor host site world declaration artifact.source = .ok declaration.retryOf)
      (requested : digest host (requestPayload sha declaration.retryOf suite artifact.source) =
        .ok artifact.requestFingerprint)
      (fits : host.size (host.written .indented (artifact.json operationId)) ≤ maxInputBytes) :
      Prepared host site world operationId suite raw declaration sha
        (metadataFromRaw host artifact (host.written .indented (artifact.json operationId)))
        (world.publish operationId raw (host.written .indented (artifact.json operationId)))

theorem prepare_cases (read : readDeclaration host path file = .ok (raw, declaration, sha))
    (done : prepare host site world operationId suite attemptId now path file = .ok (metadata, after)) :
    Prepared host site world operationId suite raw declaration sha metadata after := by
  unfold prepare at done
  rw [read, bind_ok] at done
  simp only [bind_ok_iff] at done
  obtain ⟨source, current, retryOf, retried, request, requested, _, _, done⟩ := done
  have same := predecessor_retry retried
  subst same
  split at done
  · simp only [bind_ok_iff, refuse_ok_iff, not_not, secure_read_ok_iff] at done
    obtain ⟨artifact, validated, _, agreed, rawArtifact, ⟨_, regular, _⟩, done⟩ := done
    cases done
    obtain ⟨rawInput, found, valid, _⟩ := (validate_iff _ _ _ _ _).mp validated
    cases valid.output.1.symm.trans regular
    cases valid.current.1.symm.trans current
    exact .replayed artifact rawInput rawArtifact valid (agreed ▸ requested)
  · rename_i unpublished
    simp only [bind_ok_iff, secure_read_ok_iff] at done
    obtain ⟨_, _, rawArtifact, ⟨_, regular, fits⟩, done⟩ := done
    cases regular
    cases done
    exact .published _ now (by simpa using unpublished) rfl rfl rfl current rfl rfl rfl rfl retried requested fits

theorem parse_written {value : Json} (style : Style) (tidy : Tidy value) :
    parseJson host (host.written style value) = .ok value := by
  simp [parseJson, host.reads_back style value tidy, tidy.bounded]

theorem prepared_valid (read : readDeclaration host path file = .ok (raw, declaration, sha))
    (prepared : Prepared host site world operationId suite raw declaration sha metadata after)
    (declaredOnce : Unmatched host declaration.json)
    (requestedOnce : ∀ source, sourceBinding host site = .ok source →
      Unmatched host (requestPayload sha declaration.retryOf suite source))
    (named : isBounded (projectId site) = true) (contained : world.contained operationId = true) :
    ∃ artifact rawInput rawArtifact, Valid host site after operationId (validatePredecessor host site after) artifact
        rawInput rawArtifact ∧ artifact.declaration = declaration ∧ artifact.declarationSha256 = sha ∧
      artifact.suiteFingerprint = suite ∧ metadata = metadataFromRaw host artifact rawArtifact := by
  obtain ⟨⟨_, small⟩, ⟨value, parsed, normalized⟩, digested⟩ := read_declaration_digest read
  cases prepared with
  | replayed artifact rawInput rawArtifact valid requested =>
      obtain ⟨declared, again⟩ := valid.digests
      obtain ⟨current, bounded⟩ := valid.current
      have payload := (requestedOnce _ current).value (tidy_request _ _ _ _ bounded) (tidy_request _ _ _ _ bounded)
        requested again
      simp only [requestPayload, Json.obj.injEq, List.cons.injEq, Prod.mk.injEq, true_and, and_true] at payload
      obtain ⟨sameSha, _, sameSuite⟩ := payload
      have agreed := digest_json_inj sameSha
      refine ⟨artifact, rawInput, rawArtifact, valid, ?_, agreed, digest_json_inj sameSuite, rfl⟩
      rw [agreed] at declared
      exact declaration_json_inj
        (declaredOnce.value (tidy_declaration _) (tidy_declaration _) digested declared)
  | published artifact now fresh captured engine python current suited declared digested' input retried requested fits =>
      subst suited declared digested'
      have bounded : isBounded artifact.source.projectId = true := by
        rw [source_named host site current]
        exact named
      have engineBounded : isBounded artifact.engineVersion = true := engine ▸ engine_bounded
      have pythonBounded : isBounded artifact.pythonVersion = true := python ▸ site.pythonVersion.good
      have tidy : Tidy (artifact.json operationId) :=
        ⟨bounded_artifact operationId artifact now captured bounded engineBounded pythonBounded,
          orderly_artifact operationId artifact⟩
      have published : (world.publish operationId raw (host.written .indented (artifact.json operationId))).files
          operationId = { input := .regular raw, artifact := .regular (host.written .indented (artifact.json operationId)) } :=
        if_pos rfl
      refine ⟨artifact, raw, _, ?_, rfl, rfl, rfl, rfl⟩
      exact {
        contained := contained
        input := by rw [published]; exact ⟨rfl, small⟩
        output := by rw [published]; exact ⟨rfl, fits⟩
        read := ⟨_, parse_written .indented tidy,
          artifact_read host site operationId artifact now captured bounded engineBounded pythonBounded current⟩
        bound := input_bound input parsed normalized digested requested
        retried := predecessor_kept world operationId raw _ artifact.declaration artifact.source _ fresh retried }

end Retaining

end OrchestratorEngine.Applicability
