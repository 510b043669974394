import OrchestratorEngine.Applicability.Retention

set_option autoImplicit false

namespace OrchestratorEngine.Applicability

open Foundation
open ResourceAdapters (Text Json lit isDigest)

section Replaying

variable {β : Type} {host : Host β} {site : Site}

structure RoundTrips (host : Host β) (site : Site) (world : World β) (operationId : OperationId) (suite : Digest)
    (metadata : Metadata) (declaration : Declaration) : Prop where
  accepted : ∃ artifact, validateArtifact host site world operationId (some ⟨metadata.json, suite.json⟩) true
    (validatePredecessor host site world) = .ok artifact ∧ artifact.declaration = declaration ∧
      artifact.attemptId = metadata.attemptId
  prepared : ∀ attemptId now path file raw sha, readDeclaration host path file = .ok (raw, declaration, sha) →
    prepare host site world operationId suite attemptId now path file = .ok (metadata, world)
  replayed : ∀ path file raw sha, readDeclaration host path file = .ok (raw, declaration, sha) →
    replayMatches host site world operationId ⟨metadata.json, suite.json⟩ (some (path, file)) = .ok true
  refused : ∀ attemptId now path file raw other sha, readDeclaration host path file = .ok (raw, other, sha) →
    other ≠ declaration → Fails (prepare host site world operationId suite attemptId now path file) ∧
      replayMatches host site world operationId ⟨metadata.json, suite.json⟩ (some (path, file)) = .ok false

section Valid

variable {world : World β} {operationId : OperationId} {artifact : Artifact} {rawInput rawArtifact : β}
  {attemptId : Uuid} {now : Moment} {path : String} {file : File β} {raw : β} {other : Declaration} {sha : Digest}

theorem digests_agree (first second : Except Fault Digest) (left right : Digest) (same : first = second)
    (one : first = .ok left) (two : second = .ok right) : left = right := by
  rw [one, two] at same
  exact Except.ok.inj same

theorem Valid.prepared
    (valid : Valid host site world operationId (validatePredecessor host site world) artifact rawInput rawArtifact)
    (read : readDeclaration host path file = .ok (raw, artifact.declaration, sha)) :
    prepare host site world operationId artifact.suiteFingerprint attemptId now path file =
      .ok (metadataFromRaw host artifact rawArtifact, world) := by
  obtain ⟨declared, requested⟩ := valid.digests
  obtain ⟨_, _, digested⟩ := read_declaration_digest read
  obtain rfl := digests_agree _ _ _ _ rfl digested declared
  obtain ⟨current, _⟩ := valid.current
  have validated : validateArtifact host site world operationId none true (validatePredecessor host site world) =
      .ok artifact := (validate_iff _ _ _ _ _).mpr ⟨rawInput, rawArtifact, valid, rfl⟩
  have again : secureRead host artifactName true (.regular rawArtifact) = .ok rawArtifact :=
    (secure_read_ok_iff _ _ _ _ _).mpr ⟨rfl, rfl, valid.output.2⟩
  unfold prepare
  rw [read, bind_ok]
  simp only [current, valid.retried, requested, valid.input.1, valid.output.1, bind_ok, File.exists?, ne_eq,
    not_true_eq_false, refuse, if_false, if_true, validated, again]
  rfl

theorem Valid.replayed
    (valid : Valid host site world operationId (validatePredecessor host site world) artifact rawInput rawArtifact)
    (read : readDeclaration host path file = .ok (raw, other, sha)) :
    replayMatches host site world operationId
        ⟨(metadataFromRaw host artifact rawArtifact).json, artifact.suiteFingerprint.json⟩ (some (path, file)) =
      .ok (decide (other = artifact.declaration)) := by
  obtain ⟨declared, _⟩ := valid.digests
  obtain ⟨_, _, digested⟩ := read_declaration_digest read
  simp only [replayMatches, metadata_read, read, bind_ok, valid.accepted]
  by_cases same : other = artifact.declaration
  · subst same
    obtain rfl := digests_agree _ _ _ _ rfl digested declared
    simp [metadataFromRaw]
  · split
    · simp [same]
    · simp [same, Ne.symm same]

theorem Valid.refused
    (valid : Valid host site world operationId (validatePredecessor host site world) artifact rawInput rawArtifact)
    (declaredOnce : Unmatched host artifact.declaration.json)
    (requestedOnce : Unmatched host (requestPayload artifact.declarationSha256 artifact.declaration.retryOf
      artifact.suiteFingerprint artifact.source))
    (read : readDeclaration host path file = .ok (raw, other, sha)) (different : other ≠ artifact.declaration) :
    Fails (prepare host site world operationId artifact.suiteFingerprint attemptId now path file) := by
  rw [fails_iff]
  rintro ⟨metadata, after⟩ done
  obtain ⟨declared, requested⟩ := valid.digests
  obtain ⟨_, _, digested⟩ := read_declaration_digest read
  obtain ⟨current, bounded⟩ := valid.current
  cases prepare_cases read done with
  | replayed found foundInput foundRaw foundValid again =>
      have same : found = artifact := by
        have first : validateArtifact host site world operationId none true (validatePredecessor host site world) =
            .ok artifact := (validate_iff _ _ _ _ _).mpr ⟨rawInput, rawArtifact, valid, rfl⟩
        have second : validateArtifact host site world operationId none true (validatePredecessor host site world) =
            .ok found := (validate_iff _ _ _ _ _).mpr ⟨foundInput, foundRaw, foundValid, rfl⟩
        exact Except.ok.inj (second.symm.trans first)
      subst same
      have payload := requestedOnce.value (tidy_request _ _ _ _ bounded) (tidy_request _ _ _ _ bounded) requested again
      simp only [requestPayload, Json.obj.injEq, List.cons.injEq, Prod.mk.injEq, true_and, and_true] at payload
      rw [digest_json_inj payload.1] at digested
      exact different (declaration_json_inj
        (declaredOnce.value (tidy_declaration _) (tidy_declaration _) declared digested))
  | published found now fresh =>
      rw [valid.output.1] at fresh
      cases fresh

end Valid

theorem applicability_round_trips (host : Host β) (site : Site) (world after : World β) (operationId : OperationId)
    (suite : Digest) (attemptId : Uuid) (now : Moment) (path : String) (file : File β) (raw : β)
    (declaration : Declaration) (sha : Digest) (metadata : Metadata)
    (read : readDeclaration host path file = .ok (raw, declaration, sha))
    (done : prepare host site world operationId suite attemptId now path file = .ok (metadata, after))
    (declaredOnce : Unmatched host declaration.json)
    (requestedOnce : ∀ source, sourceBinding host site = .ok source →
      Unmatched host (requestPayload sha declaration.retryOf suite source)) :
    RoundTrips host site after operationId suite metadata declaration ↔
      isBounded (projectId site) = true ∧ world.contained operationId = true := by
  have prepared := prepare_cases read done
  have directories : after.contained = world.contained := by
    cases prepared with
    | replayed => rfl
    | published => rfl
  constructor
  · intro trips
    obtain ⟨artifact, validated, _⟩ := trips.accepted
    obtain ⟨rawInput, rawArtifact, valid, _⟩ := (validate_iff _ _ _ _ _).mp validated
    exact ⟨valid.named, directories ▸ valid.contained⟩
  · rintro ⟨named, contained⟩
    obtain ⟨artifact, rawInput, rawArtifact, valid, rfl, rfl, rfl, rfl⟩ :=
      prepared_valid read prepared declaredOnce requestedOnce named contained
    have once := requestedOnce artifact.source valid.current.1
    exact {
      accepted := ⟨artifact, valid.accepted, rfl, rfl⟩
      prepared := fun _ _ _ _ _ _ again => valid.prepared again
      replayed := fun _ _ _ _ again => by
        rw [valid.replayed again]
        simp
      refused := fun _ _ _ _ _ _ _ again different =>
        ⟨valid.refused declaredOnce once again different, by
          rw [valid.replayed again]
          simp [different]⟩ }

end Replaying

mutual

def sameJson : Json → Json → Bool
  | .null, .null => true
  | .bool first, .bool second => decide (first = second)
  | .int first, .int second => decide (first = second)
  | .float first, .float second => decide (first = second)
  | .str first, .str second => decide (first = second)
  | .arr first, .arr second => sameItems first second
  | .obj first, .obj second => sameFields first second
  | _, _ => false

def sameItems : List Json → List Json → Bool
  | [], [] => true
  | first :: firsts, second :: seconds => sameJson first second && sameItems firsts seconds
  | _, _ => false

def sameFields : List (Text × Json) → List (Text × Json) → Bool
  | [], [] => true
  | (name, first) :: firsts, (other, second) :: seconds =>
      decide (name = other) && sameJson first second && sameFields firsts seconds
  | _, _ => false

end

mutual

theorem same_json (first second : Json) (same : sameJson first second = true) : first = second := by
  cases first with
  | null => cases second <;> first | rfl | cases same
  | bool truth => cases second <;> first | exact congrArg _ (of_decide_eq_true same) | cases same
  | int value => cases second <;> first | exact congrArg _ (of_decide_eq_true same) | cases same
  | float value => cases second <;> first | exact congrArg _ (of_decide_eq_true same) | cases same
  | str text => cases second <;> first | exact congrArg _ (of_decide_eq_true same) | cases same
  | arr items => cases second <;> first | exact congrArg _ (same_items _ _ same) | cases same
  | obj fields => cases second <;> first | exact congrArg _ (same_fields _ _ same) | cases same

theorem same_items (first second : List Json) (same : sameItems first second = true) : first = second := by
  cases first with
  | nil => cases second <;> first | rfl | cases same
  | cons item rest =>
      cases second with
      | nil => cases same
      | cons other others =>
          rw [sameItems, Bool.and_eq_true] at same
          rw [same_json item other same.1, same_items rest others same.2]

theorem same_fields (first second : List (Text × Json)) (same : sameFields first second = true) : first = second := by
  cases first with
  | nil => cases second <;> first | rfl | cases same
  | cons entry rest =>
      cases second with
      | nil => cases same
      | cons other others =>
          obtain ⟨name, item⟩ := entry
          obtain ⟨also, found⟩ := other
          rw [sameFields, Bool.and_eq_true, Bool.and_eq_true, decide_eq_true_eq] at same
          rw [same.1.1, same_json item found same.1.2, same_fields rest others same.2]

end

inductive Document where
  | wrote (style : Style) (value : Json)

def Document.same : Document → Document → Bool
  | .wrote .compact first, .wrote .compact second | .wrote .indented first, .wrote .indented second =>
      sameJson first second
  | _, _ => false

theorem same_document (first second : Document) (same : first.same second = true) : first = second := by
  obtain ⟨style, value⟩ := first
  obtain ⟨other, found⟩ := second
  cases style <;> cases other <;> first | cases same | rw [same_json value found same]

def hexadecimal : Nat → Nat → Text
  | 0, _ => []
  | width + 1, value =>
      let digit := value / 16 ^ width % 16
      (if digit < 10 then 48 + digit else 87 + digit) :: hexadecimal width value

def sampleDigest (value : Nat) (good : isDigest (hexadecimal 64 value) = true) : Digest := ⟨_, good⟩

def otherDigest : Digest := sampleDigest 0 (by decide +kernel)

-- The length in octets and the SHA-256 of a file, as json.dumps and hashlib give them.
structure Entry where
  document : Document
  size : Nat
  sha256 : Digest

def find (entries : List Entry) (document : Document) : Option Entry :=
  entries.find? fun entry => entry.document.same document

def tableHost (entries : List Entry) : Host Document where
  size document := ((find entries document).map Entry.size).getD 0
  sha256 document := ((find entries document).map Entry.sha256).getD otherDigest
  loads document := match document with
    | .wrote _ value => some value
  written := .wrote
  reads_back _ _ _ := rfl

theorem table_once (entries : List Entry) (known : Entry) (real : known.sha256 ≠ otherDigest)
    (only : entries.all (fun entry => decide (entry.sha256 ≠ known.sha256) || entry.document.same
    known.document) = true)
    (document : Document) (same : (tableHost entries).sha256 document = known.sha256) : document = known.document := by
  change ((find entries document).map Entry.sha256).getD otherDigest = known.sha256 at same
  cases found : find entries document with
  | none =>
      rw [found] at same
      exact absurd same.symm real
  | some entry =>
      rw [found] at same
      have listed := List.all_eq_true.mp only entry (List.mem_of_find?_eq_some found)
      have digest : entry.sha256 = known.sha256 := same
      rw [Bool.or_eq_true, decide_eq_true_iff] at listed
      have matching := List.find?_some (p := fun entry : Entry => entry.document.same document) found
      have named := same_document entry.document document matching
      exact named.symm.trans (same_document _ _ (listed.resolve_left fun different => different digest))

def sampleDeclaration : Declaration where
  project := ⟨lit "sample-project", by decide +kernel⟩
  work := ⟨lit "sample-work", by decide +kernel⟩
  revision := ⟨lit "revision-4", by decide +kernel⟩
  candidate := ⟨lit "0123456789abcdef", by decide +kernel⟩
  criteria := ⟨[⟨⟨lit "criterion-1", by decide +kernel⟩, ⟨lit "revision-2", by decide +kernel⟩⟩], by decide, by decide⟩
  retryOf := none

def sampleSite (name : Text) : Site where
  components := if name = [] then [] else [name]
  projectRoot := lit "/" ++ name
  stateRoot := if name = [] then lit "/.orchestrator" else lit "/" ++ name ++ lit "/.orchestrator"
  platform := lit "linux"
  node := lit "builder"
  pythonVersion := ⟨lit "3.12.3", by decide +kernel⟩

def declaredDigest : Digest :=
  sampleDigest 0x4589276968992137b6d83d01aedf31400d1fecbe135c664758b59e934436b747 (by decide +kernel)

def rawDigest : Digest :=
  sampleDigest 0xe06581208a9daf914687be3b22674999d68f8ffd266673db65fa6c6caeb66c98 (by decide +kernel)

def suiteDigest : Digest :=
  sampleDigest 0xf8ebd43dbef1f029bf4930c65c9b7c5cc76af476927cee861ff18fcc73bfc4ab (by decide +kernel)

def namespaceDigest : Digest :=
  sampleDigest 0x597d5a1c9233efd94d878acaefdb0ce33dbcb0cc9ca7b28eb4236f6b93cecb89 (by decide +kernel)

def sampleOperation : OperationId := ⟨lit "CHECK-001", by decide +kernel⟩

def sampleAttempt : Uuid := ⟨lit "01234567-89ab-4cde-8f01-23456789abcd", by decide +kernel⟩

def sampleMoment : Moment := ⟨2026, 5, 1, 12, 0, 0, 250, by decide, by decide⟩

structure Digests where
  location : Digest
  request : Digest
  artifact : Digest

def Digests.source (digests : Digests) (name : Text) : Source := ⟨name, namespaceDigest, digests.location⟩

def Digests.payload (digests : Digests) (name : Text) : Json :=
  requestPayload declaredDigest none suiteDigest (digests.source name)

def Digests.entries (digests : Digests) (name : Text) : List Entry :=
  let artifact : Artifact := {
    attemptId := sampleAttempt
    capturedAt := utcNow sampleMoment
    source := digests.source name
    engineVersion := lit engineVersion
    pythonVersion := lit "3.12.3"
    suiteFingerprint := suiteDigest
    inputRawSha256 := rawDigest
    declarationSha256 := declaredDigest
    declaration := sampleDeclaration
    requestFingerprint := digests.request }
  [⟨.wrote .compact sampleDeclaration.json, 255, declaredDigest⟩,
    ⟨.wrote .indented sampleDeclaration.json, 318, rawDigest⟩,
    ⟨.wrote .compact (namespacePayload (sampleSite name)), 85, namespaceDigest⟩,
    ⟨.wrote .compact (locationPayload (sampleSite name)), if name = [] then 116 else 126, digests.location⟩,
    ⟨.wrote .compact (digests.payload name), if name = [] then 418 else 421, digests.request⟩,
    ⟨.wrote .indented (artifact.json sampleOperation), if name = [] then 1499 else 1502, digests.artifact⟩]

def appDigests : Digests where
  location := sampleDigest 0x9ed5f26a62ac3bf1cb6d0a4ce519aadfc5ed2683f30fe71104fe2449aa2cee00 (by decide +kernel)
  request := sampleDigest 0x9421b8f337ea45f1cc93cd40c82723ef0823e550beb110e975191b3950dda9de (by decide +kernel)
  artifact := sampleDigest 0xd76b337a4ce85e5f2b637cc5fef64ca16d5e5541f21b27a6fc6ccd623a4c181c (by decide +kernel)

def rootDigests : Digests where
  location := sampleDigest 0x58a4ed8f866bcbf89b053061122da65b211c0ab66111622ee0db1dbb72c989a8 (by decide +kernel)
  request := sampleDigest 0x7466e39f5274cfe742758475d38b96a8cca4b08f99c34d7b1a3c135a64b3e1fd (by decide +kernel)
  artifact := sampleDigest 0xc841f48cc7669ff8887fcb47a2e0547b832a0712e975d22b88b3187610f884dd (by decide +kernel)

def sampleApp : Text := lit "app"

def sampleHost : Host Document := tableHost (appDigests.entries sampleApp)

def rootHost : Host Document := tableHost (rootDigests.entries [])

def sampleWorld : World Document where
  files _ := { input := .missing, artifact := .missing }
  contained _ := true
  observed _ :=
    { descriptor := none, terminal := false, sealed := false, unchanged := false, result := none, evidence := none }

def sampleFile : File Document := .regular (.wrote .indented sampleDeclaration.json)

def samplePrepare (host : Host Document) (name : Text) : Except Fault (Metadata × World Document) :=
  prepare host (sampleSite name) sampleWorld sampleOperation suiteDigest sampleAttempt sampleMoment
  "declaration.json" sampleFile

theorem sample_declared_once : Unmatched sampleHost sampleDeclaration.json := by
  intro document same
  have target : sampleHost.sha256 (.wrote .compact sampleDeclaration.json) = declaredDigest := by decide +kernel
  exact table_once _ ⟨.wrote .compact sampleDeclaration.json, 255, declaredDigest⟩ (by decide +kernel)
    (by decide +kernel)
    document (same.trans target)

theorem sample_requested_once : Unmatched sampleHost (appDigests.payload sampleApp) := by
  intro document same
  have target : sampleHost.sha256 (.wrote .compact (appDigests.payload sampleApp)) = appDigests.request := by
    decide +kernel
  exact table_once _ ⟨.wrote .compact (appDigests.payload sampleApp), 421, appDigests.request⟩ (by decide +kernel)
    (by decide +kernel) document (same.trans target)

theorem sample_source : sourceBinding sampleHost (sampleSite sampleApp) = .ok (appDigests.source sampleApp) := by
  decide +kernel

theorem sample_read : readDeclaration sampleHost "declaration.json" sampleFile =
    .ok (.wrote .indented sampleDeclaration.json, sampleDeclaration, declaredDigest) := rfl

theorem sample_check_round_trips : ∃ metadata after, samplePrepare sampleHost sampleApp = .ok (metadata, after) ∧
    RoundTrips sampleHost (sampleSite sampleApp) after sampleOperation suiteDigest metadata
      sampleDeclaration := by
  obtain ⟨⟨metadata, after⟩, done, _⟩ := ok_of_check (samplePrepare sampleHost sampleApp) (fun _ => true)
    (by decide +kernel)
  refine ⟨metadata, after, done, (applicability_round_trips _ _ _ _ _ _ _ _ _ _ _ _ _ _ sample_read done
    sample_declared_once ?_).mpr ⟨by decide +kernel, rfl⟩⟩
  intro source bound
  rw [sample_source] at bound
  cases bound
  exact sample_requested_once

theorem root_check_refused : ∃ metadata after, samplePrepare rootHost [] = .ok (metadata, after) ∧
    ∀ artifact, validateArtifact rootHost (sampleSite []) after sampleOperation
      (some ⟨metadata.json, suiteDigest.json⟩) true (validatePredecessor rootHost (sampleSite []) after) ≠
        .ok artifact := by
  obtain ⟨⟨metadata, after⟩, done, _⟩ := ok_of_check (samplePrepare rootHost []) (fun _ => true) (by decide +kernel)
  refine ⟨metadata, after, done, fun artifact validated => ?_⟩
  obtain ⟨rawInput, rawArtifact, valid, _⟩ := (validate_iff _ _ _ _ _).mp validated
  exact absurd valid.named (by decide +kernel)

end OrchestratorEngine.Applicability
