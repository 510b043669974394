import OrchestratorEngine.Applicability.Values

set_option autoImplicit false

namespace OrchestratorEngine.Applicability

open Foundation
open ResourceAdapters (Text Json lit isDigest)

def declarationKind : String := "ORCHESTRATOR_OPERATION_APPLICABILITY_DECLARATION"

-- The reference to the check that is retried; its kind is always "check".
structure Retry where
  operationId : OperationId
  attemptId : Uuid
  applicabilitySha256 : Digest
  sourceNamespace : Digest
  nativeLocationBinding : Digest
deriving DecidableEq

structure Criterion where
  id : OpaqueId
  revision : OpaqueId
deriving DecidableEq

structure Criteria where
  items : List Criterion
  counted : items ≠ [] ∧ items.length ≤ maxCriteria
  unique : (items.map Criterion.id).Nodup
deriving DecidableEq

structure Declaration where
  project : OpaqueId
  work : OpaqueId
  revision : OpaqueId
  candidate : OpaqueId
  criteria : Criteria
  retryOf : Option Retry
deriving DecidableEq

def isNull : Json → Bool
  | .null => true
  | _ => false

def isCheck (value : Json) : Bool := value.isText (lit "check")

def isVersionOne : Json → Bool
  | .int value => decide (value = 1)
  | _ => false

def retry (value : Json) : Except Fault (Option Retry) :=
  match value with
  | .null => .ok none
  | .obj fields => do
      refuse (Json.hasFields ["operation_kind", "operation_id", "attempt_id", "applicability_sha256",
        "source_namespace",
          "native_location_binding"] fields = false)
        (.refused "retry_of must be an exact predecessor reference")
      refuse (isCheck (Json.item "operation_kind" fields) = false) (.refused "retry predecessor must be a local check")
      let operation ← boundedText (Json.item "operation_id" fields) "retry_of.operation_id"
      let attempt ← boundedText (Json.item "attempt_id" fields) "retry_of.attempt_id"
      let sha256 ← boundedText (Json.item "applicability_sha256" fields) "retry_of.applicability_sha256"
      let namespaced ← boundedText (Json.item "source_namespace" fields) "retry_of.source_namespace"
      let location ← boundedText (Json.item "native_location_binding" fields) "retry_of.native_location_binding"
      let operationId ← matching isOperationId (.str operation) (.refused "retry predecessor operation id is invalid")
      let attemptId ← matching isUuid (.str attempt) (.refused "retry predecessor attempt id is invalid")
      let applicabilitySha256 ← matching isDigest (.str sha256)
        (.refused "retry predecessor applicability_sha256 is invalid")
      let sourceNamespace ← matching isDigest (.str namespaced)
        (.refused "retry predecessor source_namespace is invalid")
      let nativeLocationBinding ← matching isDigest (.str location)
        (.refused "retry predecessor native_location_binding is invalid")
      return some { operationId, attemptId, applicabilitySha256, sourceNamespace, nativeLocationBinding }
  | _ => .error (.refused "retry_of must be an exact predecessor reference")

def criterion (seen : List OpaqueId) (item : Json) : Except Fault Criterion :=
  match item with
  | .obj fields => do
      refuse (Json.hasFields ["id", "revision"] fields = false) (.refused "criterion must contain id and revision")
      let id ← opaqueId (Json.item "id" fields) "criterion id"
      refuse (id ∈ seen) (.refused "criterion identifiers must be unique")
      let revision ← opaqueId (Json.item "revision" fields) "criterion revision"
      return { id, revision }
  | _ => .error (.refused "criterion must contain id and revision")

def normalizedCriteria (seen : List OpaqueId) : List Json → Except Fault (List Criterion)
  | [] => .ok []
  | item :: rest => do
      let first ← criterion seen item
      let later ← normalizedCriteria (first.id :: seen) rest
      return first :: later

variable (seen : List OpaqueId)

theorem criterion_new (item : Json) (found : Criterion)
    (done : criterion seen item = .ok found) : found.id ∉ seen := by
  unfold criterion at done
  split at done
  · simp only [bind_ok_iff, refuse_ok_iff] at done
    obtain ⟨_, _, id, _, _, fresh, revision, _, same⟩ := done
    cases same
    exact fresh
  · cases done

theorem normalized_criteria_unique (items : List Json) (found : List Criterion)
    (done : normalizedCriteria seen items = .ok found) :
    found.length = items.length ∧ (found.map Criterion.id).Nodup ∧ ∀ listed ∈ found, listed.id ∉ seen := by
  induction items generalizing seen found with
  | nil =>
      cases done
      simp
  | cons item rest ih =>
      rw [normalizedCriteria] at done
      simp only [bind_ok_iff] at done
      obtain ⟨first, here, later, after, same⟩ := done
      cases same
      obtain ⟨length, unique, fresh⟩ := ih (first.id :: seen) later after
      refine ⟨by simp [length], ?_, ?_⟩
      · rw [List.map_cons, List.nodup_cons]
        refine ⟨fun member => ?_, unique⟩
        obtain ⟨other, listed, same⟩ := List.mem_map.mp member
        exact fresh other listed (same ▸ List.mem_cons_self)
      · intro listed member
        rcases List.mem_cons.mp member with rfl | inside
        · exact criterion_new seen item _ here
        · exact fun known => fresh listed inside (List.mem_cons_of_mem _ known)

theorem normalized_counted (items : List Json) (found : List Criterion) (done : normalizedCriteria [] items = .ok found)
    (counted : items ≠ [] ∧ items.length ≤ maxCriteria) : found ≠ [] ∧ found.length ≤ maxCriteria := by
  have length := (normalized_criteria_unique [] items found done).1
  refine ⟨fun empty => counted.1 (List.length_eq_zero_iff.mp ?_), by rw [length]; exact counted.2⟩
  rw [← length, empty, List.length_nil]

def criteria (value : Json) : Except Fault Criteria :=
  match value with
  | .arr items =>
      if counted : items ≠ [] ∧ items.length ≤ maxCriteria then
        match done : normalizedCriteria [] items with
        | .ok found =>
            .ok ⟨found, normalized_counted items found done counted,
            (normalized_criteria_unique [] items found done).2.1⟩
        | .error fault => .error fault
      else .error (.refused "criteria must be a nonempty bounded array")
  | _ => .error (.refused "criteria must be a nonempty bounded array")

def normalizeDeclaration (value : Json) : Except Fault Declaration :=
  match value with
  | .obj fields => do
      refuse (Json.hasFields ["schema_version", "kind", "project", "work", "revision", "candidate", "criteria",
          "retry_of"] fields = false)
        (.refused "unsupported applicability declaration fields")
      refuse (isVersionOne (Json.item "schema_version" fields) = false ∨
          (Json.item "kind" fields).isText (lit declarationKind) = false)
        (.refused "unsupported applicability declaration version")
      let criteria ← criteria (Json.item "criteria" fields)
      let project ← opaqueId (Json.item "project" fields) "project"
      let work ← opaqueId (Json.item "work" fields) "work"
      let revision ← opaqueId (Json.item "revision" fields) "revision"
      let candidate ← opaqueId (Json.item "candidate" fields) "candidate"
      let retryOf ← retry (Json.item "retry_of" fields)
      return { project, work, revision, candidate, criteria, retryOf }
  | _ => .error (.refused "unsupported applicability declaration fields")

def Retry.json (retry : Retry) : Json :=
  .obj [(lit "applicability_sha256", retry.applicabilitySha256.json), (lit "attempt_id", retry.attemptId.json),
    (lit "native_location_binding", retry.nativeLocationBinding.json), (lit "operation_id", retry.operationId.json),
    (lit "operation_kind", .str (lit "check")), (lit "source_namespace", retry.sourceNamespace.json)]

def retryJson : Option Retry → Json
  | none => .null
  | some retry => retry.json

def Criterion.json (criterion : Criterion) : Json :=
  .obj [(lit "id", criterion.id.json), (lit "revision", criterion.revision.json)]

def Declaration.json (declaration : Declaration) : Json :=
  .obj [(lit "candidate", declaration.candidate.json),
    (lit "criteria", .arr (declaration.criteria.items.map Criterion.json)), (lit "kind", .str (lit declarationKind)),
    (lit "project", declaration.project.json), (lit "retry_of", retryJson declaration.retryOf),
    (lit "revision", declaration.revision.json), (lit "schema_version", .int 1), (lit "work", declaration.work.json)]

theorem alphanumeric_ascii (point : Nat) (good : alphanumeric point = true) : 32 ≤ point ∧ point < 127 := by
  simp only [alphanumeric, decide_eq_true_eq] at good
  omega

theorem identifier_bounded (marks : Text) (most : Nat) (text : Text) (good : isIdentifier marks most text = true)
    (short : most ≤ 255) (visible : ∀ point ∈ marks, 32 ≤ point ∧ point < 127) :
    isBounded text = true ∧ utf8Length text = text.length ∧ text.length ≤ most + 1 := by
  have length : text ≠ [] ∧ text.length ≤ most + 1 := by
    cases text with
    | nil => cases good
    | cons first rest =>
        simp only [isIdentifier, Bool.and_eq_true, decide_eq_true_eq] at good
        refine ⟨by simp, ?_⟩
        rw [List.length_cons]
        exact Nat.succ_le_succ good.1.2
  have plain : ∀ point ∈ text, 32 ≤ point ∧ point < 127 := by
    intro point listed
    rcases identifier_point marks most text good point listed with ascii | mark
    · exact alphanumeric_ascii point ascii
    · exact visible point mark
  obtain ⟨bounded, size⟩ := ascii_bounded text length.1 (by omega) plain
  exact ⟨bounded, size, length.2⟩

theorem opaque_id_bounded (id : OpaqueId) : isBounded id.text = true ∧ utf8Length id.text ≤ 256 := by
  obtain ⟨bounded, size, short⟩ := identifier_bounded (lit "_.:-") 255 id.text id.good (by omega) (by decide +kernel)
  exact ⟨bounded, by rw [size]; exact short⟩

theorem operation_id_bounded (id : OperationId) : isBounded id.text = true ∧ utf8Length id.text ≤ 256 := by
  obtain ⟨bounded, size, short⟩ := identifier_bounded (lit "_.-") 127 id.text id.good (by omega) (by decide +kernel)
  exact ⟨bounded, by rw [size]; omega⟩

theorem digest_bounded (digest : Digest) : isBounded digest.text = true ∧ utf8Length digest.text ≤ 256 := by
  have good := digest.good
  simp only [isDigest, Bool.and_eq_true, decide_eq_true_eq, List.all_eq_true] at good
  obtain ⟨length, hex⟩ := good
  obtain ⟨bounded, size⟩ := ascii_bounded digest.text (List.ne_nil_of_length_pos (by omega)) (by omega) (by
    intro point listed
    have range := hex point listed
    omega)
  exact ⟨bounded, by rw [size]; omega⟩

theorem fits_ascii (classes : List (Nat → Bool)) (text : Text) (good : fits classes text = true)
    (visible : ∀ allows ∈ classes, ∀ point, allows point = true → 32 ≤ point ∧ point < 127) :
    text.length = classes.length ∧ ∀ point ∈ text, 32 ≤ point ∧ point < 127 := by
  induction classes generalizing text with
  | nil =>
      cases text with
      | nil => simp
      | cons point rest => cases good
  | cons allows classes ih =>
      cases text with
      | nil => cases good
      | cons point rest =>
          simp only [fits, Bool.and_eq_true] at good
          obtain ⟨length, plain⟩ := ih rest good.2 fun other listed => visible other (List.mem_cons_of_mem _ listed)
          refine ⟨by simp [length], fun other listed => ?_⟩
          rcases List.mem_cons.mp listed with rfl | later
          · exact visible allows List.mem_cons_self _ good.1
          · exact plain other later

theorem one_of_ascii (marks : String) (visible : ∀ point ∈ lit marks, 32 ≤ point ∧ point < 127) (point : Nat)
    (allowed : oneOf marks point = true) : 32 ≤ point ∧ point < 127 :=
  visible point (of_decide_eq_true allowed)

theorem uuid_bounded (uuid : Uuid) : isBounded uuid.text = true ∧ utf8Length uuid.text ≤ 256 := by
  have hex : ∀ point, isHex point = true → 32 ≤ point ∧ point < 127 := by
    intro point allowed
    simp only [isHex, decide_eq_true_eq] at allowed
    omega
  have dash := one_of_ascii "-" (by decide +kernel)
  have version := one_of_ascii "12345" (by decide +kernel)
  have variant := one_of_ascii "89ab" (by decide +kernel)
  obtain ⟨length, plain⟩ := fits_ascii _ uuid.text uuid.good (by
    intro allows listed
    simp only [List.mem_append, List.mem_replicate, List.mem_cons, List.not_mem_nil, or_false] at listed
    rcases listed with ((((((((⟨-, rfl⟩ | rfl) | ⟨-, rfl⟩) | rfl | rfl) | ⟨-, rfl⟩) | rfl | rfl) | ⟨-,
    rfl⟩) | rfl) | ⟨-, rfl⟩)
    all_goals assumption)
  have counted : uuid.text.length = 36 := length
  obtain ⟨bounded, size⟩ := ascii_bounded uuid.text (List.ne_nil_of_length_pos (by omega)) (by omega) plain
  exact ⟨bounded, by rw [size]; omega⟩

@[simp] theorem opaque_id_read (id : OpaqueId) (field : String) : opaqueId id.json field = .ok id := by
  have bounded : boundedText id.json field = .ok id.text :=
    (bounded_text_ok_iff _ _ _).mpr ⟨rfl, (opaque_id_bounded id).1⟩
  unfold opaqueId
  rw [bounded, bind_ok]
  exact matching_checked id _

@[simp] theorem retry_read (written : Option Retry) : retry (retryJson written) = .ok written := by
  cases written with
  | none => rfl
  | some found =>
      have operation : boundedText found.operationId.json "retry_of.operation_id" = .ok found.operationId.text :=
        (bounded_text_ok_iff _ _ _).mpr ⟨rfl, (operation_id_bounded _).1⟩
      have attempt : boundedText found.attemptId.json "retry_of.attempt_id" = .ok found.attemptId.text :=
        (bounded_text_ok_iff _ _ _).mpr ⟨rfl, (uuid_bounded _).1⟩
      have digest : ∀ (digest : Digest) field, boundedText digest.json field = .ok digest.text :=
        fun digest field => (bounded_text_ok_iff _ _ _).mpr ⟨rfl, (digest_bounded _).1⟩
      simp [retry, retryJson, Retry.json, Json.hasFields, Json.item, Dict.getItem, lit_inj, isCheck, Json.isText,
        operation, attempt, digest, refuse]

theorem criterion_read (written : Criterion) (fresh : written.id ∉ seen) :
    criterion seen written.json = .ok written := by
  simp [criterion, Criterion.json, Json.hasFields, Json.item, Dict.getItem, lit_inj, refuse, fresh]

theorem normalized_criteria_read (written : List Criterion)
    (unique : (written.map Criterion.id).Nodup) (fresh : ∀ listed ∈ written, listed.id ∉ seen) :
    normalizedCriteria seen (written.map Criterion.json) = .ok written := by
  induction written generalizing seen with
  | nil => rfl
  | cons first rest ih =>
      rw [List.map_cons, List.nodup_cons] at unique
      have later : ∀ listed ∈ rest, listed.id ∉ first.id :: seen := by
        intro listed inside member
        rcases List.mem_cons.mp member with same | known
        · exact unique.1 (List.mem_map.mpr ⟨listed, inside, same⟩)
        · exact fresh listed (List.mem_cons_of_mem _ inside) known
      rw [List.map_cons, normalizedCriteria, criterion_read seen first (fresh first List.mem_cons_self), bind_ok,
        ih (first.id :: seen) unique.2 later, bind_ok]
      rfl

theorem criteria_read (written : Criteria) : criteria (.arr (written.items.map Criterion.json)) = .ok written := by
  have found := normalized_criteria_read [] written.items written.unique (by simp)
  have counted : written.items.map Criterion.json ≠ [] ∧ (written.items.map Criterion.json).length ≤ maxCriteria := by
    simpa using written.counted
  simp only [criteria]
  rw [dif_pos counted]
  split
  · rename_i items done
    cases found.symm.trans done
    rfl
  · rename_i fault failed
    cases found.symm.trans failed

theorem declaration_read (written : Declaration) : normalizeDeclaration written.json = .ok written := by
  simp [normalizeDeclaration, Declaration.json, Json.hasFields, Json.item, Dict.getItem, lit_inj, refuse,
    isVersionOne, Json.isText, criteria_read]

end OrchestratorEngine.Applicability
