import OrchestratorEngine.Applicability.Admissions

set_option autoImplicit false

namespace OrchestratorEngine.Applicability

open Foundation
open ResourceAdapters (Text Json lit isDigest)

variable (depth : Nat)

theorem bounded_str (text : Text) (shallow : depth ≤ maxDepth) (good : isBounded text = true) :
    boundedStructure depth (.str text) = .ok () := by
  have read : boundedText (.str text) "value" = .ok text := (bounded_text_ok_iff _ _ _).mpr ⟨rfl, good⟩
  simp [boundedStructure, refuse, Nat.not_lt.mpr shallow, read]

theorem bounded_fields (fields : List (Text × Json))
    (names : (fields.map Prod.fst).all isBounded = true)
    (items : ∀ entry ∈ fields, boundedStructure depth entry.2 = .ok ()) : boundedFields depth fields = .ok () := by
  induction fields with
  | nil => rfl
  | cons entry rest ih =>
      obtain ⟨name, item⟩ := entry
      rw [List.map_cons, List.all_cons, Bool.and_eq_true] at names
      have read : boundedText (.str name) "field name" = .ok name := (bounded_text_ok_iff _ _ _).mpr ⟨rfl, names.1⟩
      rw [boundedFields, read, bind_ok, items (name, item) List.mem_cons_self, bind_ok]
      exact ih names.2 fun other listed => items other (List.mem_cons_of_mem _ listed)

theorem bounded_obj (fields : List (Text × Json)) (shallow : depth ≤ maxDepth)
    (few : fields.length ≤ 32) (names : (fields.map Prod.fst).all isBounded = true)
    (items : ∀ entry ∈ fields, boundedStructure (depth + 1) entry.2 = .ok ()) :
    boundedStructure depth (.obj fields) = .ok () := by
  have inside := bounded_fields (depth + 1) fields names items
  simp [boundedStructure, refuse, Nat.not_lt.mpr shallow, Nat.not_lt.mpr few, inside]

variable (items : List Json)

theorem bounded_items (each : ∀ item ∈ items, boundedStructure depth item = .ok ()) :
    boundedItems depth items = .ok () := by
  induction items with
  | nil => rfl
  | cons item rest ih =>
      rw [boundedItems, each item List.mem_cons_self, bind_ok]
      exact ih fun other listed => each other (List.mem_cons_of_mem _ listed)

theorem bounded_arr (shallow : depth ≤ maxDepth) (few : items.length ≤ maxCriteria)
    (each : ∀ item ∈ items, boundedStructure (depth + 1) item = .ok ()) :
    boundedStructure depth (.arr items) = .ok () := by
  have inside := bounded_items (depth + 1) items each
  simp [boundedStructure, refuse, Nat.not_lt.mpr shallow, Nat.not_lt.mpr few, inside]

theorem bounded_int (value : Int) (shallow : depth ≤ maxDepth) :
    boundedStructure depth (.int value) = .ok () := by
  simp [boundedStructure, refuse, Nat.not_lt.mpr shallow]

theorem bounded_null (shallow : depth ≤ maxDepth) : boundedStructure depth .null = .ok () := by
  simp [boundedStructure, refuse, Nat.not_lt.mpr shallow]

theorem bounded_digest (digest : Digest) (shallow : depth ≤ maxDepth) :
    boundedStructure depth digest.json = .ok () := bounded_str depth _ shallow (digest_bounded digest).1

theorem bounded_id (id : OpaqueId) (shallow : depth ≤ maxDepth) :
    boundedStructure depth id.json = .ok () := bounded_str depth _ shallow (opaque_id_bounded id).1

theorem bounded_operation (id : OperationId) (shallow : depth ≤ maxDepth) :
    boundedStructure depth id.json = .ok () := bounded_str depth _ shallow (operation_id_bounded id).1

theorem bounded_uuid (uuid : Uuid) (shallow : depth ≤ maxDepth) :
    boundedStructure depth uuid.json = .ok () := bounded_str depth _ shallow (uuid_bounded uuid).1

theorem bounded_lit (text : String) (shallow : depth ≤ maxDepth) (good : isBounded (lit text) = true) :
    boundedStructure depth (.str (lit text)) = .ok () := bounded_str depth _ shallow good

theorem bounded_retry (retry : Option Retry) (shallow : depth + 1 ≤ maxDepth) :
    boundedStructure depth (retryJson retry) = .ok () := by
  cases retry with
  | none => exact bounded_null depth (by omega)
  | some found =>
      refine bounded_obj depth _ (by omega) (by simp) rfl ?_
      simp only [List.mem_cons, List.not_mem_nil, or_false]
      rintro entry (rfl | rfl | rfl | rfl | rfl | rfl)
      · exact bounded_digest _ _ shallow
      · exact bounded_uuid _ _ shallow
      · exact bounded_digest _ _ shallow
      · exact bounded_operation _ _ shallow
      · exact bounded_lit _ "check" shallow rfl
      · exact bounded_digest _ _ shallow

theorem bounded_criterion (criterion : Criterion) (shallow : depth + 1 ≤ maxDepth) :
    boundedStructure depth criterion.json = .ok () := by
  refine bounded_obj depth _ (by omega) (by simp) rfl ?_
  simp only [List.mem_cons, List.not_mem_nil, or_false]
  rintro entry (rfl | rfl)
  · exact bounded_id _ _ shallow
  · exact bounded_id _ _ shallow

variable (declaration : Declaration)

theorem bounded_declaration (shallow : depth + 3 ≤ maxDepth) :
    boundedStructure depth declaration.json = .ok () := by
  refine bounded_obj depth _ (by omega) (by simp) rfl ?_
  simp only [List.mem_cons, List.not_mem_nil, or_false]
  rintro entry (rfl | rfl | rfl | rfl | rfl | rfl | rfl | rfl)
  · exact bounded_id _ _ (by omega)
  · refine bounded_arr _ _ (by omega) (by simpa using declaration.criteria.counted.2) fun item listed => ?_
    obtain ⟨criterion, _, rfl⟩ := List.mem_map.mp listed
    exact bounded_criterion _ criterion (by omega)
  · exact bounded_lit _ declarationKind (by omega) rfl
  · exact bounded_id _ _ (by omega)
  · exact bounded_retry _ _ (by omega)
  · exact bounded_id _ _ (by omega)
  · exact bounded_int _ _ (by omega)
  · exact bounded_id _ _ (by omega)

theorem bounded_source (source : Source) (shallow : depth + 1 ≤ maxDepth)
    (named : isBounded source.projectId = true) : boundedStructure depth source.json = .ok () := by
  refine bounded_obj depth _ (by omega) (by simp) rfl ?_
  simp only [List.mem_cons, List.not_mem_nil, or_false]
  rintro entry (rfl | rfl | rfl | rfl)
  · exact bounded_int _ _ shallow
  · exact bounded_digest _ _ shallow
  · exact bounded_str _ _ shallow named
  · exact bounded_digest _ _ shallow

theorem bounded_request (declarationSha256 suiteFingerprint : Digest) (retryOf : Option Retry) (source : Source)
    (named : isBounded source.projectId = true) :
    boundedStructure 0 (requestPayload declarationSha256 retryOf suiteFingerprint source) = .ok () := by
  refine bounded_obj 0 _ (by decide) (by simp) rfl ?_
  simp only [List.mem_cons, List.not_mem_nil, or_false]
  rintro entry (rfl | rfl | rfl | rfl)
  · exact bounded_digest _ _ (by decide)
  · exact bounded_retry _ _ (by decide)
  · exact bounded_source _ _ (by decide) named
  · exact bounded_digest _ _ (by decide)

theorem digit_shown (value : Nat) : isDigit (48 + value % 10) = true := by
  simp only [isDigit, decide_eq_true_eq]
  omega

theorem number_two (value : Nat) (small : value < 100) :
    number [48 + value / 10 % 10, 48 + value % 10] = value := by
  simp only [number, List.foldl]
  omega

theorem number_four (value : Nat) (small : value < 10000) :
    number [48 + value / 1000 % 10, 48 + value / 100 % 10, 48 + value / 10 % 10, 48 + value % 10] = value := by
  simp only [number, List.foldl]
  omega

theorem shown_fraction (millisecond : Nat) :
    isFraction (lit "." ++ decimal 3 millisecond ++ lit "+00:00") = true := by
  have dot : lit "." = [46] := rfl
  have zone : lit "+00:00" = [43, 48, 48, 58, 48, 48] := rfl
  have ends : isZone (lit "+00:00") = true := rfl
  rw [zone] at ends
  have stop : isDigit 43 = false := rfl
  simp [dot, zone, decimal, isFraction, digit_shown, stop, ends]

theorem utc_now_eq (now : Moment) :
    utcNow now = (48 + now.year / 1000 % 10) :: (48 + now.year / 100 % 10) :: (48 + now.year / 10 % 10) ::
      (48 + now.year % 10) :: 45 :: (48 + now.month / 10 % 10) :: (48 + now.month % 10) :: 45 ::
      (48 + now.day / 10 % 10) :: (48 + now.day % 10) :: 84 :: (48 + now.hour / 10 % 10) ::
      (48 + now.hour % 10) :: 58 ::
      (48 + now.minute / 10 % 10) :: (48 + now.minute % 10) :: 58 :: (48 + now.second / 10 % 10) ::
      (48 + now.second % 10) :: (lit "." ++ decimal 3 now.millisecond ++ lit "+00:00") := by
  have dash : lit "-" = [45] := rfl
  have tee : lit "T" = [84] := rfl
  have colon : lit ":" = [58] := rfl
  simp [utcNow, decimal, dash, tee, colon]

theorem now_timestamp (now : Moment) : isUtcTime (utcNow now) = true := by
  have real := now.real
  have range := real
  simp only [isMoment, decide_eq_true_eq] at range
  have month : daysIn now.year now.month ≤ 31 := by
    unfold daysIn
    split
    · split <;> omega
    · split <;> omega
  rw [utc_now_eq]
  simp only [isUtcTime, shown_fraction, number_four now.year (by omega), number_two now.month (by omega),
    number_two now.day (by omega), number_two now.hour (by omega), number_two now.minute (by omega),
    number_two now.second (by omega), real, List.all_cons, List.all_nil, digit_shown, Bool.and_true]

theorem now_bounded (now : Moment) : isBounded (utcNow now) = true ∧ (utcNow now).length = 29 := by
  have length : (utcNow now).length = 29 := by
    rw [utc_now_eq]
    rfl
  refine ⟨(ascii_bounded _ (List.ne_nil_of_length_pos (by omega)) (by omega) ?_).1, length⟩
  have zone : lit "+00:00" = [43, 48, 48, 58, 48, 48] := rfl
  have dot : lit "." = [46] := rfl
  rw [utc_now_eq, zone, dot]
  simp only [decimal, List.cons_append, List.nil_append, List.mem_cons, List.not_mem_nil, or_false]
  intro point listed
  omega

@[simp] theorem now_read (now : Moment) (field : String) : utcTime (.str (utcNow now)) field = .ok (utcNow now) := by
  have read : boundedText (.str (utcNow now)) field = .ok (utcNow now) :=
    (bounded_text_ok_iff _ _ _).mpr ⟨rfl, (now_bounded now).1⟩
  simp [utcTime, read, refuse, now_timestamp, (now_bounded now).2]

theorem engine_bounded : isBounded (lit engineVersion) = true := rfl

theorem bounded_artifact (operationId : OperationId) (artifact : Artifact) (now : Moment)
    (captured : artifact.capturedAt = utcNow now) (named : isBounded artifact.source.projectId = true)
    (engine : isBounded artifact.engineVersion = true) (python : isBounded artifact.pythonVersion = true) :
    boundedStructure 0 (artifact.json operationId) = .ok () := by
  refine bounded_obj 0 _ (by decide) (by simp) rfl ?_
  simp only [List.mem_cons, List.not_mem_nil, or_false]
  rintro entry (rfl | rfl | rfl | rfl | rfl | rfl | rfl | rfl | rfl | rfl | rfl | rfl | rfl | rfl | rfl | rfl)
  · exact bounded_int _ _ (by decide)
  · rfl
  · exact bounded_uuid _ _ (by decide)
  · exact bounded_str _ _ (by decide) (captured ▸ (now_bounded now).1)
  · exact bounded_declaration _ _ (by decide)
  · exact bounded_digest _ _ (by decide)
  · exact bounded_digest _ _ (by decide)
  · exact bounded_lit _ artifactKind (by decide) rfl
  · exact bounded_operation _ _ (by decide)
  · exact bounded_lit _ "check" (by decide) rfl
  · refine bounded_obj _ _ (by decide) (by simp) rfl ?_
    simp only [List.mem_cons, List.not_mem_nil, or_false]
    rintro entry (rfl | rfl)
    · exact bounded_str _ _ (by decide) engine
    · exact bounded_str _ _ (by decide) python
  · exact bounded_digest _ _ (by decide)
  · exact bounded_retry _ _ (by decide)
  · exact bounded_int _ _ (by decide)
  · exact bounded_source _ _ (by decide) named
  · exact bounded_digest _ _ (by decide)

theorem orderly_items (each : ∀ item ∈ items, orderly item = true) : orderlyItems items = true := by
  induction items with
  | nil => rfl
  | cons item rest ih =>
      rw [orderlyItems, each item List.mem_cons_self, Bool.true_and]
      exact ih fun other listed => each other (List.mem_cons_of_mem _ listed)

theorem orderly_retry (retry : Option Retry) : orderly (retryJson retry) = true := by
  cases retry with
  | none => rfl
  | some found => rfl

theorem orderly_declaration : orderly declaration.json = true := by
  have criteria : orderlyItems (declaration.criteria.items.map Criterion.json) = true := by
    refine orderly_items _ fun item listed => ?_
    obtain ⟨criterion, _, rfl⟩ := List.mem_map.mp listed
    rfl
  simp only [Declaration.json, orderly, orderlyFields, orderly_retry, criteria, Checked.json]
  rfl

theorem orderly_source (source : Source) : orderly source.json = true := rfl

theorem orderly_request (declarationSha256 suiteFingerprint : Digest) (retryOf : Option Retry) (source : Source) :
    orderly (requestPayload declarationSha256 retryOf suiteFingerprint source) = true := by
  simp only [requestPayload, orderly, orderlyFields, orderly_retry, orderly_source, Checked.json]
  rfl

theorem orderly_artifact (operationId : OperationId) (artifact : Artifact) :
    orderly (artifact.json operationId) = true := by
  simp only [Artifact.json, orderly, orderlyFields, orderly_retry, orderly_source, orderly_declaration, Checked.json]
  rfl

theorem tidy_declaration : Tidy declaration.json :=
  ⟨bounded_declaration 0 declaration (by decide), orderly_declaration declaration⟩

theorem tidy_request (declarationSha256 suiteFingerprint : Digest) (retryOf : Option Retry) (source : Source)
    (named : isBounded source.projectId = true) :
    Tidy (requestPayload declarationSha256 retryOf suiteFingerprint source) :=
  ⟨bounded_request declarationSha256 suiteFingerprint retryOf source named, orderly_request _ _ _ _⟩

end OrchestratorEngine.Applicability
