import OrchestratorEngine.ResourceAdapters.Results

set_option autoImplicit false

namespace OrchestratorEngine.ResourceAdapters

open Foundation

def goodName : Json → Bool
  | .str text =>
      decide (text ≠ []) && !text.any surrogate && decide ((text.map utf8Size).sum ≤ 160) && !text.any control
  | _ => false

def safeName : Json → Bool
  | .str text => decide (text = []) || !text.any surrogate
  | _ => true

def goodStatus : Json → Bool
  | .str text => decide (text ∈ verdicts)
  | _ => false

def goodSha256 : Json → Bool
  | .str text => isDigest text
  | _ => false

def goodSize : Json → Bool
  | .int size => decide (0 ≤ size ∧ size ≤ 8 * 1024 * 1024)
  | _ => false

def goodRecord : Json → Bool
  | .obj fields =>
      Json.hasFields ["name", "status", "sha256", "size_bytes"] fields && goodName (Json.item "name" fields) &&
      goodStatus (Json.item "status" fields) && goodSha256 (Json.item "sha256" fields) &&
      goodSize (Json.item "size_bytes" fields)
  | _ => false

def safeRecord : Json → Bool
  | .obj fields => !Json.hasFields ["name", "status", "sha256", "size_bytes"] fields ||
      safeName (Json.item "name" fields) &&
        (!goodName (Json.item "name" fields) || (Json.item "status" fields).hashable)
  | _ => true

variable (value : Json)

theorem bounded_text_confined :
    Confined Failure.expected (boundedText value "evidence name" 160) ↔ safeName value = true := by
  cases value with
  | str text =>
      by_cases empty : text = []
      · simp [boundedText, safeName, empty, Failure.expected]
      · simp [boundedText, safeName, empty, Failure.expected]
  | _ => simp [boundedText, safeName, Failure.expected]

theorem bounded_text_ok (text : Text) :
    boundedText value "evidence name" 160 = .ok text ↔ value = .str text ∧ goodName value = true := by
  cases value with
  | str given =>
      simp only [boundedText, goodName, bind_ok_iff, refuse_ok_iff, pure_ok, Except.ok.injEq, exists_const, not_or,
        Nat.not_lt, Bool.not_eq_true, Bool.and_eq_true, decide_eq_true_eq, Bool.not_eq_true', Json.str.injEq]
      constructor
      · rintro ⟨some_, whole, ⟨short, plain⟩, same⟩
        exact ⟨same, ⟨⟨some_, whole⟩, short⟩, plain⟩
      · rintro ⟨same, ⟨⟨some_, whole⟩, short⟩, plain⟩
        exact ⟨some_, whole, ⟨short, plain⟩, same⟩
  | _ => simp [boundedText]

theorem among_good : value.among verdicts = .ok true ↔ goodStatus value = true := by
  cases value <;> simp [Json.among, Json.hashable, goodStatus]

theorem good_name_text (good : goodName value = true) : ∃ text, value = .str text := by
  cases value with
  | str text => exact ⟨text, rfl⟩
  | _ => cases good

@[simp] theorem check_sha256_confined (value : Json) : Confined Failure.expected (checkSha256 value) := by
  cases value <;> simp [checkSha256, Failure.expected]

@[simp] theorem check_size_confined (value : Json) : Confined Failure.expected (checkSize value) := by
  cases value <;> simp [checkSize, Failure.expected]

theorem check_sha256_ok (done : Unit) : checkSha256 value = .ok done ↔ goodSha256 value = true := by
  cases value <;> simp [checkSha256, goodSha256]

theorem check_size_ok (done : Unit) : checkSize value = .ok done ↔ goodSize value = true := by
  cases value <;> simp [checkSize, goodSize]

theorem record_confined (record : Json) : Confined Failure.expected (checkRecord record) ↔
    safeRecord record = true := by
  cases record with
  | obj fields =>
      have measured : (∀ text, Json.item "name" fields = .str text ∧ goodName (Json.item "name" fields) = true →
          (Json.item "status" fields).hashable = true) ↔
          goodName (Json.item "name" fields) = false ∨ (Json.item "status" fields).hashable = true := by
        cases good : goodName (Json.item "name" fields) with
        | false => simp
        | true =>
            cases named : Json.item "name" fields with
            | str text => simp
            | _ => rw [named] at good; cases good
      simp only [checkRecord, safeRecord, confined_bind, confined_refuse, Failure.expected, implies_true, true_and,
        refuse_ok_iff, bounded_text_confined, among_confined, bounded_text_ok, check_sha256_confined,
        check_size_confined,
        pure_ok, confined_ok, and_true, forall_const, measured, Bool.or_eq_true, Bool.and_eq_true, Bool.not_eq_true']
      cases Json.hasFields ["name", "status", "sha256", "size_bytes"] fields <;> simp
  | _ => simp [checkRecord, safeRecord, Failure.expected]

theorem record_ok (record : Json) : (∃ kept, checkRecord record = .ok kept) ↔ goodRecord record = true := by
  cases record with
  | obj fields =>
      simp only [checkRecord, goodRecord, bind_ok_iff, refuse_ok_iff, pure_ok, bounded_text_ok, Bool.and_eq_true]
      constructor
      · rintro ⟨_, _, whole, name, ⟨_, named⟩, known, hashed, _, certain, _, digest, _, size, _⟩
        rw [Bool.not_eq_false] at whole certain
        subst certain
        exact ⟨⟨⟨⟨whole, named⟩, (among_good _).mp hashed⟩, (check_sha256_ok _ _).mp digest⟩,
          (check_size_ok _ _).mp size⟩
      · rintro ⟨⟨⟨⟨whole, named⟩, status⟩, digest⟩, size⟩
        obtain ⟨name, text⟩ := good_name_text _ named
        exact ⟨_, (), by simp [whole], name, ⟨text, named⟩, true, (among_good _).mpr status, (), by simp, (),
          (check_sha256_ok _ _).mpr digest, (), (check_size_ok _ _).mpr size, rfl⟩
  | _ => simp [checkRecord, goodRecord]

def goodExit (status : Json) : Json → Bool
  | .int code => goodStatus status && (status.isText (lit "passed") == decide (code = 0))
  | _ => false

def goodEvidence : Json → Bool
  | .arr records => decide (records.length ≤ 64) && records.all goodRecord
  | _ => false

def safeEvidence : Json → Bool
  | .arr records => decide (64 < records.length) || reached goodRecord safeRecord records
  | _ => true

def opensPhase (fields : List (Text × Json)) (name : String) : Bool :=
  Json.hasFields ["name", "status", "exit_code", "evidence"] fields && (Json.item "name" fields).isText (lit name)

def goodPhase (entry : Json × String) : Bool :=
  match entry.1 with
  | .obj fields => opensPhase fields entry.2 && goodExit (Json.item "status" fields) (Json.item "exit_code" fields) &&
      goodEvidence (Json.item "evidence" fields)
  | _ => false

def safePhase (entry : Json × String) : Bool :=
  match entry.1 with
  | .obj fields => !opensPhase fields entry.2 || (Json.item "status" fields).hashable &&
      (!goodExit (Json.item "status" fields) (Json.item "exit_code" fields) ||
      safeEvidence (Json.item "evidence" fields))
  | _ => true

theorem check_exit_confined (status exitCode : Json) :
    Confined Failure.expected (checkExit status exitCode) ↔ status.hashable = true := by
  cases exitCode <;> simp [checkExit, Failure.expected]

theorem check_exit_ok (status exitCode : Json) (done : Unit) :
    checkExit status exitCode = .ok done ↔ goodExit status exitCode = true := by
  cases exitCode with
  | int code =>
      simp only [checkExit, goodExit, bind_ok_iff, refuse_ok_iff, Bool.and_eq_true, beq_iff_eq, ← among_good]
      constructor
      · rintro ⟨known, hashed, _, certain, agree⟩
        rw [Bool.not_eq_false] at certain
        subst certain
        exact ⟨hashed, not_not.mp agree⟩
      · rintro ⟨hashed, agree⟩
        exact ⟨true, hashed, (), by simp, not_not.mpr agree⟩
  | _ => simp [checkExit, goodExit, bind_ok_iff]

theorem check_evidence_confined (evidence : Json) :
    Confined Failure.expected (checkEvidence evidence) ↔ safeEvidence evidence = true := by
  cases evidence with
  | arr records =>
      simp only [checkEvidence, safeEvidence, confined_bind, confined_refuse, Failure.expected, implies_true, true_and,
        refuse_ok_iff, forall_const, confined_map_m checkRecord goodRecord safeRecord record_confined record_ok,
        Bool.or_eq_true, decide_eq_true_eq]
      exact imp_iff_not_or.trans (by rw [not_not])
  | _ => simp [checkEvidence, safeEvidence, Failure.expected]

theorem check_evidence_ok (evidence : Json) :
    (∃ records, checkEvidence evidence = .ok records) ↔ goodEvidence evidence = true := by
  cases evidence with
  | arr records =>
      have each := map_m_ok_iff checkRecord goodRecord record_ok records
      simp only [checkEvidence, goodEvidence, bind_ok_iff, refuse_ok_iff, Nat.not_lt, Bool.and_eq_true,
        decide_eq_true_eq,
        ← each]
      constructor
      · rintro ⟨kept, _, few, done⟩
        exact ⟨few, kept, done⟩
      · rintro ⟨few, kept, done⟩
        exact ⟨kept, (), few, done⟩
  | _ => simp [checkEvidence, goodEvidence]

variable (entry : Json × String)

theorem phase_confined :
    Confined Failure.expected (checkPhase entry) ↔ safePhase entry = true := by
  obtain ⟨phase, name⟩ := entry
  cases phase with
  | obj fields =>
      simp only [checkPhase, safePhase, opensPhase, confined_bind, confined_refuse, Failure.expected,
        implies_true, true_and,
        refuse_ok_iff, forall_const, check_exit_confined, check_evidence_confined, check_exit_ok, pure_ok, confined_ok,
        and_true, Bool.or_eq_true, Bool.and_eq_true, Bool.not_eq_true']
      cases Json.hasFields ["name", "status", "exit_code", "evidence"] fields <;>
        cases (Json.item "name" fields).isText (lit name) <;>
        cases goodExit (Json.item "status" fields) (Json.item "exit_code" fields) <;> simp
  | _ => simp [checkPhase, safePhase, Failure.expected]

theorem phase_ok : (∃ kept, checkPhase entry = .ok kept) ↔ goodPhase entry = true := by
  obtain ⟨phase, name⟩ := entry
  cases phase with
  | obj fields =>
      simp only [checkPhase, goodPhase, opensPhase, bind_ok_iff, refuse_ok_iff, pure_ok, Bool.not_eq_false,
        Bool.and_eq_true, check_exit_ok, ← check_evidence_ok]
      constructor
      · rintro ⟨_, _, whole, _, named, _, exits, records, evidence, _⟩
        exact ⟨⟨⟨whole, named⟩, exits⟩, records, evidence⟩
      · rintro ⟨⟨⟨whole, named⟩, exits⟩, records, evidence⟩
        exact ⟨_, (), whole, (), named, (), exits, records, evidence, rfl⟩
  | _ => simp [checkPhase, goodPhase]

theorem phase_status_kept (kept : Json) (done : checkPhase entry = .ok kept) (status : String) :
    kept.statusIs status = entry.1.statusIs status := by
  obtain ⟨phase, name⟩ := entry
  cases phase with
  | obj fields =>
      simp only [checkPhase, bind_ok_iff, pure_ok, Except.ok.injEq] at done
      obtain ⟨_, _, _, _, _, _, records, _, rfl⟩ := done
      have apart : lit "status" ≠ lit "evidence" := by decide
      simp only [Json.statusIs, Json.item, Dict.get_set_items, if_neg apart]
  | _ => cases done

theorem phases_status_kept (entries : List (Json × String)) (normalized : List Json)
    (done : entries.mapM checkPhase = .ok normalized) (status : String) :
    normalized.map (Json.statusIs status) = entries.map fun entry => entry.1.statusIs status := by
  induction entries generalizing normalized with
  | nil =>
      cases done
      rfl
  | cons entry rest ih =>
      simp only [List.mapM_cons, bind_ok_iff, pure_ok, Except.ok.injEq] at done
      obtain ⟨kept, here, later, there, rfl⟩ := done
      rw [List.map_cons, List.map_cons, phase_status_kept entry kept here, ih later there]

def opensResult (fields : List (Text × Json)) (expected : Expected) : Bool :=
  Json.hasFields ["schema_version", "kind", "contract_digest", "candidate_digest", "previous_boundary", "status",
    "phases"] fields && (Json.item "schema_version" fields).isOne &&
    (Json.item "kind" fields).isText (lit releaseUpgradeResultKind) &&
    ((Json.item "contract_digest" fields).isText expected.contractDigest && isDigest expected.contractDigest) &&
    ((Json.item "candidate_digest" fields).isText expected.candidateDigest && isDigest expected.candidateDigest) &&
    (Json.item "previous_boundary" fields).isText expected.previousBoundary

@[simp] theorem check_binding_confined (fields : List (Text × Json)) (expected : Expected) :
    Confined Failure.expected (checkBinding fields expected) := by
  simp [checkBinding, Failure.expected]

theorem check_binding_ok (fields : List (Text × Json)) (expected : Expected) (done : Unit) :
    checkBinding fields expected = .ok done ↔ opensResult fields expected = true := by
  simp [checkBinding, opensResult, bind_ok_iff, not_or, and_assoc]

def named (phases : List Json) : List (Json × String) := phases.zip releaseUpgradePhases

def goodPhases : Json → Bool
  | .arr phases => decide (phases ≠ [] ∧ phases.length ≤ releaseUpgradePhases.length) && (named phases).all goodPhase
  | _ => false

def safePhases : Json → Bool
  | .arr phases => decide (phases = [] ∨ releaseUpgradePhases.length < phases.length) ||
      reached goodPhase safePhase (named phases)
  | _ => true

theorem check_phases_confined (phases : Json) :
    Confined Failure.expected (checkPhases phases) ↔ safePhases phases = true := by
  cases phases with
  | arr phases =>
      simp only [checkPhases, safePhases, confined_bind, confined_refuse, Failure.expected, implies_true, true_and,
        refuse_ok_iff, forall_const, named, confined_map_m checkPhase goodPhase safePhase phase_confined phase_ok,
        Bool.or_eq_true, decide_eq_true_eq]
      exact imp_iff_not_or.trans (by rw [not_not])
  | _ => simp [checkPhases, safePhases, Failure.expected]

theorem check_phases_ok (phases : Json) : (∃ kept, checkPhases phases = .ok kept) ↔ goodPhases phases = true := by
  cases phases with
  | arr phases =>
      have each := map_m_ok_iff checkPhase goodPhase phase_ok (named phases)
      simp only [checkPhases, goodPhases, bind_ok_iff, refuse_ok_iff, not_or, Nat.not_lt, Bool.and_eq_true,
        decide_eq_true_eq, ← each]
      constructor
      · rintro ⟨kept, _, bounded, done⟩
        exact ⟨bounded, kept, done⟩
      · rintro ⟨bounded, kept, done⟩
        exact ⟨kept, (), bounded, done⟩
  | _ => simp [checkPhases, goodPhases]

def goodOutcome (status : Json) (phases : List Json) : Bool :=
  if status.isText (lit "passed") = true then
    decide (phases.length = releaseUpgradePhases.length) && phases.all (Json.statusIs "passed")
  else phases.getLast?.any (Json.statusIs "failed")

theorem named_phases (phases : List Json) (bounded : phases.length ≤ releaseUpgradePhases.length) :
    (named phases).map Prod.fst = phases := List.map_fst_zip bounded

theorem check_outcome_ok (status : Json) (phases normalized : List Json)
    (bounded : phases.length ≤ releaseUpgradePhases.length) (kept : (named phases).mapM checkPhase = .ok normalized)
    (done : Unit) : checkOutcome status normalized = .ok done ↔ goodOutcome status phases = true := by
  have statuses : ∀ text, normalized.map (Json.statusIs text) = phases.map (Json.statusIs text) := by
    intro text
    rw [phases_status_kept _ _ kept]
    exact (List.map_map (g := Json.statusIs text)).symm.trans (congrArg _ (named_phases phases bounded))
  have length : normalized.length = phases.length := by simpa using congrArg List.length (statuses "")
  have every : normalized.all (Json.statusIs "passed") = phases.all (Json.statusIs "passed") := by
    simpa [Function.comp_def] using congrArg (fun flags => flags.all id) (statuses "passed")
  have last : normalized.getLast?.any (Json.statusIs "failed") = phases.getLast?.any (Json.statusIs "failed") := by
    simpa [Option.any_map, Function.comp_def] using congrArg (fun flags => flags.getLast?.any id) (statuses "failed")
  rw [checkOutcome, goodOutcome]
  split
  · rw [refuse_ok_iff, length, ← every]
    simp only [not_or, not_not, Bool.and_eq_true, decide_eq_true_eq, List.all_eq_true, not_exists, not_and,
      Bool.not_eq_false]
  · rw [refuse_ok_iff, last, Bool.not_eq_false]

def statusOf (value : Json) : Json :=
  match value with
  | .obj fields => Json.item "status" fields
  | _ => .null

def phasesOf (value : Json) : List Json :=
  match value with
  | .obj fields =>
      match Json.item "phases" fields with
      | .arr phases => phases
      | _ => []
  | _ => []

-- What is reached of the value has a status that is no list or object, and names that can be encoded.
def safeResult (value : Json) (expected : Expected) : Bool :=
  match value with
  | .obj fields => !opensResult fields expected || (Json.item "status" fields).hashable &&
      (!goodStatus (Json.item "status" fields) || safePhases (Json.item "phases" fields))
  | _ => true

def goodResult (value : Json) (expected : Expected) : Bool :=
  match value with
  | .obj fields => opensResult fields expected && goodStatus (Json.item "status" fields) &&
      goodPhases (Json.item "phases" fields) && goodOutcome (Json.item "status" fields) (phasesOf value)
  | _ => false

def failsMidway (value : Json) : Bool :=
  !(statusOf value).isText (lit "passed") && (phasesOf value).dropLast.any (Json.statusIs "failed")

theorem among_judged (claim : Prop) :
    (∀ known, value.among verdicts = .ok known → ¬ known = false → claim) ↔ (goodStatus value = true → claim) := by
  constructor
  · intro judged good
    exact judged true ((among_good value).mpr good) (by simp)
  · intro judged known hashed certain
    rw [Bool.not_eq_false] at certain
    subst certain
    exact judged ((among_good value).mp hashed)

@[simp] theorem check_outcome_confined (status : Json) (normalized : List Json) :
    Confined Failure.expected (checkOutcome status normalized) := by
  rw [checkOutcome]
  split <;> simp [Failure.expected]

variable (expected : Expected)

theorem result_confined :
    Confined Failure.expected (validateReleaseUpgradeResult value expected) ↔ safeResult value expected = true := by
  cases value with
  | obj fields =>
      simp only [validateReleaseUpgradeResult, safeResult, confined_bind, check_binding_confined, among_confined,
        confined_refuse, Failure.expected, implies_true, true_and, refuse_ok_iff, forall_const, check_phases_confined,
        check_outcome_confined, pure_ok, confined_ok, and_true, Bool.or_eq_true, Bool.and_eq_true, Bool.not_eq_true',
        check_binding_ok, among_judged]
      cases opensResult fields expected <;> cases goodStatus (Json.item "status" fields) <;> simp
  | _ => simp [validateReleaseUpgradeResult, safeResult, Failure.expected]

theorem result_ok :
    (∃ result, validateReleaseUpgradeResult value expected = .ok result) ↔ goodResult value expected = true := by
  cases value with
  | obj fields =>
      simp only [validateReleaseUpgradeResult, goodResult, phasesOf, bind_ok_iff, refuse_ok_iff, pure_ok,
        check_binding_ok,
        Bool.and_eq_true, ← among_good]
      cases listed : Json.item "phases" fields with
      | arr phases =>
          have bounded : ∀ normalized, checkPhases (.arr phases) = .ok normalized →
              phases.length ≤ releaseUpgradePhases.length ∧ (named phases).mapM checkPhase = .ok normalized := by
            intro normalized done
            simp only [checkPhases, bind_ok_iff, refuse_ok_iff, not_or, Nat.not_lt] at done
            obtain ⟨_, fits, kept⟩ := done
            exact ⟨fits.2, kept⟩
          constructor
          · rintro ⟨_, _, opens, known, hashed, _, certain, normalized, kept, _, outcome, _⟩
            rw [Bool.not_eq_false] at certain
            subst certain
            obtain ⟨fits, each⟩ := bounded normalized kept
            exact ⟨⟨⟨opens, hashed⟩, (check_phases_ok _).mp ⟨normalized, kept⟩⟩,
              (check_outcome_ok _ phases normalized fits each _).mp outcome⟩
          · rintro ⟨⟨⟨opens, hashed⟩, good⟩, outcome⟩
            obtain ⟨normalized, kept⟩ := (check_phases_ok _).mpr good
            obtain ⟨fits, each⟩ := bounded normalized kept
            exact ⟨_, (), opens, true, hashed, (), by simp, normalized, kept, (),
              (check_outcome_ok _ phases normalized fits each _).mpr outcome, rfl⟩
      | _ => simp [checkPhases, goodPhases]
  | _ => simp [validateReleaseUpgradeResult, goodResult]

structure Ran (entry : Json × String) (verdict : String) (code : Int) : Prop where
  shape : ∃ fields, entry.1 = .obj fields ∧ Json.item "name" fields = .str (lit entry.2) ∧
    Json.item "status" fields = .str (lit verdict) ∧ Json.item "exit_code" fields = .int code

def Passed (entry : Json × String) : Prop := Ran entry "passed" 0

def Failed (entry : Json × String) : Prop := ∃ code, code ≠ 0 ∧ Ran entry "failed" code

-- The result that an adapter may report: every phase passed, or the phases up to one that failed.
structure Conforming (value : Json) (expected : Expected) : Prop where
  shape : ∃ fields phases, value = .obj fields ∧ Json.item "phases" fields = .arr phases ∧
    Json.item "contract_digest" fields = .str expected.contractDigest ∧
    Json.item "candidate_digest" fields = .str expected.candidateDigest ∧
    Json.item "previous_boundary" fields = .str expected.previousBoundary ∧
    (Json.item "status" fields = .str (lit "passed") ∧ phases.length = releaseUpgradePhases.length ∧
        (∀ entry ∈ named phases, Passed entry) ∨
      Json.item "status" fields = .str (lit "failed") ∧ phases.length ≤ releaseUpgradePhases.length ∧
        ∃ front last, named phases = front ++ [last] ∧ (∀ entry ∈ front, Passed entry) ∧ Failed last)

def Judged (value : Json) (expected : Expected) : Prop :=
  Confined Failure.expected (validateReleaseUpgradeResult value expected) ∧
    ∀ result, validateReleaseUpgradeResult value expected = .ok result → Conforming value expected

theorem good_status_iff :
    goodStatus value = true ↔ value = .str (lit "passed") ∨ value = .str (lit "failed") := by
  cases value <;> simp [goodStatus, verdicts]

theorem good_phase_ran (good : goodPhase entry = true) :
    entry.1.statusIs "failed" = false ∧ entry.1.statusIs "passed" = true ∧ Passed entry ∨
      entry.1.statusIs "failed" = true ∧ entry.1.statusIs "passed" = false ∧ Failed entry := by
  obtain ⟨phase, name⟩ := entry
  cases phase with
  | obj fields =>
      simp only [goodPhase, opensPhase, Bool.and_eq_true, is_text_iff] at good
      obtain ⟨⟨⟨_, label⟩, exits⟩, _⟩ := good
      cases code : Json.item "exit_code" fields with
      | int value =>
          simp only [code, goodExit, Bool.and_eq_true, beq_iff_eq, good_status_iff] at exits
          obtain ⟨status, agree⟩ := exits
          rcases status with passed | failed
          · left
            have apart : lit "passed" ≠ lit "failed" := by decide
            have zero : value = 0 := by simpa [passed, Json.isText] using agree
            subst zero
            refine ⟨?_, ?_, ⟨fields, rfl, label, passed, code⟩⟩
            · simp [Json.statusIs, passed, Json.isText, apart]
            · simp [Json.statusIs, passed]
          · right
            have apart : lit "failed" ≠ lit "passed" := by decide
            have nonzero : value ≠ 0 := by simpa [failed, Json.isText, apart] using agree
            refine ⟨?_, ?_, value, nonzero, ⟨fields, rfl, label, failed, code⟩⟩
            · simp [Json.statusIs, failed]
            · simp [Json.statusIs, failed, Json.isText, apart]
      | _ => simp [code, goodExit] at exits
  | _ => cases good

theorem passed_status (passed : Passed entry) : entry.1.statusIs "failed" = false := by
  obtain ⟨fields, shape, _, status, _⟩ := passed.shape
  have apart : lit "passed" ≠ lit "failed" := by decide
  simp [shape, Json.statusIs, status, Json.isText, apart]

theorem conforming_steady (conforming : Conforming value expected) :
    failsMidway value = false := by
  obtain ⟨fields, phases, rfl, listed, _, _, _, passed | failed⟩ := conforming.shape
  · simp [failsMidway, statusOf, passed.1, Json.isText]
  · obtain ⟨_, bounded, front, last, split, early, _⟩ := failed
    have before : phases.dropLast = front.map Prod.fst := by
      rw [← named_phases phases bounded, split, List.map_append, List.map_singleton, List.dropLast_concat]
    simp only [failsMidway, phasesOf, listed, before, List.any_map, Bool.and_eq_false_iff]
    right
    rw [List.any_eq_false]
    intro entry member
    simpa using passed_status entry (early entry member)

theorem good_conforming (good : goodResult value expected = true)
    (steady : failsMidway value = false) : Conforming value expected := by
  cases value with
  | obj fields =>
      simp only [goodResult, opensResult, Bool.and_eq_true, is_text_iff] at good
      obtain ⟨⟨⟨⟨⟨⟨_, contract, _⟩, candidate, _⟩, boundary⟩, status⟩, sound⟩, outcome⟩ := good
      cases listed : Json.item "phases" fields with
      | arr phases =>
          simp only [listed, goodPhases, Bool.and_eq_true, decide_eq_true_eq, List.all_eq_true] at sound
          obtain ⟨⟨some_, bounded⟩, each⟩ := sound
          have place := named_phases phases bounded
          refine ⟨fields, phases, rfl, listed, contract, candidate, boundary, ?_⟩
          rcases (good_status_iff _).mp status with passed | failed
          · left
            simp only [goodOutcome, passed, is_text_iff, if_true, phasesOf, listed, Bool.and_eq_true, decide_eq_true_eq,
              List.all_eq_true] at outcome
            refine ⟨passed, outcome.1, fun entry member => ?_⟩
            have within : entry.1 ∈ phases := by
              rw [← place]
              exact List.mem_map_of_mem member
            rcases good_phase_ran entry (each entry member) with ⟨_, _, ran⟩ | ⟨_, wrong, _⟩
            · exact ran
            · rw [outcome.2 entry.1 within] at wrong
              cases wrong
          · right
            have nonempty : named phases ≠ [] := by
              intro empty
              rw [empty] at place
              exact some_ place.symm
            have split := List.dropLast_append_getLast nonempty
            generalize (named phases).dropLast = front at split
            generalize (named phases).getLast nonempty = last at split
            have shown : phases = front.map Prod.fst ++ [last.1] := by
              rw [← place, ← split, List.map_append, List.map_singleton]
            have apart : lit "failed" ≠ lit "passed" := by decide
            have ended : last.1.statusIs "failed" = true := by
              simpa [goodOutcome, failed, Json.isText, apart, phasesOf, listed, shown] using outcome
            have early : ∀ entry ∈ front, entry.1.statusIs "failed" = false := by
              intro entry member
              have calm : ∀ phase ∈ phases.dropLast, Json.statusIs "failed" phase = false := by
                simpa [failsMidway, statusOf, failed, Json.isText, apart, phasesOf, listed] using steady
              refine calm entry.1 ?_
              rw [shown, List.dropLast_concat]
              exact List.mem_map_of_mem member
            refine ⟨failed, bounded, front, last, split.symm, fun entry member => ?_, ?_⟩
            · rcases good_phase_ran entry (each entry (by rw [← split]; exact List.mem_append_left _ member)) with
                ⟨_, _, ran⟩ | ⟨wrong, _, _⟩
              · exact ran
              · rw [early entry member] at wrong
                cases wrong
            · rcases good_phase_ran last (each last (by rw [← split]; simp)) with ⟨wrong, _, _⟩ | ⟨_, _, ran⟩
              · rw [wrong] at ended
                cases ended
              · exact ran
      | _ => simp [listed, goodPhases] at sound
  | _ => cases good

theorem upgrade_results_judged (value : Json) (expected : Expected) :
    Judged value expected ↔
      safeResult value expected = true ∧ (goodResult value expected = true → failsMidway value = false) := by
  rw [Judged, result_confined]
  apply and_congr_right
  intro _
  constructor
  · intro judged good
    obtain ⟨result, accepted⟩ := (result_ok value expected).mpr good
    exact conforming_steady value expected (judged result accepted)
  · intro steady result accepted
    have good := (result_ok value expected).mp ⟨result, accepted⟩
    exact good_conforming value expected good (steady good)

def plainBinding : Expected := ⟨List.replicate 64 48, List.replicate 64 49, lit "r1"⟩

def listedStatus : Json :=
  .obj [(lit "schema_version", .int 1), (lit "kind", .str (lit releaseUpgradeResultKind)),
    (lit "contract_digest", .str plainBinding.contractDigest),
    (lit "candidate_digest", .str plainBinding.candidateDigest),
    (lit "previous_boundary", .str plainBinding.previousBoundary), (lit "status", .arr []), (lit "phases", .arr [])]

theorem listed_status_escapes : ¬ Judged listedStatus plainBinding := by
  intro judged
  have raised : validateReleaseUpgradeResult listedStatus plainBinding = .error .typeError := by rfl
  exact judged.1 .typeError raised

end OrchestratorEngine.ResourceAdapters
