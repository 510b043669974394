import OrchestratorEngine.Continuity.Outcomes
import OrchestratorEngine.LocalChecks.Records
import OrchestratorEngine.Monitors.Reports
import OrchestratorEngine.ResourceQueue.Ledger
import OrchestratorEngine.Workers.Records

set_option autoImplicit false

namespace OrchestratorEngine.Continuity.Outcomes

open Foundation
open Monitors (GithubActions.Observation GithubPullRequests.Observation)
open Monitors.Recovery (VerificationStatus EventStatus)
open ResourceAdapters (Json Text lit surrogate)

def workerText : Workers.TerminalStatus → Text
  | .completed => lit "completed"
  | .failed => lit "failed"
  | .timedOut => lit "timed_out"
  | .rateLimited => lit "rate_limited"
  | .invalidResult => lit "invalid_result"
  | .cancelled => lit "cancelled"

def eventText : EventStatus → Text
  | .completed => lit "completed"
  | .failed => lit "failed"
  | .cancelled => lit "cancelled"
  | .timedOut => lit "timed_out"
  | .actionRequired => lit "action_required"
  | .unavailable => lit "unavailable"
  | .ambiguous => lit "ambiguous"

def requestText : ResourceQueue.Status → Text
  | .passed => lit "completed"
  | .failed => lit "failed"
  | .cancelled => lit "cancelled"
  | .actionRequired => lit "action_required"

inductive Producer where
  | worker (status : Workers.TerminalStatus)
  | check (status : LocalChecks.Status) (ended : status.terminal = true)
  | resourceCheck (status : ResourceQueue.Status) (final : status ≠ .actionRequired)
  | ci (observation : GithubActions.Observation)
  | pr (observation : GithubPullRequests.Observation)
  | workstream

def Producer.kind : Producer → Text
  | .worker _ => lit "worker"
  | .check _ _ => lit "check"
  | .resourceCheck _ _ => lit "check"
  | .ci _ => lit "ci"
  | .pr _ => lit "pr"
  | .workstream => lit "workstream"

def Producer.signalStatus : Producer → Text
  | .worker status => workerText status
  | .check status _ => match LocalChecks.eventStatus status with
    | .completed => lit "completed"
    | .failed => lit "failed"
  | .resourceCheck status _ => requestText status
  | .ci observation => eventText observation.eventStatus
  | .pr observation => eventText observation.eventStatus
  | .workstream => lit "completed"

def verified : VerificationStatus → Option Text
  | .passed => some (lit "completed")
  | .failed => some (lit "failed")
  | .cancelled => some (lit "failed")
  | .unknown => none

-- The status that the retained result is read with. An unknown one is only read
-- where the artifacts of the monitor pass the inspection.
def Producer.retainedStatus (inspected : Bool) : Producer → Option Text
  | .worker status => some (workerText status)
  | .check status _ => some (if status = .passed then lit "completed" else lit "failed")
  -- project_result retains "failed" for every status but "passed".
  | .resourceCheck status _ => some (if status = .passed then lit "completed" else lit "failed")
  | .ci observation =>
      match verified observation.verificationStatus with
      | some status => some status
      | none => if inspected then some (eventText observation.eventStatus) else none
  | .pr observation => verified observation.verificationStatus
  | .workstream => some (lit "completed")

structure Fact where
  path : Text
  sha256 : Text
  size : Nat
  writable : (!path.any surrogate && !sha256.any surrogate) = true

def Fact.json (fact : Fact) : Json :=
  .obj [(lit "path", .str fact.path), (lit "sha256", .str fact.sha256), (lit "size_bytes", .int fact.size)]

structure Operation where
  identity : Text
  producer : Producer
  result : Fact
  writable : identity.any surrogate = false

def Operation.source (operation : Operation) : Text := operation.producer.kind ++ lit ":" ++ operation.identity

-- What is visible besides the result as an observation is made. The inspection
-- needs the event and the evidence.
structure Sight where
  descriptor : Option Fact
  evidence : Option Fact
  event : Option Fact
  inspection : Option Fact

def optional (name : String) (fact : Option Fact) : Fields := fact.toList.map fun found => (lit name, found.json)

def monitorText : Monitors.GithubActions.TerminalStatus → Text
  | .completed => lit "completed"
  | .failed => lit "failed"
  | .cancelled => lit "cancelled"
  | .timedOut => lit "timed_out"
  | .unavailable => lit "unavailable"
  | .ambiguous => lit "ambiguous"

def inspectionData (producer : Producer) (event : Fact) : Fields :=
  match producer with
  | .ci observation =>
      match verified observation.verificationStatus with
      | some _ => []
      | none => [(lit "event", event.json), (lit "observation", .obj [(lit "purpose", .str (lit "inspection")),
          (lit "monitor_status", .str (monitorText observation.monitorStatus)),
          (lit "verification_status", .str (lit "unknown")), (lit "remote_outcome", .str (lit "unknown"))])]
  | _ => []

def Operation.retainedData (operation : Operation) (sight : Sight) (descriptor : Fact) : Fields :=
  sight.inspection.toList.flatMap (inspectionData operation.producer) ++
    [(lit "result", operation.result.json), (lit "descriptor", descriptor.json),
      (lit "applicability", .obj [(lit "source_key", .str operation.source),
        (lit "operation_id", .str operation.identity), (lit "status", .str (lit "matched_exact_operation"))])] ++
    optional "evidence" sight.evidence

def Operation.retained (operation : Operation) (sight : Sight) : Option (Text × Fields) :=
  match sight.descriptor, operation.producer.retainedStatus sight.inspection.isSome with
  | some descriptor, some status => some (status, operation.retainedData sight descriptor)
  | _, _ => none

def Operation.signalData (operation : Operation) (sight : Sight) (state : Text) (reason : Option Text) : Fields :=
  [(lit "transport_observation", .obj [(lit "state", .str state),
    (lit "reason", match reason with | some text => .str text | none => .null)]),
    (lit "result", operation.result.json)] ++
    optional "evidence" sight.evidence ++ optional "event" sight.event

structure Transport where
  eventId : Option Text
  state : Text
  reason : Option Text
  writable : (!(eventId.getD []).any surrogate && !state.any surrogate && !(reason.getD []).any surrogate) = true

inductive Observed where
  | signal (sight : Sight) (transport : Transport) (now : Int)
  | artifacts (sight : Sight) (now : Int)

def Operation.call (operation : Operation) : Observed → Option Call
  | .signal sight transport now =>
      match operation.retained sight with
      | some (status, data) => some ⟨operation.source, status, transport.eventId, data, now⟩
      | none => some ⟨operation.source, operation.producer.signalStatus, transport.eventId,
          operation.signalData sight transport.state transport.reason, now⟩
  | .artifacts sight now => (operation.retained sight).map fun found => ⟨operation.source, found.1, none, found.2, now⟩

def Operation.observe (dumps : Json → Text) (operation : Operation) (results : Results) (observed : Observed) :
    Except Fault Results :=
  match operation.call observed with
  | none => .ok results
  | some call => recorded dumps results call

def Producer.agrees : Producer → Bool
  | .ci observation =>
      match observation.monitorStatus, observation.ciConclusion with
      | .cancelled, _ => false
      | .completed, some .cancelled | .completed, some .timedOut | .completed, some .actionRequired => false
      | _, _ => true
  | .pr observation => decide (observation.status ≠ .cancelled)
  | .resourceCheck status _ => decide (status ≠ .cancelled)
  | _ => true

variable (producer : Producer)

theorem agrees_of_retained (agrees : producer.agrees = true) (inspected : Bool) (status : Text)
    (retained : producer.retainedStatus inspected = some status) : status = producer.signalStatus := by
  cases producer with
  | worker ended => exact (Option.some.inj retained).symm
  | check ended terminal => cases ended <;> exact (Option.some.inj retained).symm
  | resourceCheck ended final =>
      have known := Option.some.inj retained
      cases ended with
      | passed => exact known.symm
      | failed => exact known.symm
      | cancelled => exact absurd agrees Bool.false_ne_true
      | actionRequired => exact absurd rfl final
  | workstream => exact (Option.some.inj retained).symm
  | ci observation =>
      obtain ⟨monitor, conclusion, _, _, _⟩ := observation
      cases monitor <;> rcases conclusion with _ | conclusion <;> try cases conclusion
      all_goals cases inspected <;>
        first | exact (Option.some.inj retained).symm | exact absurd agrees Bool.false_ne_true |
          exact absurd retained (Option.some_ne_none _).symm
  | pr observation =>
      obtain ⟨monitor, _, _, _, _⟩ := observation
      cases monitor <;>
        first | exact (Option.some.inj retained).symm | exact absurd agrees Bool.false_ne_true |
          exact absurd retained (Option.some_ne_none _).symm

theorem failed_text {status : EventStatus} (other : status ≠ .failed) : lit "failed" ≠ eventText status := by
  cases status <;> first | exact absurd rfl other | decide

theorem retained_differs (differs : producer.agrees = false) :
    ∃ status, producer.retainedStatus true = some status ∧ status ≠ producer.signalStatus := by
  have mapped : ∀ {status : EventStatus}, producer.signalStatus = eventText status → status ≠ .failed →
      producer.retainedStatus true = some (lit "failed") →
        ∃ status, producer.retainedStatus true = some status ∧ status ≠ producer.signalStatus :=
    fun signalled other retained => ⟨_, retained, signalled ▸ failed_text other⟩
  cases producer with
  | worker _ => cases differs
  | check _ _ => cases differs
  | resourceCheck ended final =>
      have cancelled : ended = .cancelled := by simpa [Producer.agrees] using differs
      subst cancelled
      exact ⟨lit "failed", rfl, failed_text (show EventStatus.cancelled ≠ .failed from nofun)⟩
  | workstream => cases differs
  | ci observation =>
      obtain ⟨monitor, conclusion, _, _, _⟩ := observation
      simp only [Producer.agrees] at differs
      split at differs
      · exact mapped (show _ = eventText .cancelled from rfl) nofun rfl
      · exact mapped (show _ = eventText .cancelled from rfl) nofun rfl
      · exact mapped (show _ = eventText .timedOut from rfl) nofun rfl
      · exact mapped (show _ = eventText .actionRequired from rfl) nofun rfl
      · cases differs
  | pr observation =>
      obtain ⟨monitor, _, _, _, _⟩ := observation
      have cancelled : monitor = .cancelled := by simpa [Producer.agrees] using differs
      subst cancelled
      exact mapped (show _ = eventText .cancelled from rfl) nofun rfl

section Texts

variable {text other : Text}

theorem writable_append (left : text.any surrogate = false) (right : other.any surrogate = false) :
    (text ++ other).any surrogate = false := by rw [List.any_append, left, right]; rfl

theorem encodable_append (fields others : Fields) :
    encodableFields (fields ++ others) = (encodableFields fields && encodableFields others) := by
  induction fields with
  | nil => rfl
  | cons field rest ih =>
      rw [List.cons_append]
      simp only [encodableFields, ih, Bool.and_assoc]

theorem Fact.encodable (fact : Fact) : Outcomes.encodable fact.json = true := by
  obtain ⟨path, sha256⟩ := Bool.and_eq_true_iff.mp fact.writable
  simp only [Fact.json, Outcomes.encodable, encodableFields, path, sha256]
  rfl

theorem optional_encodable (name : String) (plain : (lit name).any surrogate = false) (fact : Option Fact) :
    encodableFields (optional name fact) = true := by
  cases fact with
  | none => rfl
  | some found =>
      simp only [optional, Option.toList_some, List.map_cons, List.map_nil, encodableFields, plain, found.encodable]
      rfl

end Texts

section Observations

variable {dumps : Json → Text} {operation : Operation}

theorem Operation.source_writable (operation : Operation) : operation.source.any surrogate = false := by
  refine writable_append (writable_append ?_ (by decide)) operation.writable
  cases operation.producer <;> rfl

theorem inspection_shape (event : Fact) : inspectionData producer event = [] ∨
    ∃ observation, inspectionData producer event = [(lit "event", event.json), (lit "observation", .obj observation)] ∧
      encodableFields observation = true := by
  cases producer with
  | ci observation =>
      cases verdict : verified observation.verificationStatus with
      | some _ => exact .inl (by simp only [inspectionData, verdict])
      | none =>
          refine .inr ⟨_, by simp only [inspectionData, verdict]; rfl, ?_⟩
          cases observation.monitorStatus <;> rfl
  | worker _ => exact .inl rfl
  | check _ _ => exact .inl rfl
  | resourceCheck _ _ => exact .inl rfl
  | pr _ => exact .inl rfl
  | workstream => exact .inl rfl

theorem Operation.retained_data (operation : Operation) (sight : Sight) (descriptor : Fact) :
    encodableFields (operation.retainedData sight descriptor) = true ∧
      Json.item "result" (operation.retainedData sight descriptor) = operation.result.json := by
  have facts : ∀ before : Fields, encodableFields before = true →
      encodableFields (before ++ [(lit "result", operation.result.json), (lit "descriptor", descriptor.json),
        (lit "applicability", .obj [(lit "source_key", .str operation.source),
          (lit "operation_id", .str operation.identity), (lit "status", .str (lit "matched_exact_operation"))])] ++
        optional "evidence" sight.evidence) = true := by
    intro before plain
    rw [encodable_append, encodable_append, plain, optional_encodable "evidence" rfl]
    simp only [encodableFields, encodable, Fact.encodable, operation.source_writable, operation.writable]
    rfl
  unfold Operation.retainedData
  cases sight.inspection with
  | none => exact ⟨facts [] rfl, rfl⟩
  | some event =>
      rw [Option.toList_some, List.flatMap_singleton]
      rcases inspection_shape operation.producer event with none | ⟨observation, inspected, plain⟩
      · rw [none]
        exact ⟨facts [] rfl, rfl⟩
      · rw [inspected]
        refine ⟨facts _ ?_, rfl⟩
        simp only [encodableFields, encodable, Fact.encodable, plain]
        rfl

theorem Operation.signal_data (operation : Operation) (sight : Sight) (transport : Transport) :
    encodableFields (operation.signalData sight transport.state transport.reason) = true ∧
      Json.item "result" (operation.signalData sight transport.state transport.reason) = operation.result.json := by
  obtain ⟨eventId, state, reason, writable⟩ := transport
  simp only [Bool.and_eq_true, Bool.not_eq_true'] at writable
  refine ⟨?_, rfl⟩
  unfold Operation.signalData
  rw [encodable_append, encodable_append, optional_encodable "evidence" rfl, optional_encodable "event" rfl]
  cases reason with
  | none =>
      simp only [encodableFields, encodable, Fact.encodable, writable.1.2]
      rfl
  | some text =>
      simp only [encodableFields, encodable, Fact.encodable, writable.1.2,
        show text.any surrogate = false from writable.2]
      rfl

theorem statuses_writable : producer.signalStatus.any surrogate = false ∧
    ∀ inspected status, producer.retainedStatus inspected = some status → status.any surrogate = false := by
  have events : ∀ status, (eventText status).any surrogate = false := by
    intro status
    cases status <;> rfl
  have workers : ∀ status, (workerText status).any surrogate = false := by
    intro status
    cases status <;> rfl
  have verdicts : ∀ verdict status, verified verdict = some status → status.any surrogate = false := by
    intro verdict status known
    cases verdict <;> cases known <;> rfl
  cases producer with
  | worker ended => exact ⟨workers ended, fun _ _ known => Option.some.inj known ▸ workers ended⟩
  | check ended terminal => cases ended <;> exact ⟨rfl, fun _ _ known => Option.some.inj known ▸ rfl⟩
  | resourceCheck ended final => cases ended <;> exact ⟨rfl, fun _ _ known => Option.some.inj known ▸ rfl⟩
  | workstream => exact ⟨rfl, fun _ _ known => Option.some.inj known ▸ rfl⟩
  | pr observation => exact ⟨events _, fun _ _ known => verdicts _ _ known⟩
  | ci observation =>
      refine ⟨events _, fun inspected status known => ?_⟩
      unfold Producer.retainedStatus at known
      dsimp only at known
      split at known
      · rename_i verdict
        exact verdicts _ _ (verdict.trans known)
      · cases inspected with
        | false => cases known
        | true => exact Option.some.inj known ▸ events _

def Operation.digest (operation : Operation) (dumps : Json → Text) (status : Text) : Digest :=
  .current operation.source status (dumps (.obj [(lit "result_sha256", .str operation.result.sha256)]))

def Digest.source : Digest → Text
  | .current source _ _ => source
  | .legacy source _ _ => source

def Operation.outcomes (operation : Operation) (results : Results) : List Row :=
  results.rows.filter fun row => decide (row.sourceKey = operation.source)

structure Untouched (operation : Operation) (results : Results) : Prop where
  normalized : results.Normalized
  named : ∀ row ∈ results.rows, row.outcomeId.source = row.sourceKey
  absent : ∀ row ∈ results.rows, row.sourceKey ≠ operation.source

structure Held (dumps : Json → Text) (operation : Operation) (status : Text) (results : Results) : Prop where
  normalized : results.Normalized
  only : ∃ row, operation.outcomes results = [row] ∧ row.digest = operation.digest dumps status

structure Answers (operation : Operation) (status : Text) (call : Call) : Prop where
  source : call.source = operation.source
  status : call.status = status
  writable : call.encodable = true
  result : Json.item "result" call.data = operation.result.json

theorem Answers.digest {status : Text} {call : Call} (answers : Answers operation status call) :
    call.digest dumps = operation.digest dumps status := by
  obtain ⟨source, same, -, result⟩ := answers
  have anchored : resultSha256 call.data = some operation.result.sha256 := by
    unfold resultSha256
    rw [result]
    rfl
  unfold Call.digest Operation.digest identityOf
  rw [anchored, source, same]

theorem retained_answers {sight : Sight} {found : Text × Fields} (retained : operation.retained sight = some found)
    (eventId : Option Text) (now : Int) (writable : (eventId.getD []).any surrogate = false) :
    Answers operation found.1 ⟨operation.source, found.1, eventId, found.2, now⟩ ∧
      operation.producer.retainedStatus sight.inspection.isSome = some found.1 := by
  unfold Operation.retained at retained
  split at retained
  · rename_i descriptor status _ known
    cases retained
    obtain ⟨plain, result⟩ := operation.retained_data sight descriptor
    have text := (statuses_writable operation.producer).2 _ _ known
    refine ⟨⟨rfl, rfl, ?_, result⟩, known⟩
    simp only [Call.encodable, operation.source_writable, text, writable, plain]
    rfl
  · cases retained

theorem call_answers {observed : Observed} {call : Call} (made : operation.call observed = some call) :
    ∃ status, Answers operation status call ∧ (status = operation.producer.signalStatus ∨
      ∃ inspected, operation.producer.retainedStatus inspected = some status) := by
  cases observed with
  | signal sight transport now =>
      have event : (transport.eventId.getD []).any surrogate = false := by
        have writable := transport.writable
        simp only [Bool.and_eq_true, Bool.not_eq_true'] at writable
        exact writable.1.1
      unfold Operation.call at made
      dsimp only at made
      split at made
      · rename_i status data retained
        cases made
        obtain ⟨answers, known⟩ := retained_answers retained transport.eventId now event
        exact ⟨status, answers, .inr ⟨_, known⟩⟩
      · cases made
        obtain ⟨plain, result⟩ := operation.signal_data sight transport
        refine ⟨_, ⟨rfl, rfl, ?_, result⟩, .inl rfl⟩
        simp only [Call.encodable, operation.source_writable, (statuses_writable operation.producer).1, event, plain]
        rfl
  | artifacts sight now =>
      obtain ⟨found, retained, rfl⟩ := Option.map_eq_some_iff.mp made
      obtain ⟨answers, known⟩ := retained_answers retained none now rfl
      exact ⟨found.1, answers, .inr ⟨_, known⟩⟩

section Steps

variable {call : Call} {status : Text} {results : Results}

theorem untouched_recorded (untouched : Untouched operation results) (answers : Answers operation status call) :
    ∃ next, recorded dumps results call = .ok next ∧ Held dumps operation status next := by
  have missing : recordedRow dumps call results.rows = none := by
    cases found : recordedRow dumps call results.rows with
    | none => rfl
    | some row =>
        obtain ⟨listed, source, -⟩ := recorded_row_cases untouched.normalized found
        exact absurd (source.trans answers.source) (untouched.absent row listed)
  have clear : Clear dumps results call [] := by
    refine ⟨answers.writable, fun _ row listed same => untouched.absent row listed ?_⟩
    rw [← untouched.named row listed, same, answers.digest]
    rfl
  obtain ⟨⟨answer, next⟩, ran⟩ := (record_result_returns untouched.normalized []).mpr clear
  have done := record_result_done ran
  refine ⟨next, recorded_ok.mpr ⟨answer, ran⟩, done.normalized untouched.normalized, call.row dumps, ?_, answers.digest⟩
  cases done with
  | enriched row _ found _ => cases missing.symm.trans found
  | inserted _ _ rows =>
      have none : results.rows.filter (fun row => decide (row.sourceKey = operation.source)) = [] :=
        List.filter_eq_nil_iff.mpr fun row listed => by simpa using untouched.absent row listed
      unfold Operation.outcomes
      rw [rows, List.filter_append, none, List.nil_append]
      exact List.filter_cons_of_pos (decide_eq_true answers.source)

theorem held_recorded (held : Held dumps operation status results) (answers : Answers operation status call) :
    ∃ next, recorded dumps results call = .ok next ∧ Held dumps operation status next := by
  obtain ⟨row, only, digest⟩ := held.only
  have listed : row ∈ operation.outcomes results := only ▸ List.mem_singleton_self _
  obtain ⟨member, source⟩ := List.mem_filter.mp listed
  have present : recordedRow dumps call results.rows ≠ none := fun missing =>
    recorded_row_none missing row member ((of_decide_eq_true source).trans answers.source.symm)
      (digest.trans answers.digest.symm)
  have clear : Clear dumps results call [] := ⟨answers.writable, fun missing => absurd missing present⟩
  obtain ⟨⟨answer, next⟩, ran⟩ := (record_result_returns held.normalized []).mpr clear
  have done := record_result_done ran
  refine ⟨next, recorded_ok.mpr ⟨answer, ran⟩, done.normalized held.normalized, ?_⟩
  cases done with
  | inserted _ missing _ => exact absurd missing present
  | enriched found _ recorded rows =>
      obtain ⟨known, from_, -⟩ := recorded_row_cases held.normalized recorded
      have same : found = row := by
        have held : found ∈ operation.outcomes results :=
          List.mem_filter.mpr ⟨known, decide_eq_true (from_.trans answers.source)⟩
        rw [only] at held
        exact List.mem_singleton.mp held
      subst same
      refine ⟨enrich dumps found.outcomeId call found, ?_, ?_⟩
      · have kept : operation.outcomes next = (operation.outcomes results).map (enrich dumps found.outcomeId call) := by
          unfold Operation.outcomes
          rw [rows, List.filter_map]
          exact congrArg _ (List.filter_congr fun other _ => by simp only [Function.comp_apply, enrich_source])
        rw [kept, only]
        rfl
      · rw [enrich_digest, if_pos rfl, answers.digest]

end Steps

theorem held_observed {status : Text} (alike : ∀ observed call, operation.call observed = some call →
    Answers operation status call) (observations : List Observed) (results : Results)
    (held : Held dumps operation status results) :
    ∃ final, observations.foldlM (operation.observe dumps) results = .ok final ∧ Held dumps operation status final := by
  induction observations generalizing results with
  | nil => exact ⟨results, rfl, held⟩
  | cons observed rest ih =>
      have step : ∃ next, operation.observe dumps results observed = .ok next ∧ Held dumps operation status next := by
        unfold Operation.observe
        cases made : operation.call observed with
        | none => exact ⟨results, rfl, held⟩
        | some call => exact held_recorded held (alike observed call made)
      obtain ⟨next, taken, kept⟩ := step
      obtain ⟨final, onward, last⟩ := ih next kept
      exact ⟨final, (fold_cons_ok _ rest results final).mpr ⟨next, taken, onward⟩, last⟩

theorem untouched_observed {status : Text} (alike : ∀ observed call, operation.call observed = some call →
    Answers operation status call) (observations : List Observed) (results : Results)
    (untouched : Untouched operation results) :
    ∃ final, observations.foldlM (operation.observe dumps) results = .ok final ∧
      (if observations.any (fun observed => (operation.call observed).isSome) then Held dumps operation status final
        else final = results) := by
  induction observations with
  | nil => exact ⟨results, rfl, rfl⟩
  | cons observed rest ih =>
      cases made : operation.call observed with
      | none =>
          have skipped : operation.observe dumps results observed = .ok results := by
            unfold Operation.observe
            rw [made]
          obtain ⟨final, onward, last⟩ := ih
          refine ⟨final, (fold_cons_ok _ rest results final).mpr ⟨results, skipped, onward⟩, ?_⟩
          simpa only [List.any_cons, made, Option.isSome_none, Bool.false_or] using last
      | some call =>
          obtain ⟨next, taken, held⟩ : ∃ next, recorded dumps results call = .ok next ∧
            Held dumps operation status next :=
            untouched_recorded untouched (alike observed call made)
          have seen : operation.observe dumps results observed = .ok next := by
            unfold Operation.observe
            rw [made]
            exact taken
          obtain ⟨final, onward, last⟩ := held_observed alike rest next held
          refine ⟨final, (fold_cons_ok _ rest results final).mpr ⟨next, seen, onward⟩, ?_⟩
          simpa only [List.any_cons, made, Option.isSome_some, Bool.true_or, if_true] using last

end Observations

theorem empty_untouched (operation : Operation) : Untouched operation .empty :=
  ⟨empty_normalized, fun _ listed => absurd listed List.not_mem_nil, fun _ listed => absurd listed List.not_mem_nil⟩

-- In whatever order an operation is observed, each time of what is visible then,
-- it leaves one outcome if any observation is of a result.
def Single (dumps : Json → Text) (operation : Operation) : Prop :=
  ∀ (start : Results) (observations : List Observed), Untouched operation start →
    ∃ final, observations.foldlM (operation.observe dumps) start = .ok final ∧
      (operation.outcomes final).length =
        if observations.any (fun observed => (operation.call observed).isSome) then 1 else 0

def late (operation : Operation) : List Observed :=
  [.signal ⟨none, none, none, none⟩ ⟨none, lit "missing", none, rfl⟩ 0,
    .artifacts ⟨some operation.result, none, some operation.result, some operation.result⟩ 1]

theorem other_status_missing (dumps : Json → Text) {operation : Operation} {status other : Text} {first second : Call}
    (one : Answers operation status first) (two : Answers operation other second) (differs : other ≠ status) :
    recordedRow dumps second [first.row dumps] = none ∧ (first.row dumps).outcomeId ≠ second.digest dumps := by
  have digests : first.digest dumps ≠ second.digest dumps := by
    rw [one.digest, two.digest]
    intro same
    exact differs (Digest.current.inj same).2.1.symm
  have legacy : first.digest dumps ≠ second.legacyDigest dumps := by
    rw [one.digest]
    exact nofun
  have statuses : first.status ≠ second.status := by
    rw [one.status, two.status]
    exact differs.symm
  have unmarked : [first.row dumps].filter (fun row =>
      decide (row.sourceKey = second.source ∧ row.digest ∈ [second.digest dumps, second.legacyDigest dumps])) = [] :=
    List.filter_cons_of_neg (by simp [Call.row, digests, legacy])
  have unlike : [first.row dumps].filter (fun row =>
      decide (row.sourceKey = second.source ∧ row.status = second.status)) = [] :=
    List.filter_cons_of_neg (by simp [Call.row, statuses])
  refine ⟨?_, digests⟩
  unfold recordedRow
  dsimp only
  rw [unmarked, unlike]
  rfl

theorem late_doubled (dumps : Json → Text) (operation : Operation) {status : Text}
    (retained : operation.producer.retainedStatus true = some status)
    (differs : status ≠ operation.producer.signalStatus) :
    ∃ final, (late operation).foldlM (operation.observe dumps) .empty = .ok final ∧
      (operation.outcomes final).length = 2 := by
  have observed : ∀ {seen call results}, operation.call seen = some call →
      operation.observe dumps results seen = recorded dumps results call := by
    intro seen call results made
    unfold Operation.observe
    rw [made]
  have seen : ∃ call, operation.call (.artifacts ⟨some operation.result, none, some operation.result,
      some operation.result⟩ 1) = some call ∧ call.status = status := by
    refine ⟨⟨operation.source, status, none, operation.retainedData ⟨some operation.result, none, some operation.result,
      some operation.result⟩ operation.result, 1⟩, ?_, rfl⟩
    simp only [Operation.call, Operation.retained, Option.isSome_some, retained, Option.map_some]
  obtain ⟨first, sent, before⟩ : ∃ call, operation.call (.signal ⟨none, none, none, none⟩
      ⟨none, lit "missing", none, rfl⟩ 0) = some call ∧ call.status = operation.producer.signalStatus := ⟨_, rfl, rfl⟩
  obtain ⟨second, found, after⟩ := seen
  obtain ⟨_, one, -⟩ := call_answers sent
  obtain ⟨_, two, -⟩ := call_answers found
  obtain ⟨missing, apart⟩ := other_status_missing dumps one two
    (by rw [← two.status, ← one.status, before, after]; exact differs)
  have clearFirst : Clear dumps .empty first [] := ⟨one.writable, fun _ _ listed => absurd listed List.not_mem_nil⟩
  obtain ⟨⟨answer, middle⟩, ran⟩ := (record_result_returns empty_normalized []).mpr clearFirst
  have rows : middle.rows = [first.row dumps] := by
    cases record_result_done ran with
    | enriched row _ found _ => exact absurd (recorded_row_cases empty_normalized found).1 List.not_mem_nil
    | inserted _ _ rows => exact rows
  have clearSecond : Clear dumps middle second [] := by
    refine ⟨two.writable, fun _ row listed => ?_⟩
    rw [rows] at listed
    exact List.mem_singleton.mp listed ▸ apart
  have normalized := (record_result_done ran).normalized empty_normalized
  obtain ⟨⟨other, final⟩, again⟩ := (record_result_returns normalized []).mpr clearSecond
  refine ⟨final, ?_, ?_⟩
  · refine (fold_cons_ok _ _ _ final).mpr ⟨middle, (observed sent).trans (recorded_ok.mpr ⟨answer, ran⟩), ?_⟩
    exact (fold_cons_ok _ _ _ final).mpr ⟨final, (observed found).trans (recorded_ok.mpr ⟨other, again⟩), rfl⟩
  · cases record_result_done again with
    | enriched row _ listed _ =>
        rw [rows, missing] at listed
        cases listed
    | inserted _ _ written =>
        unfold Operation.outcomes
        rw [written, rows]
        simp [Call.row, one.source, two.source]

theorem outcomes_single (dumps : Json → Text) (operation : Operation) :
    Single dumps operation ↔ operation.producer.agrees = true := by
  constructor
  · intro single
    by_contra disagrees
    obtain ⟨status, retained, differs⟩ := retained_differs operation.producer (Bool.eq_false_iff.mpr disagrees)
    obtain ⟨final, ran, doubled⟩ := late_doubled dumps operation retained differs
    obtain ⟨other, also, once⟩ := single .empty (late operation) (empty_untouched operation)
    cases ran.symm.trans also
    rw [doubled] at once
    split at once <;> cases once
  · intro agrees start observations untouched
    have alike : ∀ observed call, operation.call observed = some call →
        Answers operation operation.producer.signalStatus call := by
      intro observed call made
      obtain ⟨status, answers, same | ⟨inspected, known⟩⟩ := call_answers made
      · exact same ▸ answers
      · exact agrees_of_retained operation.producer agrees inspected status known ▸ answers
    obtain ⟨final, ran, last⟩ := untouched_observed alike observations start untouched
    refine ⟨final, ran, ?_⟩
    split at last
    · rename_i some
      obtain ⟨row, only, -⟩ := last.only
      rw [if_pos some, only]
      rfl
    · rename_i none
      subst last
      rw [if_neg none, List.length_eq_zero_iff]
      exact List.filter_eq_nil_iff.mpr fun row listed => by simpa using untouched.absent row listed

def cancelledMonitor : Operation where
  identity := lit "m"
  producer := .ci ⟨.cancelled, none, none, none, .unneeded⟩
  result := ⟨lit "result.json", lit "aa", 2, rfl⟩
  writable := rfl

theorem cancelled_doubled :
    (∃ final, (late cancelledMonitor).foldlM (cancelledMonitor.observe written) .empty = .ok final ∧
    (cancelledMonitor.outcomes final).length = 2) ∧ ¬ Single written cancelledMonitor := by
  have apart : lit "failed" ≠ cancelledMonitor.producer.signalStatus :=
    failed_text (show EventStatus.cancelled ≠ _ from nofun)
  obtain ⟨final, ran, doubled⟩ := late_doubled written cancelledMonitor rfl apart
  refine ⟨⟨final, ran, doubled⟩, fun single => ?_⟩
  obtain ⟨other, also, once⟩ := single .empty (late cancelledMonitor) (empty_untouched cancelledMonitor)
  cases ran.symm.trans also
  rw [doubled] at once
  split at once <;> cases once

end OrchestratorEngine.Continuity.Outcomes
