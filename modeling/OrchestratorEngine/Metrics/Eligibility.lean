import Mathlib.Data.List.Dedup
import OrchestratorEngine.Metrics.Bindings

set_option autoImplicit false

namespace OrchestratorEngine.Metrics

open Foundation

def SameOperation (canonicalSources : List String) (first second : Observation) : Prop :=
  ∃ operation, operationOf canonicalSources first = some operation ∧ operationOf canonicalSources
  second = some operation

theorem SameOperation.symm {canonicalSources : List String} {first second : Observation}
    (same : SameOperation canonicalSources first second) : SameOperation canonicalSources second first := by
  obtain ⟨operation, own, other⟩ := same
  exact ⟨operation, other, own⟩

theorem SameOperation.trans {canonicalSources : List String} {first second third : Observation}
    (lower : SameOperation canonicalSources first second) (upper : SameOperation canonicalSources second third) :
    SameOperation canonicalSources first third := by
  obtain ⟨operation, own, middle⟩ := lower
  obtain ⟨again, also, last⟩ := upper
  rw [middle] at also
  cases also
  exact ⟨operation, own, last⟩

def applicable (records : List Observation) (binding : Option Binding) : List Observation :=
  records.filter fun item => isAttempt item && attemptAppliesToBinding item.data binding

theorem lifecycle_iff (records : List Observation) (binding : Option Binding) (item : Observation) :
    item ∈ lifecycleAttempts records binding ↔ item ∈ applicable records binding ∧
    (item.field "status").isStr = true := by
  simp only [lifecycleAttempts, applicable, List.mem_filter, Bool.and_eq_true]
  tauto

-- What an answer that publication is eligible stands for.
structure Authorized (query : Query) (records : List Observation) (binding : Binding) : Prop where
  current : ∃ source item, latestBinding query.ownerSources records source = some item ∧ item.data = binding
  agreed : ∀ source item, latestBinding query.ownerSources records source = some item →
    packageBindingsComplete item.data = true ∧ Agree item.data binding
  obligations : ∀ obligationId ∈ listed (valueOf binding "obligation_ids"),
    (∃ source item, latestObligation query.ownerSources records obligationId source = some item) ∧
      ∀ source item, latestObligation query.ownerSources records obligationId source = some item →
        (item.field "status" = .str "completed" ∨ item.field "status" = .str "waived") ∧
          obligationMatchesBinding item.data binding = true
  gate : ∃ gate ∈ applicable records (some binding), finalGate query.ownerSources (some binding) gate = true ∧
    ∀ other ∈ applicable records (some binding), SameOperation query.canonicalSources other gate →
      Later query.calendar other gate → finalGate query.ownerSources (some binding) other = true
  operations : ∀ attempt ∈ applicable records (some binding),
    (operationOf query.canonicalSources attempt).isSome = true ∧
    ∃ outcome ∈ applicable records (some binding), SameOperation query.canonicalSources outcome attempt ∧
      (∃ status ∈ terminalStatuses, outcome.field "status" = .str status) ∧
      ∀ other ∈ applicable records (some binding), SameOperation query.canonicalSources other attempt →
        other = outcome ∨ Later query.calendar outcome other

-- Every attempt that reports no status is followed by one of its operation that
-- does, and every owner declares its manifest in the documented form.
structure Answerable (query : Query) (records : List Observation) (binding : Binding) : Prop where
  statuses : ∀ attempt ∈ applicable records (some binding), (attempt.field "status").isStr = false →
    ∃ later ∈ applicable records (some binding), SameOperation query.canonicalSources later attempt ∧
      (later.field "status").isStr = true ∧ Later query.calendar later attempt
  manifests : ∀ source item, latestBinding query.ownerSources records source = some item →
    (item.field "obligations_complete").isTrue = true ∧ ∃ items, item.field "obligation_ids" = .arr items

theorem anyM_none {ε α : Type} (test : α → Except ε Bool) (inputs : List α) (nothing : inputs.anyM test = .ok false) :
    ∀ input ∈ inputs, test input = .ok false := by
  induction inputs with
  | nil => exact nofun
  | cons input tail ih =>
      rw [List.anyM, bind_ok_iff] at nothing
      obtain ⟨here, done, rest⟩ := nothing
      cases here with
      | true => cases rest
      | false =>
          intro other member
          rcases List.mem_cons.mp member with rfl | later
          · exact done
          · exact ih rest other later

theorem settled_obligation (binding : Binding) (item : Observation) (done : unsettled binding item = .ok false) :
    (item.field "status" = .str "completed" ∨ item.field "status" = .str "waived") ∧
      obligationMatchesBinding item.data binding = true := by
  simp only [unsettled, bind_ok_iff] at done
  obtain ⟨settled, tested, finish⟩ := done
  have both := Except.ok.inj finish
  simp only [Bool.or_eq_false_iff, Bool.not_eq_false'] at both
  obtain ⟨rfl, same⟩ := both
  obtain ⟨name, listed, reported⟩ := (Json.among_true _ _).mp tested
  refine ⟨?_, same⟩
  simp only [List.mem_cons, List.not_mem_nil, or_false] at listed
  rcases listed with rfl | rfl
  · exact .inl reported
  · exact .inr reported

theorem no_pending (ownerSources : List String) (records : List Observation) (binding : Binding)
    (nothing : pendingObligations ownerSources records (some binding) = .ok []) :
    ∀ obligationId ∈ listed (valueOf binding "obligation_ids"),
      (∃ source item, latestObligation ownerSources records obligationId source = some item) ∧
        ∀ source item, latestObligation ownerSources records obligationId source = some item →
          (item.field "status" = .str "completed" ∨ item.field "status" = .str "waived") ∧
            obligationMatchesBinding item.data binding = true := by
  intro obligationId wanted
  obtain ⟨total, kept⟩ := filter_ok_inv _ _ _ nothing
  obtain ⟨verdict, tested⟩ := total obligationId wanted
  have calm : verdict = false := by
    cases verdict with
    | false => rfl
    | true => cases (kept obligationId).mpr ⟨wanted, tested⟩
  subst calm
  have lookup := grouped_obligation ownerSources (sortedBy Observation.recordOrder records) obligationId
  generalize ((groupObligations ownerSources (sortedBy Observation.recordOrder records)).get? obligationId).getD
    Dict.empty = states at tested lookup
  dsimp only at tested
  split at tested
  case isTrue => cases tested
  case isFalse some =>
    have settled := anyM_none _ _ tested
    constructor
    · obtain ⟨item, member⟩ := List.exists_mem_of_ne_nil _ some
      obtain ⟨⟨source, _⟩, stored, rfl⟩ := List.mem_map.mp member
      exact ⟨source, _, (lookup source).symm.trans ((Dict.mem_items _ _ _).mp stored)⟩
    · intro source item latest
      have stored := (Dict.mem_items states source item).mpr ((lookup source).trans latest)
      exact settled_obligation binding item (settled item (List.mem_map.mpr ⟨_, stored, rfl⟩))

theorem sorted_by_nil {α κ : Type} [LE κ] [DecidableLE κ] (key : α → κ) (items : List α)
    (nothing : sortedBy key items = []) : items = [] :=
  (nothing ▸ sorted_by_perm key items).nil_eq.symm

structure Outcome (query : Query) (attempts : List Observation) (attempt outcome : Observation) : Prop where
  among : outcome ∈ attempts
  same : SameOperation query.canonicalSources outcome attempt
  latest : ∀ other ∈ attempts, SameOperation query.canonicalSources other attempt →
    other = outcome ∨ Later query.calendar outcome other

variable (query : Query)

theorem current_attempts_clear (attempts chosen : List Observation)
    (found : currentOperationAttempts query.calendar query.canonicalSources attempts = (chosen, [])) :
    (∀ attempt ∈ attempts, (operationOf query.canonicalSources attempt).isSome = true) ∧
      (∀ attempt ∈ attempts, ∃ outcome ∈ chosen, Outcome query attempts attempt outcome) ∧
      ∀ outcome ∈ chosen, Outcome query attempts outcome outcome := by
  simp only [currentOperationAttempts] at found
  obtain ⟨rfl, quiet⟩ := Prod.mk.inj found
  obtain ⟨named, untied⟩ := List.append_eq_nil_iff.mp (sorted_by_nil id _ quiet)
  rw [List.dedup_eq_nil, List.map_eq_nil_iff, List.filter_eq_nil_iff] at named
  rw [List.map_eq_nil_iff, List.filter_eq_nil_iff] at untied
  have identified : ∀ attempt ∈ attempts, (operationOf query.canonicalSources attempt).isSome = true := by
    intro attempt listed
    have present := named attempt listed
    rw [operationOf, Option.isSome_map]
    cases known : operationKey query.canonicalSources attempt with
    | none => simp [known] at present
    | some => rfl
  -- The one attempt that is chosen of the group of an operation.
  have select : ∀ operation group,
      (groupAttempts query.canonicalSources attempts).get? operation = some group →
      ∃ top, (latestAttempt query.calendar group.2).1.argmax Observation.recordOrder = some top ∧ top ∈ attempts ∧
        operationOf query.canonicalSources top = some operation ∧
        ∀ other ∈ attempts, operationOf query.canonicalSources other = some operation →
          other = top ∨ Later query.calendar top other := by
    intro operation group stored
    obtain ⟨members, filled⟩ := grouped_attempts query.canonicalSources attempts identified operation
    rw [stored] at members
    change group.2 = _ at members
    have clear := untied (operation, group) ((Dict.mem_items _ _ _).mpr stored)
    obtain ⟨top, alone, listed, above⟩ := latest_attempt_unique query.calendar group.2 (filled group stored)
      (by simpa using clear)
    rw [members, List.mem_filter, decide_eq_true_eq] at listed
    refine ⟨top, by rw [alone]; rfl, listed.1, listed.2, fun other member own => above other ?_⟩
    rw [members]
    exact List.mem_filter.mpr ⟨member, decide_eq_true own⟩
  refine ⟨identified, ?_, ?_⟩
  · intro attempt listed
    obtain ⟨operation, named⟩ := Option.isSome_iff_exists.mp (identified attempt listed)
    obtain ⟨members, filled⟩ := grouped_attempts query.canonicalSources attempts identified operation
    cases stored : (groupAttempts query.canonicalSources attempts).get? operation with
    | none =>
        rw [stored] at members
        have member : attempt ∈ attempts.filter fun item =>
            decide (operationOf query.canonicalSources item = some operation) :=
          List.mem_filter.mpr ⟨listed, decide_eq_true named⟩
        rw [← members] at member
        cases member
    | some group =>
        obtain ⟨top, greatest, among, own, above⟩ := select operation group stored
        refine ⟨top, List.mem_filterMap.mpr ⟨(operation, group), (Dict.mem_items _ _ _).mpr stored, greatest⟩, among,
          ⟨operation, own, named⟩, ?_⟩
        rintro other member ⟨shared, its, also⟩
        rw [named] at also
        cases also
        exact above other member its
  · intro outcome listed
    obtain ⟨⟨operation, group⟩, stored, greatest⟩ := List.mem_filterMap.mp listed
    obtain ⟨top, best, among, own, above⟩ := select operation group ((Dict.mem_items _ _ _).mp stored)
    cases Option.some.inj (greatest.symm.trans best)
    refine ⟨among, ⟨operation, own, own⟩, ?_⟩
    rintro other member ⟨shared, its, also⟩
    rw [own] at also
    cases also
    exact above other member its

def publicationEligible (guidance : Guidance) : Bool := guidance.details.any Details.publicationEligible

structure Cleared (query : Query) (records : List Observation) (binding : Binding)
    (chosen : List Observation) : Prop where
  settled : pendingObligations query.ownerSources records (some binding) = .ok []
  clear : currentOperationAttempts query.calendar query.canonicalSources (lifecycleAttempts records (some binding)) =
    (chosen, [])
  finished : filterOk (fun item => (statusAmong terminalStatuses item).map not) chosen = .ok []
  passed : chosen.any (finalGate query.ownerSources (some binding)) = true

theorem inspect_cleared (records : List Observation) (binding : Binding) (found : Findings)
    (inspected : inspect query records (some binding) = .ok found)
    (eligible : (detail query.scope (some binding) found).publicationEligible = true) :
    Cleared query records binding found.current := by
  simp only [inspect, bind_ok_iff] at inspected
  obtain ⟨pending, settled, running, -, incomplete, finished, conflicts, -, invalid, -, unresolved, -, succeeded, -,
    whole⟩ := inspected
  cases whole
  have all := of_decide_eq_true eligible
  obtain ⟨-, passed, -, ended, clear, -, -, none, -⟩ := all
  dsimp only at passed ended clear none
  rw [none] at settled
  rw [ended] at finished
  exact ⟨settled, Prod.ext rfl clear, finished, passed⟩

theorem advise_cleared (observations : List Observation) (guidance : Guidance)
    (advised : advise query observations = .ok guidance) (eligible : publicationEligible guidance = true) :
    ∃ records binding chosen, packageRecords query observations = .ok records ∧
      selectPackageBinding query.ownerSources records = .ok (.ok binding) ∧ Cleared query records binding chosen := by
  obtain ⟨details, answered, granted⟩ := (Option.any_eq_true _ _).mp eligible
  obtain ⟨records, selected, found, taken, chosen, inspected, rfl, -, usable⟩ :=
    advise_details query observations guidance details advised answered
  rcases usable with scope | ⟨binding, rfl⟩
  · rw [(of_decide_eq_true granted).1] at scope
    cases scope
  · exact ⟨records, binding, found.current, taken, chosen, inspect_cleared query records binding found
      inspected granted⟩

theorem Cleared.terminal {query : Query} {records : List Observation} {binding : Binding} {chosen : List Observation}
    (cleared : Cleared query records binding chosen) :
    ∀ outcome ∈ chosen, ∃ status ∈ terminalStatuses, outcome.field "status" = .str status := by
  intro outcome listed
  obtain ⟨total, kept⟩ := filter_ok_inv _ _ _ cleared.finished
  obtain ⟨verdict, tested⟩ := total outcome listed
  apply (Json.among_true _ _).mp
  change statusAmong terminalStatuses outcome = .ok true
  cases found : statusAmong terminalStatuses outcome with
  | error fault =>
      rw [found] at tested
      cases tested
  | ok among =>
      cases among with
      | true => rfl
      | false => cases (kept outcome).mpr ⟨listed, by rw [found]; rfl⟩

theorem Answerable.leads {query : Query} {records : List Observation} {binding : Binding}
    (answerable : Answerable query records binding) {attempt outcome : Observation}
    (chosen : Outcome query (lifecycleAttempts records (some binding)) attempt outcome) :
    ∀ other ∈ applicable records (some binding), SameOperation query.canonicalSources other attempt →
      other = outcome ∨ Later query.calendar outcome other := by
  intro other listed same
  cases told : (other.field "status").isStr with
  | true => exact chosen.latest other ((lifecycle_iff _ _ _).mpr ⟨listed, told⟩) same
  | false =>
      obtain ⟨later, among, follows, said, above⟩ := answerable.statuses other listed told
      rcases chosen.latest later ((lifecycle_iff _ _ _).mpr ⟨among, said⟩) (follows.trans same) with rfl | higher
      · exact .inr above
      · exact .inr (higher.trans above)

theorem authorized_of_answerable (records : List Observation) (binding : Binding)
    (chosen : List Observation) (selected : selectPackageBinding query.ownerSources records = .ok (.ok binding))
    (cleared : Cleared query records binding chosen) (answerable : Answerable query records binding) :
    Authorized query records binding := by
  obtain ⟨complete, current, agreed⟩ := selected_binding _ _ _ selected
  obtain ⟨identified, followed, leading⟩ := current_attempts_clear query _ chosen cleared.clear
  refine ⟨current, ?_, no_pending _ _ _ cleared.settled, ?_, ?_⟩
  · intro source item latest
    have same := agreed source item latest
    obtain ⟨declared, listing⟩ := answerable.manifests source item latest
    exact ⟨complete_of_agree same complete declared listing, same⟩
  · obtain ⟨gate, listed, passed⟩ := List.any_eq_true.mp cleared.passed
    have top := leading gate listed
    refine ⟨gate, ((lifecycle_iff _ _ _).mp top.among).1, passed, fun other member same above => ?_⟩
    rcases answerable.leads top other member same with rfl | below
    · exact absurd above (Later.irrefl _ _)
    · exact absurd (above.trans below) (Later.irrefl _ _)
  · intro attempt listed
    -- The attempt itself reports a status, or one that follows it does.
    have spoken : ∃ spoken ∈ lifecycleAttempts records (some binding),
        SameOperation query.canonicalSources spoken attempt := by
      cases told : (attempt.field "status").isStr with
      | true =>
          have member := (lifecycle_iff _ _ _).mpr ⟨listed, told⟩
          obtain ⟨operation, named⟩ := Option.isSome_iff_exists.mp (identified attempt member)
          exact ⟨attempt, member, operation, named, named⟩
      | false =>
          obtain ⟨later, among, follows, said, -⟩ := answerable.statuses attempt listed told
          exact ⟨later, (lifecycle_iff _ _ _).mpr ⟨among, said⟩, follows⟩
    obtain ⟨other, member, follows⟩ := spoken
    obtain ⟨outcome, picked, top⟩ := followed other member
    have own := follows
    obtain ⟨operation, -, named⟩ := own
    refine ⟨by rw [named]; rfl, outcome, ((lifecycle_iff _ _ _).mp top.among).1, top.same.trans follows,
      cleared.terminal outcome picked, fun another also same => ?_⟩
    exact answerable.leads top another also (same.trans follows.symm)

theorem answerable_of_authorized (records : List Observation) (binding : Binding)
    (authorized : Authorized query records binding) : Answerable query records binding := by
  constructor
  · intro attempt listed silent
    obtain ⟨-, outcome, among, same, ⟨status, -, reported⟩, leads⟩ := authorized.operations attempt listed
    have said : (outcome.field "status").isStr = true := by rw [reported]; rfl
    obtain ⟨operation, named, own⟩ := same
    rcases leads attempt listed ⟨operation, own, own⟩ with rfl | above
    · rw [said] at silent
      cases silent
    · exact ⟨outcome, among, ⟨operation, named, own⟩, said, above⟩
  · exact fun source item latest => complete_shape (authorized.agreed source item latest).1

theorem publication_sound (query : Query) (observations : List Observation) (guidance : Guidance)
    (advised : advise query observations = .ok guidance) (eligible : publicationEligible guidance = true) :
    ∃ records binding, packageRecords query observations = .ok records ∧
      selectPackageBinding query.ownerSources records = .ok (.ok binding) ∧
      (Authorized query records binding ↔ Answerable query records binding) := by
  obtain ⟨records, binding, chosen, taken, selected, cleared⟩ := advise_cleared query observations guidance
    advised eligible
  exact ⟨records, binding, taken, selected, answerable_of_authorized query records binding,
    authorized_of_answerable query records binding chosen selected cleared⟩

def declaredBinding : Observation := observed "binding" "classification" 1
    [("classification_kind", .str "package_binding"),
  ("requirement_set_id", .str "requirements"), ("candidate_id", .str "candidate"), ("check_plan_revision", .str "plan"),
  ("policy_revision", .str "policy"), ("obligation_ids", .arr []), ("obligations_complete", .bool true)]

def acceptedGate : Observation := observed "gate" "execution_attempt" 2 [("execution_id", .str "first"),
  ("operation_id", .str "check"), ("attempt_sequence", .int 1), ("verification_role", .str "final_gate"),
  ("status", .str "completed"), ("accepted", .bool true), ("authority_status", .str "owner_authorized"),
  ("candidate_id", .str "candidate"), ("check_plan_revision", .str "plan"), ("policy_revision", .str "policy"),
  ("evidence_digest", .str "digest")]

def silentRetry : Observation := observed "retry" "execution_attempt" 3 [("execution_id", .str "second"),
  ("operation_id", .str "check"), ("attempt_sequence", .int 2)]

def packageQuery : Query where
  calendar := ⟨fun _ => none⟩
  scope := .package
  packageId := some "package"
  operationId := none
  ownerSources := ["owner"]
  canonicalSources := []
  semantics := fun _ => none
  asOf := ⟨"", 10⟩

theorem accepted_gate_authorizes : ∃ guidance,
    advise packageQuery [declaredBinding, acceptedGate] = .ok guidance ∧ publicationEligible guidance = true ∧
      ∃ records binding, packageRecords packageQuery [declaredBinding, acceptedGate] = .ok records ∧
        selectPackageBinding packageQuery.ownerSources records = .ok (.ok binding) ∧
        (Authorized packageQuery records binding ↔ Answerable packageQuery records binding) := by
  obtain ⟨guidance, advised, eligible⟩ :=
    ok_of_check (advise packageQuery [declaredBinding, acceptedGate]) publicationEligible (by decide +kernel)
  exact ⟨guidance, advised, eligible, publication_sound packageQuery _ guidance advised eligible⟩

theorem silent_retry_masked : ∃ guidance,
    advise packageQuery [declaredBinding, acceptedGate, silentRetry] = .ok guidance ∧
      publicationEligible guidance = true ∧
      ∃ records, packageRecords packageQuery [declaredBinding, acceptedGate, silentRetry] = .ok records ∧
        selectPackageBinding packageQuery.ownerSources records = .ok (.ok declaredBinding.data) ∧
        ¬ Authorized packageQuery records declaredBinding.data := by
  obtain ⟨guidance, advised, eligible⟩ := ok_of_check (advise packageQuery [declaredBinding, acceptedGate, silentRetry])
    publicationEligible (by decide +kernel)
  refine ⟨guidance, advised, eligible, [declaredBinding, acceptedGate, silentRetry], rfl, rfl, fun authorized => ?_⟩
  have attempts : applicable [declaredBinding, acceptedGate, silentRetry] (some declaredBinding.data) =
      [acceptedGate, silentRetry] := rfl
  obtain ⟨-, outcome, listed, -, ⟨status, -, reported⟩, leads⟩ := authorized.operations silentRetry (by simp [attempts])
  rw [attempts, List.mem_cons, List.mem_singleton] at listed
  rcases listed with rfl | rfl
  · rcases leads silentRetry (by simp [attempts]) ⟨_, rfl, rfl⟩ with same | below
    · exact absurd (congrArg Observation.observationId same) (by decide)
    · exact absurd (show (2 : Int) < 1 from below) (by decide)
  · cases reported

end OrchestratorEngine.Metrics
