import OrchestratorEngine.Metrics.Bindings

set_option autoImplicit false

namespace OrchestratorEngine.Metrics

open Foundation

def executionOf (item : Observation) : Option String := (item.field "execution_id").text?

theorem Json.text_iff (value : Json) (text : String) : value.text? = some text ↔ text ≠ "" ∧ value = .str text := by
  cases value with
  | str given =>
      by_cases empty : given = ""
      · subst empty
        simp only [Json.text?, if_true, reduceCtorEq, Json.str.injEq, false_iff]
        rintro ⟨filled, rfl⟩
        exact filled rfl
      · simp only [Json.text?, if_neg empty, Option.some.injEq, Json.str.injEq]
        constructor
        · rintro rfl
          exact ⟨empty, rfl⟩
        · exact fun both => both.2
  | _ => simp [Json.text?]

def Names (disposition failure : Observation) : Prop :=
  ∃ executionId, executionOf failure = some executionId ∧
    (disposition.field "source_execution_id").text? = some executionId

def Settling (value : Json) : Prop := ∃ name ∈ settlements, value = .str name

def SelfSettled (ownerSources : List String) (failure : Observation) : Prop :=
  failure.sourceId ∈ ownerSources ∧ Settling (failure.field "disposition")

def Applies (binding : Option Binding) (failure : Observation) : Prop :=
  (failure.field "candidate_id").isNull = true ∨ matchesPackageBinding failure.data binding = true

-- What the code takes for a disposition of the failure.
structure Disposition (ownerSources : List String) (records : List Observation)
    (failure item : Observation) : Prop where
  listed : item ∈ records
  classified : isClassification "failure_disposition" item = true
  equal : (item.field "source_execution_id").equals (failure.field "execution_id") = true
  settles : Settling (item.field "status")
  owned : item.sourceId ∈ ownerSources
  targets : targetsFailure item failure records = true
  candidate : (failure.field "candidate_id").isNull = true ∨ (item.field "candidate_id").isNull = true ∨
    (item.field "candidate_id").equals (failure.field "candidate_id") = true

variable (ownerSources : List String)

variable (records : List Observation)

variable (failure item : Observation)

theorem disposes_iff :
    disposes ownerSources records failure item = .ok true ↔
      isClassification "failure_disposition" item = true ∧
        (item.field "source_execution_id").equals (failure.field "execution_id") = true ∧
        Settling (item.field "status") ∧ item.sourceId ∈ ownerSources ∧ targetsFailure item failure records = true := by
  simp only [disposes]
  split
  case isTrue both =>
    rw [Bool.and_eq_true] at both
    rw [bind_ok_iff]
    constructor
    · rintro ⟨settles, tested, finish⟩
      have whole := Except.ok.inj finish
      simp only [Bool.and_eq_true, decide_eq_true_eq] at whole
      obtain ⟨⟨rfl, owned⟩, targets⟩ := whole
      exact ⟨both.1, both.2, (Json.among_true _ _).mp tested, owned, targets⟩
    · rintro ⟨-, -, settles, owned, targets⟩
      exact ⟨true, (Json.among_true _ _).mpr settles, by simp [owned, targets]⟩
  case isFalse neither =>
    constructor
    · exact fun done => by cases done
    · exact fun all => absurd (Bool.and_eq_true_iff.mpr ⟨all.1, all.2.1⟩) neither

theorem same_candidate_iff (verdict : Bool)
    (done : sameCandidate failure item = .ok verdict) :
    verdict = true ↔ (item.field "candidate_id").isNull = true ∨
      (item.field "candidate_id").equals (failure.field "candidate_id") = true := by
  simp only [sameCandidate, bind_ok_iff] at done
  obtain ⟨-, -, finish⟩ := done
  cases finish
  rw [Bool.or_eq_true]

theorem self_settled_iff (failure : Observation) (settled : Bool)
    (done : settlesItself ownerSources failure = .ok settled) : settled = true ↔ SelfSettled ownerSources failure := by
  simp only [settlesItself] at done
  split at done
  case isTrue owned =>
    constructor
    · rintro rfl
      exact ⟨owned, (Json.among_true _ _).mp done⟩
    · rintro ⟨-, settles⟩
      have tested := (Json.among_true _ _).mpr settles
      rw [tested] at done
      exact (Except.ok.inj done).symm
  case isFalse foreign =>
    cases done
    constructor
    · exact nofun
    · exact fun settled => absurd settled.1 foreign

variable (binding : Option Binding)

theorem resolved_iff
    (failure : Observation) (verdict : Bool)
    (done : failureIsUnresolved ownerSources records binding failure = .ok verdict) :
    verdict = false ↔ SelfSettled ownerSources failure ∨ ¬ Applies binding failure ∨
      ∃ item, Disposition ownerSources records failure item := by
  simp only [failureIsUnresolved, bind_ok_iff] at done
  obtain ⟨settled, tested, done⟩ := done
  have own := self_settled_iff ownerSources failure settled tested
  cases settled with
  | true =>
      cases done
      exact iff_of_true rfl (.inl (own.mp rfl))
  | false =>
      have unsettled : ¬ SelfSettled ownerSources failure := fun held => Bool.false_ne_true (own.mpr held)
      rw [if_neg Bool.false_ne_true] at done
      split at done
      case isTrue foreign =>
        cases done
        simp only [Bool.and_eq_true, Bool.not_eq_true'] at foreign
        refine iff_of_true rfl (.inr (.inl fun applies => ?_))
        rcases applies with bare | matching
        · rw [foreign.1.2] at bare
          cases bare
        · rw [foreign.2] at matching
          cases matching
      case isFalse near =>
        have applies : Applies binding failure := by
          cases binding with
          | none => exact .inr rfl
          | some current =>
              by_cases bare : (failure.field "candidate_id").isNull = true
              · exact .inl bare
              · refine .inr ?_
                simpa [bare] using near
        obtain ⟨dispositions, disposed, done⟩ := (bind_ok_iff _ _ _).mp done
        obtain ⟨kept, narrowed, done⟩ := (bind_ok_iff _ _ _).mp done
        cases done
        have found := (filter_ok_inv _ _ _ disposed).2
        have members : ∀ item, item ∈ kept ↔ Disposition ownerSources records failure item := by
          intro item
          simp only [withCandidate] at narrowed
          split at narrowed
          case isTrue bare =>
            cases narrowed
            rw [found, disposes_iff]
            constructor
            · rintro ⟨listed, classified, equal, settles, owned, targets⟩
              exact ⟨listed, classified, equal, settles, owned, targets, .inl bare⟩
            · exact fun all => ⟨all.listed, all.classified, all.equal, all.settles, all.owned, all.targets⟩
          case isFalse filled =>
            obtain ⟨total, chosen⟩ := filter_ok_inv _ _ _ narrowed
            rw [chosen, found, disposes_iff]
            constructor
            · rintro ⟨⟨listed, classified, equal, settles, owned, targets⟩, same⟩
              exact ⟨listed, classified, equal, settles, owned, targets,
                .inr ((same_candidate_iff failure item true same).mp rfl)⟩
            · intro all
              have known := (found item).mpr ⟨all.listed, (disposes_iff ownerSources records failure item).mpr
                ⟨all.classified, all.equal, all.settles, all.owned, all.targets⟩⟩
              obtain ⟨same, tested⟩ := total item known
              have right := (same_candidate_iff failure item same tested).mpr (all.candidate.resolve_left filled)
              exact ⟨⟨all.listed, all.classified, all.equal, all.settles, all.owned, all.targets⟩, right ▸ tested⟩
        constructor
        · intro some
          obtain ⟨item, listed⟩ := List.exists_mem_of_ne_nil kept (by simpa [List.isEmpty_iff] using some)
          exact .inr (.inr ⟨item, (members item).mp listed⟩)
        · rintro (held | away | ⟨item, all⟩)
          · exact absurd held unsettled
          · exact absurd applies away
          · have listed := (members item).mpr all
            cases kept with
            | nil => cases listed
            | cons => rfl

def Failing (item : Observation) : Prop :=
  isAttempt item = true ∧ ∃ status ∈ ["failed", "errored", "timed_out"], item.field "status" = .str status

theorem unresolved_failures_iff
    (kept : List Observation) (done : unresolvedFailures ownerSources records binding = .ok kept) :
    (∀ failure ∈ records, Failing failure →
      ∃ verdict, failureIsUnresolved ownerSources records binding failure = .ok verdict) ∧
      ∀ failure, failure ∈ kept ↔ failure ∈ records ∧ Failing failure ∧
        failureIsUnresolved ownerSources records binding failure = .ok true := by
  obtain ⟨failed, chosen, tested⟩ := (bind_ok_iff _ _ _).mp done
  have failures : ∀ failure, failure ∈ failed ↔ failure ∈ records ∧ Failing failure := by
    intro failure
    rw [(filter_ok_inv _ _ _ chosen).2, List.mem_filter, isFailed, statusAmong, Json.among_true, Failing, and_assoc]
  obtain ⟨total, members⟩ := filter_ok_inv _ _ _ tested
  refine ⟨fun failure listed failing => total failure ((failures failure).mpr ⟨listed, failing⟩), fun failure => ?_⟩
  rw [members, failures, and_assoc]

theorem inspect_unresolved (query : Query) (records : List Observation) (binding : Option Binding) (found : Findings)
    (inspected : inspect query records binding = .ok found) :
    unresolvedFailures query.ownerSources records binding = .ok found.unresolved := by
  simp only [inspect, bind_ok_iff] at inspected
  obtain ⟨_, -, _, -, _, -, _, -, _, -, unresolved, listed, _, -, whole⟩ := inspected
  cases whole
  exact listed

def OwnerDecision (ownerSources : List String) (records : List Observation) (failure : Observation) : Prop :=
  SelfSettled ownerSources failure ∨
    ∃ item, Disposition ownerSources records failure item ∧ Names item failure

theorem disposition_names
    (disposed : Disposition ownerSources records failure item) (executionId : String)
    (identified : executionOf failure = some executionId) : Names item failure := by
  refine ⟨executionId, identified, ?_⟩
  obtain ⟨filled, given⟩ := (Json.text_iff _ _).mp identified
  have equal := disposed.equal
  rw [given, Json.equals_str] at equal
  exact (Json.text_iff _ _).mpr ⟨filled, equal⟩

theorem decision_iff
    (failure : Observation) (applies : Applies binding failure)
    (resolved : failureIsUnresolved ownerSources records binding failure = .ok false) :
    OwnerDecision ownerSources records failure ↔
      (executionOf failure).isSome = true ∨ SelfSettled ownerSources failure := by
  constructor
  · rintro (settled | ⟨item, -, executionId, identified, -⟩)
    · exact .inr settled
    · exact .inl (by rw [identified]; rfl)
  · rintro (identified | settled)
    · obtain ⟨executionId, known⟩ := Option.isSome_iff_exists.mp identified
      rcases (resolved_iff ownerSources records binding failure false resolved).mp
        rfl with own | away | ⟨item, disposed⟩
      · exact .inl own
      · exact absurd applies away
      · exact .inr ⟨item, disposed, disposition_names ownerSources records failure item disposed executionId known⟩
    · exact .inl settled

end OrchestratorEngine.Metrics
