import Mathlib.Data.List.Forall2
import OrchestratorEngine.Foundation.Grouping
import OrchestratorEngine.Metrics.Attribution

set_option autoImplicit false

namespace OrchestratorEngine.Metrics

open Foundation

def Json.isNumber : Json → Bool
  | .int _ => true
  | .float _ => true
  | _ => false

def Observation.attempted (usage : UsageSources) (item : Observation) : Bool :=
  decide (item.recordType = "execution_attempt") && usage.admits item.sourceId

def Observation.measured (item : Observation) : Bool :=
  (item.field "usage_measurement_status").names "complete" || (item.field "usage_measurement_status").names "partial"

def reported (usage : UsageSources) (item : Observation) : Option (Json × Json) :=
  if item.attempted usage && (item.field "total_tokens").isNumber && item.measured then
    some (item.field "total_tokens", item.field "usage_measurement_status")
  else none

def completeTokens (usage : UsageSources) (item : Observation) : Option Json :=
  if usage.admits item.sourceId && (item.field "total_tokens").isNumber &&
      (item.field "usage_measurement_status").names "complete" then some (item.field "total_tokens")
  else none

section Calculation

variable {floats : Floats} {usage : UsageSources}

theorem number_done {value : Json} {number : Option floats.Value} (done : floats.number value = .ok number) :
    number.isSome = value.isNumber := by
  cases value with
  | int whole =>
      unfold Floats.number at done
      dsimp only at done
      split at done
      · cases done
        rfl
      · cases done
  | _ =>
      cases done
      rfl

theorem names_among {value : Json} {names : List String} {listed : Bool} (done : value.among names = .ok listed) :
    listed = names.any value.names := by
  cases value with
  | str text =>
      cases done
      simp only [Json.names, List.any_eq, decide_eq_true_eq]
      congr 1
      simp
  | null | bool _ | int _ | float _ =>
      cases done
      simp [Json.names]
  | arr _ | obj _ => cases done

theorem among_returns (value : Json) (names : List String) :
    (∃ listed, value.among names = .ok listed) ↔ value.hashable = true := by
  cases value with
  | str text => exact ⟨fun _ => rfl, fun _ => ⟨_, rfl⟩⟩
  | null | bool _ | int _ | float _ => exact ⟨fun _ => rfl, fun _ => ⟨_, rfl⟩⟩
  | arr _ | obj _ =>
      constructor
      · rintro ⟨_, done⟩
        cases done
      · intro hashes
        cases hashes

def Sound (floats : Floats) (item : Observation) : Prop :=
  ∃ number, floats.number (item.field "total_tokens") = .ok number ∧
    (number.isSome = true → (item.field "usage_measurement_status").hashable = true)

variable {item : Observation}

theorem qualified_done {qualified : Bool} (done : qualifiedUsage floats usage item = .ok qualified) :
    qualified = ((item.field "total_tokens").isNumber && item.measured && usage.admits item.sourceId) := by
  obtain ⟨number, read, done⟩ := (bind_ok_iff _ _ _).mp done
  have numeric := number_done read
  cases number with
  | none =>
      cases done
      rw [← numeric]
      rfl
  | some value =>
      obtain ⟨listed, found, done⟩ := (bind_ok_iff _ _ _).mp done
      have known := names_among found
      have measured : listed = item.measured := by simpa [Observation.measured] using known
      rw [← numeric, ← measured]
      cases listed with
      | true =>
          cases done
          rfl
      | false =>
          cases done
          rfl

theorem qualified_returns (usage : UsageSources) (item : Observation) :
    (∃ qualified, qualifiedUsage floats usage item = .ok qualified) ↔
    Sound floats item := by
  constructor
  · rintro ⟨qualified, done⟩
    obtain ⟨number, read, done⟩ := (bind_ok_iff _ _ _).mp done
    refine ⟨number, read, fun numeric => ?_⟩
    obtain ⟨value, rfl⟩ := Option.isSome_iff_exists.mp numeric
    obtain ⟨listed, found, -⟩ := (bind_ok_iff _ _ _).mp done
    exact (among_returns _ _).mp ⟨listed, found⟩
  · rintro ⟨number, read, hashes⟩
    unfold qualifiedUsage
    rw [read, bind_ok]
    cases number with
    | none => exact ⟨_, rfl⟩
    | some value =>
        obtain ⟨listed, found⟩ := (among_returns (item.field "usage_measurement_status") ["complete", "partial"]).mpr
          (hashes rfl)
        dsimp only
        rw [found, bind_ok]
        cases listed <;> exact ⟨_, rfl⟩

theorem complete_some {tokens : Json} : completeTokens usage item = some tokens ↔
    (usage.admits item.sourceId = true ∧ (item.field "total_tokens").isNumber = true ∧
      (item.field "usage_measurement_status").names "complete" = true) ∧ item.field "total_tokens" = tokens := by
  unfold completeTokens
  split
  · rename_i counts
    simp only [Bool.and_eq_true] at counts
    simp only [Option.some.injEq, counts, and_true, true_and]
  · rename_i counts
    simp only [Bool.and_eq_true] at counts
    constructor
    · nofun
    · rintro ⟨⟨admits, number, complete⟩, -⟩
      exact absurd ⟨⟨admits, number⟩, complete⟩ counts

theorem complete_measured (complete : (item.field "usage_measurement_status").names "complete" = true) :
    item.measured = true ∧ (item.field "usage_measurement_status").names "partial" = false := by
  unfold Observation.measured
  generalize item.field "usage_measurement_status" = status at complete ⊢
  cases status with
  | str text =>
      have same : text = "complete" := of_decide_eq_true complete
      subst same
      exact ⟨rfl, by decide⟩
  | null | bool _ | int _ | float _ | arr _ | obj _ => cases complete

theorem count_done {tally next : Tally floats} (done : count floats usage tally item = .ok next) :
    (completeTokens usage item = none ∧ next.known = tally.known) ∨
      ∃ tokens number, completeTokens usage item = some tokens ∧ floats.number tokens = .ok (some number) ∧
        next.known = tally.known.set (usageKey item) number := by
  obtain ⟨number, read, done⟩ := (bind_ok_iff _ _ _).mp done
  have numeric := number_done read
  have uncounted : ¬ (usage.admits item.sourceId = true ∧ (item.field "total_tokens").isNumber = true ∧
      (item.field "usage_measurement_status").names "complete" = true) → completeTokens usage item = none := by
    intro wrong
    rw [Option.eq_none_iff_forall_ne_some]
    exact fun tokens counted => wrong (complete_some.mp counted).1
  cases number with
  | none =>
      cases done
      refine .inl ⟨uncounted fun counts => ?_, rfl⟩
      rw [← numeric] at counts
      cases counts.2.1
  | some value =>
      obtain ⟨qualified, found, done⟩ := (bind_ok_iff _ _ _).mp done
      have known := qualified_done found
      rw [← numeric, Option.isSome_some, Bool.true_and] at known
      cases qualified with
      | false =>
          cases done
          refine .inl ⟨uncounted fun counts => ?_, rfl⟩
          rw [(complete_measured counts.2.2).1, counts.1] at known
          cases known
      | true =>
          simp only [Eq.comm (a := true), Bool.and_eq_true] at known
          simp only [if_true] at done
          split at done
          · rename_i bound
            cases done
            refine .inl ⟨uncounted fun counts => ?_, rfl⟩
            rw [(complete_measured counts.2.2).2] at bound
            cases bound
          · split at done
            · rename_i complete
              cases done
              exact .inr ⟨_, value, complete_some.mpr ⟨⟨known.2, numeric.symm, complete⟩, rfl⟩, read, rfl⟩
            · rename_i complete
              cases done
              exact .inl ⟨uncounted fun counts => complete counts.2.2, rfl⟩

theorem count_returns (usage : UsageSources) (tally : Tally floats) (item : Observation) :
    (∃ next, count floats usage tally item = .ok next) ↔ Sound floats item := by
  rw [← qualified_returns usage]
  constructor
  · rintro ⟨next, done⟩
    obtain ⟨number, read, done⟩ := (bind_ok_iff _ _ _).mp done
    cases number with
    | none =>
        refine ⟨false, ?_⟩
        unfold qualifiedUsage
        rw [read]
        rfl
    | some value =>
        obtain ⟨qualified, found, -⟩ := (bind_ok_iff _ _ _).mp done
        exact ⟨qualified, found⟩
  · rintro ⟨qualified, found⟩
    obtain ⟨number, read, -⟩ := (bind_ok_iff _ _ _).mp found
    unfold count
    rw [read, bind_ok]
    cases number with
    | none => exact ⟨_, rfl⟩
    | some value =>
        dsimp only
        rw [found, bind_ok]
        cases qualified with
        | false => exact ⟨_, rfl⟩
        | true =>
            simp only [if_true]
            split
            · exact ⟨_, rfl⟩
            · split <;> exact ⟨_, rfl⟩

theorem covers_done {covered : Bool} (done : covers floats usage item = .ok covered) :
    covered = (completeTokens usage item).isSome := by
  obtain ⟨qualified, found, done⟩ := (bind_ok_iff _ _ _).mp done
  have known := qualified_done found
  cases qualified with
  | false =>
      cases done
      symm
      rw [Option.isSome_eq_false_iff, Option.isNone_iff_eq_none, Option.eq_none_iff_forall_ne_some]
      intro tokens counted
      obtain ⟨⟨admits, number, complete⟩, -⟩ := complete_some.mp counted
      rw [number, (complete_measured complete).1, admits] at known
      cases known
  | true =>
      cases done
      simp only [Eq.comm (a := true), Bool.and_eq_true] at known
      unfold completeTokens
      rw [known.1.1, known.2]
      cases (item.field "usage_measurement_status").names "complete" <;> rfl

theorem covers_returns (usage : UsageSources) (item : Observation) :
    (∃ covered, covers floats usage item = .ok covered) ↔ Sound floats item := by
  rw [← qualified_returns usage]
  constructor
  · rintro ⟨covered, done⟩
    obtain ⟨qualified, found, -⟩ := (bind_ok_iff _ _ _).mp done
    exact ⟨qualified, found⟩
  · rintro ⟨qualified, found⟩
    unfold covers
    rw [found, bind_ok]
    cases qualified <;> exact ⟨_, rfl⟩

theorem tally_known {items images : List Observation} {tally other final last : Tally floats}
    (same : List.Forall₂ (fun item image => usageKey image = usageKey item ∧
      completeTokens usage image = completeTokens usage item) items images)
    (known : other.known = tally.known) (done : items.foldlM (count floats usage) tally = .ok final)
    (also : images.foldlM (count floats usage) other = .ok last) : last.known = final.known := by
  induction same generalizing tally other with
  | nil =>
      cases done
      cases also
      exact known
  | @cons item image items images alike _ ih =>
      obtain ⟨next, taken, onward⟩ := (fold_cons_ok item items tally final).mp done
      obtain ⟨after, settled, later⟩ := (fold_cons_ok image images other last).mp also
      refine ih ?_ onward later
      rcases count_done taken with ⟨uncounted, kept⟩ | ⟨tokens, number, counted, read, grown⟩
      · rcases count_done settled with ⟨-, unchanged⟩ | ⟨tokens, number, counted, -, -⟩
        · exact unchanged.trans (known.trans kept.symm)
        · cases uncounted.symm.trans (alike.2.symm.trans counted)
      · rcases count_done settled with ⟨uncounted, -⟩ | ⟨others, value, also, heard, larger⟩
        · cases uncounted.symm.trans (alike.2.trans counted)
        · cases counted.symm.trans (alike.2.symm.trans also)
          cases read.symm.trans heard
          rw [larger, grown, known, alike.1]

variable {items : List Observation}

theorem tally_sound {tally final : Tally floats}
    (done : items.foldlM (count floats usage) tally = .ok final) : ∀ item ∈ items, Sound floats item := by
  induction items generalizing tally with
  | nil => nofun
  | cons item rest ih =>
      obtain ⟨next, taken, onward⟩ := (fold_cons_ok item rest tally final).mp done
      intro other listed
      rcases List.mem_cons.mp listed with rfl | later
      · exact (count_returns usage tally other).mp ⟨next, taken⟩
      · exact ih onward other later

theorem tally_returns (usage : UsageSources) (sound : ∀ item ∈ items, Sound floats item) (tally : Tally floats) :
    ∃ final, items.foldlM (count floats usage) tally = .ok final := by
  induction items generalizing tally with
  | nil => exact ⟨tally, rfl⟩
  | cons item rest ih =>
      obtain ⟨next, taken⟩ := (count_returns usage tally item).mpr (sound item List.mem_cons_self)
      obtain ⟨final, onward⟩ := ih (fun other listed => sound other (List.mem_cons_of_mem _ listed)) next
      exact ⟨final, (fold_cons_ok item rest tally final).mpr ⟨next, taken, onward⟩⟩

theorem covered_done {covered : List Bool} (done : items.mapM (covers floats usage) = .ok covered) :
    covered = items.map fun item => (completeTokens usage item).isSome := by
  have each := mapM_ok_inv _ _ _ done
  clear done
  induction each with
  | nil => rfl
  | cons taken _ ih => rw [List.map_cons, covers_done taken, ih]

theorem covered_same {items images : List Observation}
    (same : List.Forall₂ (fun item image => usageKey image = usageKey item ∧
      completeTokens usage image = completeTokens usage item) items images) :
    images.map (fun item => (completeTokens usage item).isSome) = items.map fun item =>
    (completeTokens usage item).isSome := by
  induction same with
  | nil => rfl
  | cons alike _ ih => rw [List.map_cons, List.map_cons, ih, alike.2]

end Calculation

-- Whether a foreign source could make or unmake a complete report of an
-- object that is attributed to a source of usage.
def Logical.mixed (usage : UsageSources) (object : Logical) : Bool :=
  object.record.attempted usage &&
    (object.foreign "total_tokens" || (object.record.field "total_tokens").isNumber) &&
    (object.foreign "usage_measurement_status" ||
      (object.record.field "usage_measurement_status").names "complete") &&
    (object.foreign "total_tokens" || object.foreign "usage_measurement_status")

def Logical.own (usage : UsageSources) (object : Logical) : Bool :=
  object.record.attempted usage && !object.foreign "total_tokens" && !object.foreign "usage_measurement_status"

section Objects

variable {floats : Floats} {semantics : Semantics} {canonicalSources : List String} {usage : UsageSources}
  {fill : List String → String → Option Json → Prop} {key : List String} {object : Logical} {image : Observation}

theorem Reads.field (reads : Reads fill key object image) {name : String} (own : object.foreign name = false) :
    image.field name = object.record.field name := by
  unfold Observation.field
  rw [reads.own name own]

theorem Reads.attempted (reads : Reads fill key object image) : image.attempted usage =
    object.record.attempted usage := by
  unfold Observation.attempted
  rw [reads.recordType, reads.sourceId]

theorem Reads.complete (reads : Reads fill key object image) (attempt : object.record.recordType = "execution_attempt")
    (unmixed : object.mixed usage = false) : completeTokens usage image = completeTokens usage object.record := by
  unfold completeTokens
  rw [reads.sourceId]
  cases admits : usage.admits object.record.sourceId with
  | false => rfl
  | true =>
      have attempted : object.record.attempted usage = true := by simp [Observation.attempted, attempt, admits]
      unfold Logical.mixed at unmixed
      rw [attempted, Bool.true_and] at unmixed
      cases tokens : object.foreign "total_tokens" with
      | false =>
          rw [reads.field tokens]
          cases status : object.foreign "usage_measurement_status" with
          | false => rw [reads.field status]
          | true =>
              simp only [tokens, status, Bool.false_or, Bool.true_or, Bool.and_true] at unmixed
              simp [unmixed]
      | true =>
          cases status : object.foreign "usage_measurement_status" with
          | false =>
              simp only [tokens, status, Bool.false_or, Bool.true_or, Bool.true_and, Bool.and_true] at unmixed
              rw [reads.field status]
              simp [unmixed]
          | true => simp [tokens, status] at unmixed

theorem attempts_read {objects : List (List String × Logical)} {records : List (List String × Observation)}
    (alike : List.Forall₂ (fun left right => left.1 = right.1 ∧ Reads fill left.1 left.2 right.2) objects records)
    (unmixed : ∀ item ∈ objects, item.2.mixed usage = false) :
    List.Forall₂ (fun item image => usageKey image = usageKey item ∧
        completeTokens usage image = completeTokens usage item)
      (ofType "execution_attempt" (objects.map fun item => item.2.record))
      (ofType "execution_attempt" (records.map Prod.snd)) := by
  induction alike with
  | nil => exact .nil
  | @cons left right rest others same _ ih =>
      have later := ih fun item listed => unmixed item (List.mem_cons_of_mem _ listed)
      unfold ofType at later ⊢
      rw [List.map_cons, List.map_cons, List.filter_cons, List.filter_cons, same.2.recordType]
      split
      · rename_i attempt
        exact .cons ⟨same.2.toMatches.usage_key,
          same.2.complete (of_decide_eq_true attempt) (unmixed left List.mem_cons_self)⟩ later
      · exact later

variable {records : Dict (List String) Observation}

theorem traced_records {objects : Dict (List String) Logical}
    (alike : Dict.Alike (fun _ record object => object.record = record) records objects) :
    records.items.map Prod.snd = objects.items.map fun item => item.2.record := by
  unfold Dict.Alike at alike
  generalize records.items = items at alike
  generalize objects.items = others at alike
  induction alike with
  | nil => rfl
  | cons same _ ih => rw [List.map_cons, List.map_cons, ih, same.2]

theorem calculated_inv {observations : List Observation} {report : UsageReport floats}
    (done : calculateUsage floats usage semantics canonicalSources observations = .ok report) :
    ∃ records, settled semantics canonicalSources observations = .ok records ∧
      tokens floats usage (records.items.map Prod.snd) = .ok report.tokens ∧
      usageCoverage floats usage (records.items.map Prod.snd) = .ok report.coverage := by
  obtain ⟨listed, latest, done⟩ := (bind_ok_iff _ _ _).mp done
  obtain ⟨records, selected, latest⟩ := (bind_ok_iff _ _ _).mp latest
  cases latest
  obtain ⟨tokens, counted, done⟩ := (bind_ok_iff _ _ _).mp done
  obtain ⟨coverage, covered, done⟩ := (bind_ok_iff _ _ _).mp done
  cases done
  exact ⟨records, selected, counted, covered⟩

theorem calculated_of {observations : List Observation}
    (selected : settled semantics canonicalSources observations = .ok records)
    (sound : ∀ item ∈ ofType "execution_attempt" (records.items.map Prod.snd), Sound floats item) :
    ∃ report, calculateUsage floats usage semantics canonicalSources observations = .ok report := by
  obtain ⟨tally, counted⟩ := tally_returns usage sound (Tally.empty floats)
  have each : ∀ item ∈ ofType "execution_attempt" (records.items.map Prod.snd), ∃ covered,
      covers floats usage item = .ok covered ∧ True := by
    intro item listed
    obtain ⟨covered, done⟩ := (covers_returns usage item).mpr (sound item listed)
    exact ⟨covered, done, trivial⟩
  obtain ⟨covered, done, -⟩ := mapM_ok _ _ _ each
  have latest : latestLogicalRecords semantics canonicalSources observations = .ok (records.items.map Prod.snd) := by
    unfold latestLogicalRecords
    rw [show (sortedBy Observation.arrivalOrder observations).foldlM
      (settleRecord semantics canonicalSources) Dict.empty =
      .ok records from selected]
    rfl
  unfold calculateUsage tokens usageCoverage
  rw [latest, bind_ok]
  dsimp only
  rw [counted, bind_ok, done]
  exact ⟨_, rfl⟩

theorem calculated_sound {observations : List Observation}
    {report : UsageReport floats} (selected : settled semantics canonicalSources observations = .ok records)
    (done : calculateUsage floats usage semantics canonicalSources observations = .ok report) :
    ∀ item ∈ ofType "execution_attempt" (records.items.map Prod.snd), Sound floats item := by
  obtain ⟨others, also, counted, -⟩ := calculated_inv done
  cases selected.symm.trans also
  obtain ⟨tally, folded, -⟩ := (bind_ok_iff _ _ _).mp counted
  exact tally_sound folded

end Objects

section Qualification

variable (floats : Floats) (semantics : Semantics) (canonicalSources : List String) (usage : UsageSources)

def NeverHidden (observations : List Observation) : Prop :=
  ∃ records own, settled semantics canonicalSources observations = .ok records ∧
    settled semantics canonicalSources (ownObservations usage observations) = .ok own ∧
    ∀ key item report, own.get? key = some item → reported usage item = some report →
      ∃ record, records.get? key = some record ∧ reported usage record = some report

-- Whatever the other sources say of the usage, it hides no qualified report and
-- changes neither figure.
def QualifiedOnly (observations : List Observation) : Prop :=
  ∀ images, List.Forall₂ (Rewritten usage) observations images →
    NeverHidden semantics canonicalSources usage images ∧
      ∀ report other, calculateUsage floats usage semantics canonicalSources observations = .ok report →
        calculateUsage floats usage semantics canonicalSources images = .ok other →
        other.tokens.value = report.tokens.value ∧ other.coverage = report.coverage

-- Where the sources of usage make up a report, no other source has the last
-- word on it; where they do not, no other source could complete one.
def Unswayed (observations : List Observation) : Prop :=
  ∃ objects own, traced semantics canonicalSources usage observations = .ok objects ∧
    settled semantics canonicalSources (ownObservations usage observations) = .ok own ∧
    (∀ key item, own.get? key = some item → (reported usage item).isSome = true →
      ∃ object, objects.get? key = some object ∧ object.own usage = true) ∧
    ∀ item ∈ objects.items, item.2.mixed usage = false

def unswayed (observations : List Observation) : Bool :=
  match traced semantics canonicalSources usage observations,
    settled semantics canonicalSources (ownObservations usage observations) with
  | .ok objects, .ok own =>
      own.items.all (fun item => !(reported usage item.2).isSome ||
        (objects.get? item.1).any fun object => object.own usage) &&
      objects.items.all fun item => !item.2.mixed usage
  | _, _ => false

end Qualification

section Rewriting

variable {floats : Floats} {semantics : Semantics} {canonicalSources : List String} {usage : UsageSources}

theorem own_rewritten {observations images : List Observation}
    (rewritten : List.Forall₂ (Rewritten usage) observations images) :
    ownObservations usage images = ownObservations usage observations := by
  unfold ownObservations
  induction rewritten with
  | nil => rfl
  | @cons item image _ _ same _ ih =>
      rw [List.filter_cons, List.filter_cons, ih, same.sourceId]
      split
      · rename_i admits
        rw [same.kept admits]
      · rfl

variable {observations : List Observation}

theorem unswayed_qualified
    (unswayed : Unswayed semantics canonicalSources usage observations) :
    QualifiedOnly floats semantics canonicalSources usage observations := by
  obtain ⟨objects, own, done, also, owned, unmixed⟩ := unswayed
  intro images rewritten
  have loose : List.Forall₂ (Image canonicalSources usage fun _ _ _ => True) observations images :=
    rewritten.imp fun _ _ same => ⟨same, fun _ _ _ _ => trivial⟩
  obtain ⟨records, selected, alike⟩ := trace_images loose done
  refine ⟨⟨records, own, selected, own_rewritten rewritten ▸ also, fun key item report held reports => ?_⟩,
    fun report other calculated recalculated => ?_⟩
  · obtain ⟨object, known, ours⟩ := owned key item held (by rw [reports]; rfl)
    simp only [Logical.own, Bool.and_eq_true, Bool.not_eq_true'] at ours
    have concur := own_concur done also
    have said : ∀ {name}, object.foreign name = false → item.field name = object.record.field name := by
      intro name unsaid
      obtain ⟨same, listed, agree⟩ := concur.said key object name known unsaid
      cases held.symm.trans listed
      unfold Observation.field
      rw [agree]
    have found := alike.get key
    rw [known] at found
    cases hits : records.get? key with
    | none =>
        rw [hits] at found
        cases found
    | some record =>
        rw [hits] at found
        cases found with
        | both reads =>
            refine ⟨record, rfl, ?_⟩
            unfold reported Observation.measured at reports ⊢
            rw [said ours.1.2, said ours.2] at reports
            rw [reads.attempted, ours.1.1, reads.field ours.1.2, reads.field ours.2]
            split at reports
            · rename_i counts
              simp only [Bool.and_eq_true] at counts
              rw [if_pos (by simp [counts.1.2, counts.2])]
              exact reports
            · cases reports
  · obtain ⟨firsts, settledFirst, counted, covered⟩ := calculated_inv calculated
    obtain ⟨seconds, settledSecond, recounted, recovered⟩ := calculated_inv recalculated
    cases selected.symm.trans settledSecond
    obtain ⟨tracedObjects, doneAgain, plain⟩ := settled_traced settledFirst
    cases done.symm.trans doneAgain
    have same := attempts_read alike unmixed
    rw [← traced_records plain] at same
    obtain ⟨tally, folded, counted⟩ := (bind_ok_iff _ _ _).mp counted
    obtain ⟨retally, refolded, recounted⟩ := (bind_ok_iff _ _ _).mp recounted
    obtain ⟨cover, checked, covered⟩ := (bind_ok_iff _ _ _).mp covered
    obtain ⟨recover, rechecked, recovered⟩ := (bind_ok_iff _ _ _).mp recovered
    have known := tally_known same rfl folded refolded
    have covers : recover = cover := by rw [covered_done checked, covered_done rechecked, covered_same same]
    have lengths := same.length_eq
    constructor
    · rw [← Except.ok.inj counted, ← Except.ok.inj recounted]
      simp only [known]
    · rw [← Except.ok.inj covered, ← Except.ok.inj recovered, covers]
      simp only [← lengths, ← List.length_eq_zero_iff]

variable (value : List String → String → Json)

def rewriteUsage (canonicalSources : List String) (usage : UsageSources) (value : List String → String → Json)
    (item : Observation) : Observation :=
  if usage.admits item.sourceId then item
  else
    let key := identity canonicalSources item
    { item with
      data := (item.data.set "total_tokens" (value key "total_tokens")).set "usage_measurement_status"
        (value key "usage_measurement_status") }

theorem rewrite_image (item : Observation) : Image canonicalSources usage
    (fun key name found => found = some (value key name)) item (rewriteUsage canonicalSources usage value item) := by
  unfold rewriteUsage
  cases admits : usage.admits item.sourceId with
  | true => exact ⟨.refl usage item, fun foreign => absurd (admits.symm.trans foreign) (by decide)⟩
  | false =>
      refine ⟨⟨⟨rfl, rfl, rfl, fun name other => ?_⟩, fun own => absurd (admits.symm.trans own)
        (by decide), rfl, rfl, rfl,
        rfl⟩, fun _ name listed previous => ?_⟩
      · simp only [usageFields, List.mem_cons, List.not_mem_nil, or_false, not_or] at other
        simp only [Bool.false_eq_true, if_false, Dict.get_set, other.1, other.2]
      · simp only [usageFields, List.mem_cons, List.not_mem_nil, or_false] at listed
        rcases listed with rfl | rfl <;> simp [Dict.get_set]

variable {objects : Dict (List String) Logical}

theorem rewrite_traced
    (done : traced semantics canonicalSources usage observations = .ok objects) :
    List.Forall₂ (Rewritten usage) observations (observations.map (rewriteUsage canonicalSources usage value)) ∧
      ∃ records, settled semantics canonicalSources (observations.map (rewriteUsage canonicalSources usage value)) =
          .ok records ∧
        Dict.Alike (Reads fun key name found => found = some (value key name)) objects records := by
  have images : List.Forall₂ (Image canonicalSources usage fun key name found => found = some (value key name))
      observations (observations.map (rewriteUsage canonicalSources usage value)) := by
    rw [List.forall₂_map_right_iff, List.forall₂_same]
    exact fun item _ => rewrite_image value item
  exact ⟨images.imp fun _ _ same => same.toRewritten, trace_images images done⟩

variable {key : List String} {image : Observation} {object : Logical}

theorem Reads.word
    (reads : Reads (fun key name found => found = some (value key name)) key object image) {name : String}
    (listed : name ∈ usageFields) (foreign : object.foreign name = true) : image.field name = value key name := by
  unfold Observation.field
  rw [reads.filled name listed foreign]
  rfl

theorem hidden_own
    {own : Dict (List String) Observation} (done : traced semantics canonicalSources usage observations = .ok objects)
    (also : settled semantics canonicalSources (ownObservations usage observations) = .ok own)
    (qualified : QualifiedOnly floats semantics canonicalSources usage observations)
    {item : Observation} (held : own.get? key = some item) (reports : (reported usage item).isSome = true) :
    ∃ object, objects.get? key = some object ∧ object.own usage = true := by
  obtain ⟨rewritten, records, selected, alike⟩ := rewrite_traced (fun _ _ => Json.null) done
  obtain ⟨⟨others, again, settledOthers, settledAgain, never⟩, -⟩ := qualified _ rewritten
  rw [own_rewritten rewritten] at settledAgain
  cases selected.symm.trans settledOthers
  cases also.symm.trans settledAgain
  obtain ⟨report, reports⟩ := Option.isSome_iff_exists.mp reports
  obtain ⟨record, known, shown⟩ := never key item report held reports
  have found := alike.get key
  rw [known] at found
  cases hits : objects.get? key with
  | none =>
      rw [hits] at found
      cases found
  | some object =>
      rw [hits] at found
      cases found with
      | both reads =>
          refine ⟨object, rfl, ?_⟩
          unfold reported at shown
          split at shown
          · rename_i counts
            simp only [Bool.and_eq_true, Observation.measured, reads.attempted] at counts
            simp only [Logical.own, Bool.and_eq_true, Bool.not_eq_true', counts.1.1, true_and]
            constructor
            · by_contra foreign
              have word : record.field "total_tokens" = .null := reads.word _ (by decide) (by simpa using foreign)
              rw [word] at counts
              cases counts.1.2
            · by_contra foreign
              have word : record.field "usage_measurement_status" = .null :=
                reads.word _ (by decide) (by simpa using foreign)
              rw [word] at counts
              cases counts.2
          · cases shown

def Logical.covered (usage : UsageSources) (value : String → Json) (object : Logical) : Bool :=
  object.record.attempted usage &&
    (if object.foreign "total_tokens" then value "total_tokens" else object.record.field "total_tokens").isNumber &&
    (if object.foreign "usage_measurement_status" then value "usage_measurement_status"
      else object.record.field "usage_measurement_status").names "complete"

theorem Reads.filled_field
    (reads : Reads (fun key name found => found = some (value key name)) key object image) {name : String}
    (listed : name ∈ usageFields) :
    image.field name = if object.foreign name then value key name else object.record.field name := by
  cases foreign : object.foreign name with
  | true => exact (reads.word value listed foreign).trans (if_pos rfl).symm
  | false => exact (reads.field foreign).trans (if_neg (by decide)).symm

theorem Reads.covered
    (reads : Reads (fun key name found => found = some (value key name)) key object image)
    (attempt : object.record.recordType = "execution_attempt") :
    (completeTokens usage image).isSome = object.covered usage (value key) := by
  have attempted : object.record.attempted usage = usage.admits object.record.sourceId := by
    simp [Observation.attempted, attempt]
  unfold completeTokens Logical.covered
  rw [attempted, reads.sourceId, ← reads.filled_field value (by decide), ← reads.filled_field value (by decide)]
  split
  · rename_i counts
    exact counts.symm
  · rename_i counts
    exact (Bool.eq_false_iff.mpr counts).symm

theorem covered_count {objects : List (List String × Logical)} {records : List (List String × Observation)}
    (alike : List.Forall₂ (fun left right => left.1 = right.1 ∧
      Reads (fun key name found => found = some (value key name)) left.1 left.2 right.2) objects records) :
    ((ofType "execution_attempt" (records.map Prod.snd)).map fun item =>
    (completeTokens usage item).isSome).count true =
      objects.countP fun item => item.2.covered usage (value item.1) := by
  induction alike with
  | nil => rfl
  | @cons left right rest others same _ ih =>
      unfold ofType at ih ⊢
      rw [List.map_cons, List.filter_cons, List.countP_cons, ← ih, same.2.recordType]
      split
      · rename_i attempt
        rw [List.map_cons, List.count_cons, same.2.covered value (of_decide_eq_true attempt)]
        cases left.2.covered usage (value left.1) <;> rfl
      · rename_i other
        have uncovered : left.2.covered usage (value left.1) = false := by
          simp [Logical.covered, Observation.attempted, Bool.eq_false_iff.mpr other]
        rw [uncovered]
        rfl

theorem rewrite_sound {records images : Dict (List String) Observation}
    (plain : Dict.Alike (fun _ record object => object.record = record) records objects)
    (alike : Dict.Alike (Reads fun key name found => found = some (value key name)) objects images)
    (sound : ∀ item ∈ ofType "execution_attempt" (records.items.map Prod.snd), Sound floats item)
    (readable : ∀ key, value key "total_tokens" = .null ∨ (∃ number, value key "total_tokens" = .float number) ∧
      ∀ object, objects.get? key = some object → object.foreign "usage_measurement_status" = false →
        (object.record.field "usage_measurement_status").hashable = true)
    (hashes : ∀ key, (value key "usage_measurement_status").hashable = true) :
    ∀ item ∈ ofType "execution_attempt" (images.items.map Prod.snd), Sound floats item := by
  intro image listed
  obtain ⟨member, attempt⟩ := List.mem_filter.mp listed
  obtain ⟨⟨key, _⟩, entry, rfl⟩ := List.mem_map.mp member
  have found := alike.get key
  have also := plain.get key
  rw [(Dict.mem_items _ _ _).mp entry] at found
  revert found also
  cases known : objects.get? key with
  | none =>
      intro found
      cases found
  | some object =>
      intro found also
      cases found with
      | both reads =>
          cases held : records.get? key with
          | none =>
              rw [held] at also
              cases also
          | some record =>
              rw [held] at also
              cases also with
              | both same =>
                  subst same
                  have originally := sound object.record (List.mem_filter.mpr
                    ⟨List.mem_map.mpr ⟨_, (Dict.mem_items _ _ _).mpr held, rfl⟩, reads.recordType ▸ attempt⟩)
                  obtain ⟨number, read, hashable⟩ := originally
                  unfold Sound
                  rw [reads.filled_field value (by decide), reads.filled_field value (by decide)]
                  cases status : object.foreign "usage_measurement_status" with
                  | true =>
                      cases tokens : object.foreign "total_tokens" with
                      | true =>
                          rcases readable key with empty | ⟨⟨float, filled⟩, -⟩
                          · exact ⟨none, by rw [if_pos rfl, empty]; rfl, nofun⟩
                          · exact ⟨_, by rw [if_pos rfl, filled]; rfl, fun _ => hashes key⟩
                      | false => exact ⟨number, read, fun _ => hashes key⟩
                  | false =>
                      cases tokens : object.foreign "total_tokens" with
                      | true =>
                          rcases readable key with empty | ⟨⟨float, filled⟩, fits⟩
                          · exact ⟨none, by rw [if_pos rfl, empty]; rfl, nofun⟩
                          · exact ⟨_, by rw [if_pos rfl, filled]; rfl, fun _ => fits object known status⟩
                      | false => exact ⟨number, read, hashable⟩

theorem names_hashable {item : Json} {text : String} (named : item.names text = true) : item.hashable = true := by
  cases item with
  | str _ => rfl
  | null | bool _ | int _ | float _ | arr _ | obj _ => cases named

theorem rewrite_coverage
    {report : UsageReport floats}
    (calculated : calculateUsage floats usage semantics canonicalSources observations = .ok report)
    (done : traced semantics canonicalSources usage observations = .ok objects)
    (qualified : QualifiedOnly floats semantics canonicalSources usage observations)
    (readable : ∀ key, value key "total_tokens" = .null ∨ (∃ number, value key "total_tokens" = .float number) ∧
      ∀ object, objects.get? key = some object → object.foreign "usage_measurement_status" = false →
        (object.record.field "usage_measurement_status").hashable = true)
    (hashes : ∀ key, (value key "usage_measurement_status").hashable = true) :
    report.coverage.knownUsageAttempts = objects.items.countP fun item => item.2.covered usage (value item.1) := by
  obtain ⟨records, selected, -, -⟩ := calculated_inv calculated
  obtain ⟨others, again, plain⟩ := settled_traced selected
  cases done.symm.trans again
  obtain ⟨rewritten, images, resettled, alike⟩ := rewrite_traced value done
  obtain ⟨other, recalculated⟩ :=
    calculated_of resettled (rewrite_sound value plain alike (calculated_sound selected calculated) readable hashes)
  obtain ⟨-, figures⟩ := qualified _ rewritten
  obtain ⟨-, same⟩ := figures report other calculated recalculated
  obtain ⟨found, settledAgain, -, covered⟩ := calculated_inv recalculated
  cases resettled.symm.trans settledAgain
  obtain ⟨cover, checked, covered⟩ := (bind_ok_iff _ _ _).mp covered
  rw [← same, ← Except.ok.inj covered]
  dsimp only
  rw [covered_done checked]
  exact covered_count value alike

theorem mixed_shows {report : UsageReport floats}
    (calculated : calculateUsage floats usage semantics canonicalSources observations = .ok report)
    (done : traced semantics canonicalSources usage observations = .ok objects)
    (qualified : QualifiedOnly floats semantics canonicalSources usage observations) :
    ∀ item ∈ objects.items, item.2.mixed usage = false := by
  rintro ⟨key, object⟩ listed
  by_contra mixed
  simp only [Bool.not_eq_false, Logical.mixed, Bool.and_eq_true, Bool.or_eq_true] at mixed
  obtain ⟨⟨⟨attempted, tokens⟩, status⟩, foreign⟩ := mixed
  let nothing : List String → String → Json := fun _ _ => .null
  let complete : List String → String → Json := fun other name =>
    if other = key then (if name = "total_tokens" then .float 1 else .str "complete") else .null
  have without := rewrite_coverage nothing calculated done qualified (fun _ => .inl rfl) (fun _ => rfl)
  have with_ := rewrite_coverage complete calculated done qualified (fun other => by
      by_cases here : other = key
      · refine .inr ⟨⟨1, by simp [complete, here]⟩, fun found known unsaid => ?_⟩
        rw [here, (Dict.mem_items _ _ _).mp listed] at known
        cases known
        rcases status with said | named
        · cases unsaid.symm.trans said
        · exact names_hashable named
      · exact .inl (by simp [complete, here])) (fun other => by
      by_cases here : other = key <;> simp [complete, here, Json.hashable])
  have uncovered : object.covered usage (nothing key) = false := by
    rcases foreign with said | said
    · simp [Logical.covered, said, nothing, Json.isNumber]
    · simp [Logical.covered, said, nothing, Json.names]
  have covered : object.covered usage (complete key) = true := by
    have numbers : (if object.foreign "total_tokens" then complete key "total_tokens"
        else object.record.field "total_tokens").isNumber = true := by
      cases said : object.foreign "total_tokens" with
      | true => simp [complete, Json.isNumber]
      | false => simpa [said] using tokens
    have measures : (if object.foreign "usage_measurement_status" then complete key "usage_measurement_status"
        else object.record.field "usage_measurement_status").names "complete" = true := by
      cases said : object.foreign "usage_measurement_status" with
      | true => simp [complete, Json.names]
      | false => simpa [said] using status
    unfold Logical.covered
    rw [attempted, numbers, measures]
    rfl
  have grows : ∀ item ∈ objects.items, item.2.covered usage (nothing item.1) = true →
      item.2.covered usage (complete item.1) = true := by
    rintro ⟨other, found⟩ also was
    by_cases here : other = key
    · subst here
      cases ((Dict.mem_items _ _ _).mp listed).symm.trans ((Dict.mem_items _ _ _).mp also)
      exact covered
    · have same : complete other = nothing other := by
        funext name
        simp [complete, nothing, here]
      exact same ▸ was
  have fewer := count_grows grows listed uncovered covered
  omega

theorem usage_qualified_only {observations : List Observation} {report : UsageReport floats}
    (calculated : calculateUsage floats usage semantics canonicalSources observations = .ok report) :
    QualifiedOnly floats semantics canonicalSources usage observations ↔
      Unswayed semantics canonicalSources usage observations := by
  refine ⟨fun qualified => ?_, unswayed_qualified⟩
  obtain ⟨records, selected, -, -⟩ := calculated_inv calculated
  obtain ⟨objects, done, -⟩ := settled_traced selected
  have unchanged : List.Forall₂ (Rewritten usage) observations observations :=
    List.forall₂_same.mpr fun item _ => .refl usage item
  obtain ⟨⟨_, own, -, also, -⟩, -⟩ := qualified observations unchanged
  exact ⟨objects, own, done, also, fun key item held reports => hidden_own done also qualified held reports,
    mixed_shows calculated done qualified⟩

theorem unswayed_iff (observations : List Observation) :
    unswayed semantics canonicalSources usage observations = true ↔
      Unswayed semantics canonicalSources usage observations := by
  unfold unswayed Unswayed
  cases traced semantics canonicalSources usage observations with
  | error error => simp
  | ok objects =>
      cases settled semantics canonicalSources (ownObservations usage observations) with
      | error error => simp
      | ok own =>
          simp only [Bool.and_eq_true, List.all_eq_true, Bool.or_eq_true, Bool.not_eq_true',
            Option.any_eq_true, Except.ok.injEq, exists_and_left, exists_eq_left', Prod.forall, Dict.mem_items]
          refine and_congr_left fun _ => forall_congr' fun key => forall_congr' fun item => forall_congr' fun _ => ?_
          cases (reported usage item).isSome <;> simp

end Rewriting

def exactFloats : Floats := ⟨Rat, fun value => some value, id, List.sum, fun value => decide (value = 0)⟩

def isExactly (expected value : Rat) : Bool := decide (value = expected)

def attemptFields (more : List (String × Json)) : List (String × Json) :=
  ("canonical_identity", .obj [("namespace", .str "ci"), ("id", .str "run")]) :: more

def mirroredAttempt (tokens : Int) : Observation := { observed "first" "execution_attempt" 1
  (attemptFields [("total_tokens", .int tokens), ("usage_measurement_status", .str "complete")]) with sourceId :=
  "mirror" }

def meteredComplement : Observation := { observed "second" "execution_attempt" 2
  (attemptFields [("observation_mode", .str "complement")]) with sourceId := "meter" }

def meteredReport : Observation := { observed "second" "execution_attempt" 2
  (attemptFields [("observation_mode", .str "complement"), ("total_tokens", .int 7),
    ("usage_measurement_status", .str "complete")]) with sourceId := "meter" }

theorem metered_qualified_only :
    QualifiedOnly exactFloats (fun _ => none) ["mirror", "meter"] (some ["meter"]) [mirroredAttempt 100,
    meteredReport] := by
  obtain ⟨report, calculated, -⟩ := ok_of_check (calculateUsage exactFloats (some ["meter"]) (fun _ => none)
    ["mirror", "meter"] [mirroredAttempt 100, meteredReport]) (fun _ => true) (by decide +kernel)
  exact (usage_qualified_only calculated).mpr ((unswayed_iff _).mp (by decide +kernel))

theorem mirrored_tokens_counted :
    (∃ report, calculateUsage exactFloats (some ["meter"]) (fun _ => none) ["mirror", "meter"]
      [mirroredAttempt 100, meteredComplement] = .ok report ∧ report.tokens.value = some (100 : Rat)) ∧
    ¬ QualifiedOnly exactFloats (fun _ => none) ["mirror", "meter"] (some ["meter"])
      [mirroredAttempt 100, meteredComplement] := by
  obtain ⟨report, calculated, hundred⟩ := ok_of_check (calculateUsage exactFloats (some ["meter"]) (fun _ => none)
    ["mirror", "meter"] [mirroredAttempt 100, meteredComplement])
    (fun report => report.tokens.value.any (isExactly 100)) (by decide +kernel)
  obtain ⟨other, recalculated, double⟩ := ok_of_check (calculateUsage exactFloats (some ["meter"]) (fun _ => none)
    ["mirror", "meter"] [mirroredAttempt 200, meteredComplement])
    (fun report => report.tokens.value.any (isExactly 200)) (by decide +kernel)
  obtain ⟨first, given, exactly⟩ := (Option.any_eq_true _ _).mp hundred
  obtain ⟨second, regiven, doubly⟩ := (Option.any_eq_true _ _).mp double
  have once : first = (100 : Rat) := of_decide_eq_true exactly
  have twice : second = (200 : Rat) := of_decide_eq_true doubly
  refine ⟨⟨report, calculated, once ▸ given⟩, fun qualified => ?_⟩
  have rewritten : List.Forall₂ (Rewritten (some ["meter"])) [mirroredAttempt 100, meteredComplement]
      [mirroredAttempt 200, meteredComplement] := by
    have foreign : ¬ UsageSources.admits (some ["meter"]) "mirror" = true := by decide
    refine .cons ⟨⟨rfl, rfl, rfl, fun name other => ?_⟩, fun own => absurd own foreign, rfl, rfl, rfl, rfl⟩
      (.cons (.refl _ _) .nil)
    simp only [usageFields, List.mem_cons, List.not_mem_nil, or_false, not_or] at other
    simp [mirroredAttempt, observed, recordOf, attemptFields, Dict.get_set, other]
  obtain ⟨-, figures⟩ := qualified _ rewritten
  have same := (figures report other calculated recalculated).1
  rw [given, regiven] at same
  have equal : (200 : Rat) = 100 := twice ▸ once ▸ Option.some.inj same
  exact absurd equal (by decide)

end OrchestratorEngine.Metrics
