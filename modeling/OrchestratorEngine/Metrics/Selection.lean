import OrchestratorEngine.Metrics.Advisor

set_option autoImplicit false

namespace OrchestratorEngine.Metrics

open Foundation

theorem last_filed {α κ : Type} [DecidableEq κ] (key : α → κ) (items : List α) (wanted : κ) :
    (items.foldl (fun filed item => filed.set (key item) item) Dict.empty).get? wanted =
      (items.filter fun item => decide (key item = wanted)).getLast? := by
  induction items using List.reverseRecOn with
  | nil => rfl
  | append_singleton earlier item ih =>
      rw [List.foldl_append, List.foldl_cons, List.foldl_nil, Dict.get_set, List.filter_append,
        List.getLast?_append, ← ih]
      by_cases filed : key item = wanted
      · simp [filed]
      · simp [filed, Ne.symm filed]

theorem latest_by_source (items : List Observation) (source : String) :
    (latestBySource items).get? source = (items.filter fun item => decide (item.sourceId = source)).getLast? :=
  last_filed Observation.sourceId items source

def latestBinding (ownerSources : List String) (records : List Observation) (source : String) : Option Observation :=
  ((sortedBy Observation.applicabilityOrder records).filter fun item =>
    isPackageBinding ownerSources item && decide (item.sourceId = source)).getLast?

theorem selected_latest (ownerSources : List String) (records : List Observation) (source : String) :
    (latestBySource ((sortedBy Observation.applicabilityOrder records).filter
      (isPackageBinding ownerSources))).get? source = latestBinding ownerSources records source := by
  rw [latest_by_source, List.filter_filter]
  simp only [latestBinding, Bool.and_comm]

def latestObligation (ownerSources : List String) (records : List Observation) (obligationId source : String) :
    Option Observation :=
  ((sortedBy Observation.recordOrder records).filter fun item =>
    decide (obligationOf ownerSources item = some obligationId) && decide (item.sourceId = source)).getLast?

theorem grouped_obligation (ownerSources : List String) (items : List Observation) (obligationId source : String) :
    (((groupObligations ownerSources items).get? obligationId).getD Dict.empty).get? source =
      (items.filter fun item =>
        decide (obligationOf ownerSources item = some obligationId) && decide (item.sourceId = source)).getLast? := by
  induction items using List.reverseRecOn with
  | nil => rfl
  | append_singleton earlier item ih =>
      rw [groupObligations, List.foldl_append, List.foldl_cons, List.foldl_nil, ← groupObligations, List.filter_append,
        List.getLast?_append, ← ih]
      cases owned : obligationOf ownerSources item with
      | none => simp [owned]
      | some given =>
          by_cases same : given = obligationId
          · subst same
            by_cases sent : item.sourceId = source
            · simp [owned, sent]
            · simp [owned, sent, Ne.symm sent]
          · simp [owned, same, Ne.symm same]

inductive AttemptRank where
  | sequence (position : Int)
  | started (instant : Int)
  | effective (instant : Int)

def AttemptRank.below : AttemptRank → AttemptRank → Prop
  | sequence first, sequence second => first < second
  | started first, started second => first < second
  | effective first, effective second => first < second
  | _, _ => False

theorem AttemptRank.below_trans {first second third : AttemptRank} (lower : first.below second)
    (upper : second.below third) : first.below third := by
  cases first <;> cases second <;> cases third <;> simp only [below] at lower upper ⊢ <;> omega

theorem AttemptRank.below_irrefl (rank : AttemptRank) : ¬ rank.below rank := by
  cases rank <;> simp [below]

def attemptRank (calendar : Calendar) (item : Observation) : AttemptRank :=
  match attemptSequence item, optionalTimestamp calendar (item.field "started_at") with
  | some position, _ => .sequence position
  | none, some instant => .started instant
  | none, none => .effective item.effectiveAt.instant

def Later (calendar : Calendar) (newer older : Observation) : Prop :=
  (attemptRank calendar older).below (attemptRank calendar newer)

theorem Later.trans {calendar : Calendar} {newest newer older : Observation} (above : Later calendar newest newer)
    (below : Later calendar newer older) : Later calendar newest older :=
  AttemptRank.below_trans below above

theorem Later.irrefl (calendar : Calendar) (item : Observation) : ¬ Later calendar item item :=
  AttemptRank.below_irrefl _

theorem latest_by_none (value : Observation → Option Int) (items : List Observation)
    (unmeasured : latestBy value items = none) : ∀ item ∈ items, value item = none := by
  simp only [latestBy] at unmeasured
  split at unmeasured
  case h_1 nothing =>
    rw [List.max?_eq_none_iff, List.filterMap_eq_nil_iff] at nothing
    exact nothing
  case h_2 => split at unmeasured <;> cases unmeasured

theorem latest_by_unique (value : Observation → Option Int) (items chosen : List Observation)
    (found : latestBy value items = some (chosen, false)) :
    ∃ top last, chosen = [top] ∧ top ∈ items ∧ value top = some last ∧
      ∀ other ∈ items, other = top ∨ ∃ earlier, value other = some earlier ∧ earlier < last := by
  simp only [latestBy] at found
  split at found
  case h_1 => cases found
  case h_2 last greatest =>
    obtain ⟨-, bound⟩ := List.max?_eq_some_iff.mp greatest
    split at found
    case isTrue => cases found
    case isFalse all =>
      have measured : ∀ item ∈ items, (value item).isSome := by
        have whole := not_not.mp all
        rwa [List.length_filterMap_eq_countP, List.countP_eq_length] at whole
      obtain ⟨chosenIs, alone⟩ := Prod.mk.inj (Option.some.inj found)
      subst chosenIs
      have one := not_not.mp (of_decide_eq_false alone)
      obtain ⟨top, only⟩ := List.length_eq_one_iff.mp one
      have member : top ∈ items ∧ value top = some last := by
        have listed : top ∈ items.filter fun item => decide (value item = some last) := by
          rw [only]
          exact List.mem_singleton_self top
        simpa using List.mem_filter.mp listed
      refine ⟨top, last, only, member.1, member.2, fun other listed => ?_⟩
      obtain ⟨earlier, known⟩ := Option.isSome_iff_exists.mp (measured other listed)
      have lower := bound earlier (List.mem_filterMap.mpr ⟨other, listed, known⟩)
      by_cases equal : earlier = last
      · have kept : other ∈ items.filter fun item => decide (value item = some last) :=
          List.mem_filter.mpr ⟨listed, decide_eq_true (equal ▸ known)⟩
        rw [only] at kept
        exact .inl (List.mem_singleton.mp kept)
      · exact .inr ⟨earlier, known, lt_of_le_of_ne lower equal⟩

theorem latest_attempt_unique (calendar : Calendar) (items : List Observation) (filled : items ≠ [])
    (clear : (latestAttempt calendar items).2 = false) :
    ∃ top, (latestAttempt calendar items).1 = [top] ∧ top ∈ items ∧
      ∀ other ∈ items, other = top ∨ Later calendar top other := by
  rw [latestAttempt] at clear ⊢
  cases sequences : latestBy attemptSequence items with
  | some answer =>
      obtain ⟨chosen, doubt⟩ := answer
      rw [sequences] at clear
      cases clear
      obtain ⟨top, last, rfl, listed, position, above⟩ := latest_by_unique attemptSequence items chosen sequences
      refine ⟨top, rfl, listed, fun other member => (above other member).imp_right ?_⟩
      rintro ⟨earlier, known, lower⟩
      simpa [Later, attemptRank, known, position, AttemptRank.below] using lower
  | none =>
      have unnumbered := latest_by_none attemptSequence items sequences
      cases starts : latestBy (fun item => optionalTimestamp calendar (item.field "started_at")) items with
      | some answer =>
          obtain ⟨chosen, doubt⟩ := answer
          rw [sequences, starts] at clear
          cases clear
          obtain ⟨top, last, rfl, listed, instant, above⟩ := latest_by_unique _ items chosen starts
          refine ⟨top, rfl, listed, fun other member => (above other member).imp_right ?_⟩
          rintro ⟨earlier, known, lower⟩
          simpa [Later, attemptRank, unnumbered top listed, unnumbered other member, known, instant,
            AttemptRank.below] using lower
      | none =>
          have unstarted := latest_by_none _ items starts
          cases effects : latestBy (fun item => some item.effectiveAt.instant) items with
          | some answer =>
              obtain ⟨chosen, doubt⟩ := answer
              rw [sequences, starts, effects] at clear
              cases clear
              obtain ⟨top, last, rfl, listed, instant, above⟩ := latest_by_unique _ items chosen effects
              refine ⟨top, rfl, listed, fun other member => (above other member).imp_right ?_⟩
              rintro ⟨earlier, known, lower⟩
              have reached := Option.some.inj instant
              have before := Option.some.inj known
              simpa [Later, attemptRank, unnumbered top listed, unnumbered other member, unstarted top listed,
                unstarted other member, reached, before, AttemptRank.below] using lower
          | none =>
              obtain ⟨item, listed⟩ := List.exists_mem_of_ne_nil items filled
              cases latest_by_none _ items effects item listed

def operationOf (canonicalSources : List String) (item : Observation) : Option (List String) :=
  (operationKey canonicalSources item).map Prod.fst

theorem attempt_key_identified (canonicalSources : List String) (item : Observation) (key : List String)
    (identified : operationOf canonicalSources item = some key) : (attemptKey canonicalSources item).1 = key := by
  rw [operationOf, Option.map_eq_some_iff] at identified
  obtain ⟨named, found, rfl⟩ := identified
  simp [attemptKey, found]

theorem grouped_attempts (canonicalSources : List String) (attempts : List Observation)
    (identified : ∀ item ∈ attempts, (operationOf canonicalSources item).isSome) (key : List String) :
    (((groupAttempts canonicalSources attempts).get? key).map Prod.snd).getD [] =
        attempts.filter (fun item => decide (operationOf canonicalSources item = some key)) ∧
      ∀ group, (groupAttempts canonicalSources attempts).get? key = some group → group.2 ≠ [] := by
  induction attempts using List.reverseRecOn with
  | nil => exact ⟨rfl, nofun⟩
  | append_singleton earlier item ih =>
      obtain ⟨before, filled⟩ := ih fun other listed => identified other (List.mem_append_left _ listed)
      obtain ⟨own, named⟩ := Option.isSome_iff_exists.mp
        (identified item (List.mem_append_right _ (List.mem_singleton_self item)))
      have keyed := attempt_key_identified canonicalSources item own named
      have present : (operationKey canonicalSources item).isSome = true := by
        rw [operationOf, Option.map_eq_some_iff] at named
        obtain ⟨pair, found, -⟩ := named
        rw [found]
        rfl
      rw [groupAttempts, List.foldl_append, List.foldl_cons, List.foldl_nil, ← groupAttempts, List.filter_append]
      simp only [present, if_true, keyed, Dict.get_set]
      by_cases same : key = own
      · subst same
        simp [named, before]
      · rw [if_neg same, before]
        refine ⟨?_, filled⟩
        simp [named, Ne.symm same]

theorem advise_details (query : Query) (observations : List Observation) (guidance : Guidance) (details : Details)
    (advised : advise query observations = .ok guidance) (answered : guidance.details = some details) :
    ∃ records selected found, packageRecords query observations = .ok records ∧
      selectPackageBinding query.ownerSources records = .ok selected ∧
      inspect query records selected.toOption = .ok found ∧ details = detail query.scope selected.toOption found ∧
      ¬ (query.scope = .package ∧ (query.packageId = none ∨ query.packageId = some "")) ∧
      (query.scope = .operationOnly ∨ ∃ binding, selected = .ok binding) := by
  simp only [advise] at advised
  split at advised
  case isTrue =>
    cases advised
    cases answered
  case isFalse named =>
    simp only [bind_ok_iff] at advised
    obtain ⟨records, taken, selected, chosen, guided⟩ := advised
    have guidedBy : query.scope = .operationOnly ∨ (∃ binding, selected = .ok binding) →
        guide query records selected.toOption = .ok guidance →
        ∃ found, inspect query records selected.toOption = .ok found ∧
          details = detail query.scope selected.toOption found := by
      intro usable guided
      simp only [guide] at guided
      split at guided
      case isTrue =>
        cases guided
        cases answered
      case isFalse =>
        obtain ⟨found, inspected, answer⟩ := (bind_ok_iff _ _ _).mp guided
        cases answer
        exact ⟨found, inspected, (Option.some.inj answered).symm⟩
    cases selected with
    | ok binding =>
        have usable : query.scope = .operationOnly ∨ ∃ current,
          (Except.ok binding : Except String Binding) = .ok current :=
          .inr ⟨binding, rfl⟩
        have guided : guide query records (some binding) = .ok guidance := by
          revert guided
          cases query.scope <;> exact id
        obtain ⟨found, inspected, same⟩ := guidedBy usable guided
        exact ⟨records, .ok binding, found, taken, chosen, inspected, same, named, usable⟩
    | error reason =>
        cases scope : query.scope with
        | package =>
            rw [scope] at guided
            cases guided
            cases answered
        | operationOnly =>
            rw [scope] at guided
            obtain ⟨found, inspected, same⟩ := guidedBy (.inl scope) guided
            exact ⟨records, .error reason, found, taken, chosen, inspected, scope ▸ same, scope ▸ named, .inl rfl⟩

theorem advise_answers (query : Query) (observations records : List Observation) (selected : Except String Binding)
    (guidance : Guidance) (named : ¬ (query.scope = .package ∧ (query.packageId = none ∨ query.packageId = some "")))
    (taken : packageRecords query observations = .ok records)
    (chosen : selectPackageBinding query.ownerSources records = .ok selected)
    (usable : query.scope = .operationOnly ∨ ∃ binding, selected = .ok binding) (filled : records ≠ [])
    (advised : advise query observations = .ok guidance) :
    ∃ found, inspect query records selected.toOption = .ok found ∧
      guidance.details = some (detail query.scope selected.toOption found) := by
  have guided : guide query records selected.toOption = .ok guidance := by
    rw [advise, if_neg named, taken, bind_ok, chosen, bind_ok] at advised
    cases selected with
    | ok binding =>
        revert advised
        cases query.scope <;> exact id
    | error reason =>
        rcases usable with scope | ⟨binding, other⟩
        · rw [scope] at advised
          exact advised
        · cases other
  rw [guide, if_neg fun empty => filled empty.2] at guided
  obtain ⟨found, inspected, answer⟩ := (bind_ok_iff _ _ _).mp guided
  cases answer
  exact ⟨found, inspected, rfl⟩

end OrchestratorEngine.Metrics
