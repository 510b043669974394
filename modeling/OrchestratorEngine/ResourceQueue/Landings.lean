import OrchestratorEngine.ResourceQueue.Submission

set_option autoImplicit false

namespace OrchestratorEngine.ResourceQueue

open Foundation

theorem granted_by_snoc (placements : List Placement) (stage : Stage) (verdict : Verdict) :
    grantedBy (placements ++ [(stage, verdict)]) = grantedBy placements ++ verdict.allocation?.toList := by
  rw [grantedBy, grantedBy, List.filterMap_append]
  cases verdict <;> rfl

theorem held_by_snoc (placements : List Placement) (stage : Stage) (verdict : Verdict) :
    heldBy (placements ++ [(stage, verdict)]) = heldBy placements ++ verdict.protection?.toList := by
  rw [heldBy, heldBy, List.filterMap_append]
  cases verdict with
  | granted allocation token => rfl
  | held candidate => cases candidate <;> rfl

theorem fits_snoc (capacity : Name → Nat) (others : List Allocation) (allocation : Allocation)
    (accepts : Accepts capacity allocation others) (fits : Fits capacity others) :
    Fits capacity (others ++ [allocation]) :=
  fits_perm capacity _ _ (List.perm_append_singleton allocation others).symm
    ((fits_cons capacity allocation others).mpr ⟨accepts, fits⟩)

variable (setting : Setting)

theorem placed_owned_fit (owned : List Allocation) (placements : List Placement)
    (placed : Placed setting owned placements) (fits : Fits (leafCapacity setting.registry) owned) :
    Fits (leafCapacity setting.registry) (owned ++ grantedBy placements) := by
  induction placed with
  | start => simpa [grantedBy] using fits
  | visit earlier stage verdict _ sound ih =>
      rw [granted_by_snoc, ← List.append_assoc]
      cases sound with
      | granted allocation token suits =>
          exact fits_snoc _ _ allocation
            (accepts_subperm _ allocation _ _ (List.sublist_append_left _ _).subperm suits.accepts) ih
      | held candidate _ _ _ _ => simpa [Verdict.allocation?] using ih

theorem placed_held_fit (owned : List Allocation) (placements : List Placement)
    (placed : Placed setting owned placements) : Fits (leafCapacity setting.registry) (heldBy placements) := by
  induction placed with
  | start => exact fits_nil _
  | visit earlier stage verdict _ sound ih =>
      rw [held_by_snoc]
      cases sound with
      | granted allocation token _ => simpa [Verdict.protection?] using ih
      | held candidate _ suits _ _ =>
          cases candidate with
          | none => simpa [Verdict.protection?] using ih
          | some allocation => exact fits_snoc _ _ allocation (suits allocation rfl).accepts ih

theorem placed_sound (owned : List Allocation) (placements : List Placement)
    (placed : Placed setting owned placements) (stage : Stage) (verdict : Verdict)
    (listed : (stage, verdict) ∈ placements) :
    ∃ earlier later, placements = earlier ++ (stage, verdict) :: later ∧
      Sound setting (owned ++ grantedBy earlier) (heldBy earlier) stage verdict := by
  induction placed with
  | start => simp at listed
  | visit earlier last decision _ sound ih =>
      rcases List.mem_append.mp listed with before | here
      · obtain ⟨front, back, same, found⟩ := ih before
        exact ⟨front, back ++ [(last, decision)], by simp [same], found⟩
      · cases List.mem_singleton.mp here
        exact ⟨earlier, [], rfl, sound⟩

inductive Landed (unavailable : List Name) (placements : List Placement) (after : Ledger) (old row : Stage) : Prop where
  | idle (state : old.state ≠ .waiting) (core : row.core = old.core)
  | skipped (state : old.state = .waiting) (doomed : Doomed after old)
      (core : row.core = { old.core with state := .skipped, readySeq := none, protection := none })
  | closed (state : old.state = .waiting) (shut : ¬ Open unavailable after old)
      (core : row.core = { old.core with readySeq := none, protection := none })
  | placed (state : old.state = .waiting) (gate : Open unavailable after old) (stage : Stage) (verdict : Verdict)
      (listed : (stage, verdict) ∈ placements) (fixed : stage.fixed = old.fixed) (number : Nat)
      (known : ∀ earlier, old.readySeq = some earlier → number = earlier)
      (opened : stage.core = { old.core with readySeq := some number }) (core : row.core = verdict.apply stage.core)

variable {placements : List Placement} {unavailable : List Name} {before after : Ledger} {granted : List Stage}
  {opened : List Stage}

theorem opened_ids
   
    (scheduled : Scheduled unavailable before opened placements after granted) :
    opened.map Stage.id = before.activeStages.map Stage.id :=
  forall₂_keys Stage.id _ _ _ (fun _ _ gate => fixed_id _ _ gate.fixed) scheduled.gates

theorem opened_distinct
    (unique : (stageIds before).Nodup)
    (scheduled : Scheduled unavailable before opened placements after granted) : (opened.map Stage.id).Nodup := by
  rw [opened_ids scheduled]
  exact active_distinct before unique

theorem placement_opened
   
    (scheduled : Scheduled unavailable before opened placements after granted) (stage : Stage) (verdict : Verdict)
    (listed : (stage, verdict) ∈ placements) : stage ∈ opened ∧ stage.ready = true := by
  have sorted : stage ∈ placements.map Prod.fst := List.mem_map.mpr ⟨(stage, verdict), listed, rfl⟩
  rw [scheduled.order, (List.perm_insertionSort readyOrder _).mem_iff] at sorted
  exact List.mem_filter.mp sorted

theorem opened_placed
   
    (scheduled : Scheduled unavailable before opened placements after granted) (stage : Stage)
    (listed : stage ∈ opened) (ready : stage.ready = true) : ∃ verdict, (stage, verdict) ∈ placements := by
  have sorted : stage ∈ placements.map Prod.fst := by
    rw [scheduled.order, (List.perm_insertionSort readyOrder _).mem_iff]
    exact List.mem_filter.mpr ⟨listed, ready⟩
  obtain ⟨⟨first, verdict⟩, found, same⟩ := List.mem_map.mp sorted
  cases same
  exact ⟨verdict, found⟩

theorem placement_lands
    (unique : (stageIds before).Nodup)
    (scheduled : Scheduled unavailable before opened placements after granted) (stage : Stage) (verdict : Verdict)
    (listed : (stage, verdict) ∈ placements) :
    ∃ row ∈ after.stages, row.fixed = stage.fixed ∧ row.core = verdict.apply stage.core := by
  obtain ⟨member, _⟩ := placement_opened scheduled stage verdict listed
  obtain ⟨row, kept, fixed, core⟩ := scheduled.rows stage member
  refine ⟨row, kept, fixed, core.trans ?_⟩
  exact target_placed placements
    (placements_distinct opened placements scheduled.order (opened_distinct unique scheduled)) stage verdict listed

theorem scheduled_ids
    (unique : (stageIds before).Nodup)
    (scheduled : Scheduled unavailable before opened placements after granted) : (after.stages.map Stage.id).Nodup := by
  change (stageIds after).Nodup
  rw [scheduled.advances.ids]
  exact unique

theorem opened_unready (unavailable : List Name) (ledger : Ledger) (source stage : Stage)
    (gate : Gate unavailable ledger source stage) (waiting : source.state = .waiting)
    (idle : ¬ stage.ready = true) : Doomed ledger source ∧
        stage.core = { source.core with state := .skipped, readySeq := none, protection := none } ∨
      ¬ Open unavailable ledger source ∧ stage.core = { source.core with readySeq := none, protection := none } := by
  cases gate with
  | idle state _ => exact absurd waiting state
  | skipped _ doomed _ core => exact .inl ⟨doomed, core⟩
  | closed _ shut _ core => exact .inr ⟨shut, core⟩
  | opened _ _ _ number _ core =>
      have state : stage.state = source.state := congrArg Core.state core
      have seq : stage.readySeq = some number := congrArg Core.readySeq core
      exact absurd (by simp [Stage.ready, state, seq, waiting]) idle

theorem scheduled_rows
    (unique : (stageIds before).Nodup)
    (scheduled : Scheduled unavailable before opened placements after granted) :
    List.Forall₂ (fun old row => row.fixed = old.fixed ∧ Landed unavailable placements after old row)
      before.stages after.stages := by
  have afterUnique := scheduled_ids unique scheduled
  have openedUnique := opened_distinct unique scheduled
  refine forall₂_of_forall₂_mem (forall₂_and_right_mem scheduled.advances) ?_
  rintro old row stored ⟨advance, present⟩
  refine ⟨advance.fixed, ?_⟩
  by_cases waiting : old.state = .waiting
  · have active : old ∈ before.activeStages := List.mem_filter.mpr
      ⟨stored, by simp [Stage.terminal, waiting, terminalStates]⟩
    obtain ⟨stage, member, gate⟩ := forall₂_mem_left _ _ _ scheduled.gates old active
    obtain ⟨other, kept, fixed, core⟩ := scheduled.rows stage member
    have here : other = row := row_unique Stage.id after.stages afterUnique other row kept present
      ((fixed_id _ _ fixed).trans ((fixed_id _ _ gate.fixed).trans (fixed_id _ _ advance.fixed).symm))
    subst here
    by_cases ready : stage.ready = true
    · obtain ⟨verdict, listed⟩ := opened_placed scheduled stage member ready
      have placedCore := core.trans (target_placed placements
        (placements_distinct opened placements scheduled.order openedUnique) stage verdict listed)
      have numbered : stage.state = .waiting ∧ stage.readySeq.isSome = true := by
        simpa [Stage.ready] using ready
      cases gate with
      | idle state _ => exact absurd waiting state
      | skipped _ _ _ core' =>
          have none : stage.readySeq = none := congrArg Core.readySeq core'
          simp [none] at numbered
      | closed _ _ _ core' =>
          have none : stage.readySeq = none := congrArg Core.readySeq core'
          simp [none] at numbered
      | opened _ gate fixed' number known core' =>
          exact .placed waiting gate stage verdict listed fixed' number known core' placedCore
    · have absent := mt (visited_iff opened placements scheduled.order openedUnique stage member).mp ready
      rw [target_unplaced placements stage absent] at core
      rcases opened_unready unavailable after old stage gate waiting ready with ⟨doomed, same⟩ | ⟨shut, same⟩
      · exact .skipped waiting doomed (core.trans same)
      · exact .closed waiting shut (core.trans same)
  · exact .idle waiting (advance.idle waiting)

theorem placement_source
   
    (scheduled : Scheduled unavailable before opened placements after granted) (stage : Stage) (verdict : Verdict)
    (listed : (stage, verdict) ∈ placements) :
    ∃ old ∈ before.stages, old.state = .waiting ∧ Open unavailable after old ∧ stage.fixed = old.fixed ∧
      ∃ number, (∀ earlier, old.readySeq = some earlier → number = earlier) ∧
        stage.core = { old.core with readySeq := some number } := by
  obtain ⟨member, ready⟩ := placement_opened scheduled stage verdict listed
  obtain ⟨old, active, gate⟩ := forall₂_mem_right _ _ _ scheduled.gates stage member
  have numbered : stage.state = .waiting ∧ stage.readySeq.isSome = true := by
    simpa [Stage.ready] using ready
  refine ⟨old, (List.mem_filter.mp active).1, ?_⟩
  cases gate with
  | idle state same => exact absurd (same ▸ numbered.1) state
  | skipped _ _ _ core =>
      have none : stage.readySeq = none := congrArg Core.readySeq core
      simp [none] at numbered
  | closed _ _ _ core =>
      have none : stage.readySeq = none := congrArg Core.readySeq core
      simp [none] at numbered
  | opened state gate fixed number known core => exact ⟨state, gate, fixed, number, known, core⟩

theorem scheduled_moves
    (unique : (stageIds before).Nodup)
    (scheduled : Scheduled unavailable before opened placements after granted) :
    List.Forall₂ (Moves (.schedule unavailable)) before.stages after.stages := by
  refine (scheduled_rows unique scheduled).imp fun old row both => ⟨both.1, ?_⟩
  cases both.2 with
  | idle _ core =>
      rw [core]
      exact .stay _
  | skipped state _ core =>
      rw [core]
      exact .skip unavailable state
  | closed state _ core =>
      rw [core]
      exact .wait unavailable none none state
  | placed state _ stage verdict _ _ number _ opened core =>
      rw [core, opened]
      cases verdict with
      | granted allocation token => exact .grant unavailable (some number) allocation token state
      | held candidate => exact .wait unavailable (some number) candidate state

-- Families of allocations are compared through the ids of their stages, which
-- are distinct even where allocations are not.
def tagged {ρ : Type} (key : ρ → Id) (value : ρ → Option Allocation) (rows : List ρ) : List (Id × Allocation) :=
  rows.filterMap (fun row => (value row).map (Prod.mk (key row)))

variable {ρ : Type}

variable (key : ρ → Id)

variable (value : ρ → Option Allocation)

theorem tagged_values (rows : List ρ) :
    (tagged key value rows).map Prod.snd = rows.filterMap value := by
  induction rows with
  | nil => rfl
  | cons row rest ih => cases found : value row <;> simp_all [tagged]

theorem tagged_keys (rows : List ρ) :
    ((tagged key value rows).map Prod.fst).Sublist (rows.map key) := by
  induction rows with
  | nil => exact List.Sublist.slnil
  | cons row rest ih =>
      cases found : value row with
      | none => simpa [tagged, found] using List.Sublist.cons (key row) ih
      | some allocation => simpa [tagged, found] using List.Sublist.cons_cons (key row) ih

theorem tagged_nodup (rows : List ρ)
    (distinct : (rows.map key).Nodup) : (tagged key value rows).Nodup :=
  ((tagged_keys key value rows).nodup distinct).of_map

theorem mem_tagged (rows : List ρ) (id : Id)
    (allocation : Allocation) :
    (id, allocation) ∈ tagged key value rows ↔ ∃ row ∈ rows, value row = some allocation ∧ key row = id := by
  simp [tagged, List.mem_filterMap, Option.map_eq_some_iff]

def Stage.owned (stage : Stage) : Option Allocation := if stage.owning then some stage.allocation else none

theorem owned_some (stage : Stage) (allocation : Allocation) :
    stage.owned = some allocation ↔ stage.owning = true ∧ stage.allocation = allocation := by
  unfold Stage.owned
  by_cases owner : stage.owning = true <;> simp [owner]

theorem owners_owned (ledger : Ledger) :
    ledger.owners.map (fun owner => owner.allocation) = ledger.stages.filterMap Stage.owned := by
  unfold Ledger.owners
  induction ledger.stages with
  | nil => rfl
  | cons stage rest ih => by_cases owner : stage.owning = true <;> simp [owner, Stage.owned, ih]

theorem waiting_not_owning (stage : Stage) (waiting : stage.state = .waiting) : stage.owning = false := by
  simp [Stage.owning, waiting, owningStates]

theorem core_owning (first second : Stage) (same : first.core = second.core) : first.owning = second.owning := by
  rw [Stage.owning, Stage.owning, core_state first second same]

theorem applied_owning (stage row : Stage) (verdict : Verdict) (waiting : stage.state = .waiting)
    (core : row.core = verdict.apply stage.core) :
    row.owned = verdict.allocation? := by
  cases verdict with
  | granted allocation token =>
      have state : row.state = .granted := congrArg Core.state core
      have same : row.allocation = allocation := congrArg Core.allocation core
      exact (owned_some row allocation).mpr ⟨by simp [Stage.owning, state, owningStates], same⟩
  | held candidate =>
      have state : row.state = stage.state := congrArg Core.state core
      simp [Stage.owned, waiting_not_owning row (state.trans waiting), Verdict.allocation?]

theorem landed_owned {after : Ledger} {old row : Stage}
    (fixed : row.fixed = old.fixed) (landed : Landed unavailable placements after old row) :
    (row.owned = old.owned ∧ old.state ≠ .waiting) ∨ (old.owned = none ∧ row.owned = none) ∨
      old.owned = none ∧ ∃ place ∈ placements, placeId place = row.id ∧ row.owned = place.2.allocation? := by
  have fresh : ∀ waiting : old.state = .waiting, old.owned = none := fun waiting => by
    simp [Stage.owned, waiting_not_owning old waiting]
  cases landed with
  | idle state core =>
      have same : row.allocation = old.allocation := congrArg Core.allocation core
      exact .inl ⟨by rw [Stage.owned, Stage.owned, core_owning row old core, same], state⟩
  | skipped state _ core =>
      have now : row.state = .skipped := congrArg Core.state core
      exact .inr (.inl ⟨fresh state, by simp [Stage.owned, Stage.owning, now, owningStates]⟩)
  | closed state _ core =>
      have now : row.state = old.state := congrArg Core.state core
      exact .inr (.inl ⟨fresh state, by simp [Stage.owned, waiting_not_owning row (now.trans state)]⟩)
  | placed state _ stage verdict listed same number _ opened core =>
      have waiting : stage.state = .waiting := (congrArg Core.state opened).trans state
      exact .inr (.inr ⟨fresh state, (stage, verdict), listed, fixed_id _ _ (same.trans fixed.symm),
        applied_owning stage row verdict waiting core⟩)

theorem scheduled_tags
    (unique : (stageIds before).Nodup)
    (scheduled : Scheduled unavailable before opened placements after granted) :
    (tagged Stage.id Stage.owned after.stages).Perm
      (tagged Stage.id Stage.owned before.stages ++ tagged placeId (fun place => place.2.allocation?) placements) := by
  have afterUnique := scheduled_ids unique scheduled
  have rows := scheduled_rows unique scheduled
  have placementsUnique := placements_distinct opened placements scheduled.order (opened_distinct unique scheduled)
  refine (List.perm_ext_iff_of_nodup (tagged_nodup _ _ _ afterUnique) ?_).mpr ?_
  · refine List.nodup_append.mpr ⟨tagged_nodup _ _ _ unique, tagged_nodup _ _ _ placementsUnique, ?_⟩
    rintro ⟨id, allocation⟩ owner _ grant rfl
    obtain ⟨old, stored, owned, same⟩ := (mem_tagged _ _ _ _ _).mp owner
    obtain ⟨⟨stage, verdict⟩, listed, _, key⟩ := (mem_tagged _ _ _ _ _).mp grant
    obtain ⟨source, origin, waiting, _, fixed, _⟩ := placement_source scheduled stage verdict listed
    have here : old = source := row_unique Stage.id before.stages unique old source stored origin
      (same.trans (key.symm.trans (fixed_id _ _ fixed)))
    subst here
    simp [Stage.owned, waiting_not_owning old waiting] at owned
  · rintro ⟨id, allocation⟩
    rw [List.mem_append, mem_tagged, mem_tagged, mem_tagged]
    constructor
    · rintro ⟨row, present, owned, key⟩
      obtain ⟨old, stored, fixed, landed⟩ := forall₂_mem_right _ _ _ rows row present
      rcases landed_owned fixed landed with ⟨same, _⟩ | ⟨_, none⟩ | ⟨_, place, listed, match_, same⟩
      · exact .inl ⟨old, stored, same ▸ owned, (fixed_id _ _ fixed).symm.trans key⟩
      · rw [none] at owned
        cases owned
      · exact .inr ⟨place, listed, same ▸ owned, match_.trans key⟩
    · rintro (⟨old, stored, owned, key⟩ | ⟨⟨stage, verdict⟩, listed, granted, key⟩)
      · obtain ⟨row, present, fixed, landed⟩ := forall₂_mem_left _ _ _ rows old stored
        rcases landed_owned fixed landed with ⟨same, _⟩ | ⟨none, _⟩ | ⟨none, _⟩
        · exact ⟨row, present, same.trans owned, (fixed_id _ _ fixed).trans key⟩
        · rw [none] at owned
          cases owned
        · rw [none] at owned
          cases owned
      · obtain ⟨row, present, fixed, core⟩ := placement_lands unique scheduled stage verdict listed
        obtain ⟨_, ready⟩ := placement_opened scheduled stage verdict listed
        exact ⟨row, present, (applied_owning stage row verdict (ready_waiting stage ready) core).trans granted,
          (fixed_id _ _ fixed).trans key⟩

theorem scheduled_owners
    (unique : (stageIds before).Nodup)
    (scheduled : Scheduled unavailable before opened placements after granted) :
    (after.owners.map (fun owner => owner.allocation)).Perm
      (before.owners.map (fun owner => owner.allocation) ++ grantedBy placements) := by
  have values := (scheduled_tags unique scheduled).map Prod.snd
  rwa [List.map_append, tagged_values, tagged_values, tagged_values, ← owners_owned, ← owners_owned] at values

theorem applied_protection (stage row : Stage) (verdict : Verdict) (core : row.core = verdict.apply stage.core) :
    row.protection = verdict.protection? := by
  cases verdict with
  | granted allocation token => exact congrArg Core.protection core
  | held candidate => exact congrArg Core.protection core

theorem scheduled_protected
    (unique : (stageIds before).Nodup)
    (guarded : ∀ stage ∈ before.stages, ∀ allocation, stage.protection = some allocation → stage.state = .waiting)
    (scheduled : Scheduled unavailable before opened placements after granted) (row : Stage)
    (present : row ∈ after.stages) (allocation : Allocation) (shield : row.protection = some allocation) :
    ∃ stage, (stage, Verdict.held (some allocation)) ∈ placements ∧ stage.fixed = row.fixed ∧
      row.core = (Verdict.held (some allocation)).apply stage.core := by
  obtain ⟨old, stored, fixed, landed⟩ := forall₂_mem_right _ _ _ (scheduled_rows unique scheduled) row present
  cases landed with
  | idle state core =>
      have same : row.protection = old.protection := congrArg Core.protection core
      exact absurd (guarded old stored allocation (same.symm.trans shield)) state
  | skipped _ _ core =>
      have none : row.protection = none := congrArg Core.protection core
      cases none.symm.trans shield
  | closed _ _ core =>
      have none : row.protection = none := congrArg Core.protection core
      cases none.symm.trans shield
  | placed _ _ stage verdict listed same _ _ _ core =>
      have found := (applied_protection stage row verdict core).symm.trans shield
      cases verdict with
      | granted _ _ => cases found
      | held candidate =>
          cases found
          exact ⟨stage, listed, same.trans fixed.symm, core⟩

theorem scheduled_held
    (unique : (stageIds before).Nodup)
    (guarded : ∀ stage ∈ before.stages, ∀ allocation, stage.protection = some allocation → stage.state = .waiting)
    (scheduled : Scheduled unavailable before opened placements after granted) :
    (after.stages.filterMap (fun stage => stage.protection)).Perm (heldBy placements) := by
  have placementsUnique := placements_distinct opened placements scheduled.order (opened_distinct unique scheduled)
  have perm : (tagged Stage.id (fun stage => stage.protection) after.stages).Perm
      (tagged placeId (fun place => place.2.protection?) placements) := by
    refine (List.perm_ext_iff_of_nodup (tagged_nodup _ _ _ (scheduled_ids unique scheduled))
      (tagged_nodup _ _ _ placementsUnique)).mpr ?_
    rintro ⟨id, allocation⟩
    rw [mem_tagged, mem_tagged]
    constructor
    · rintro ⟨row, present, shield, key⟩
      obtain ⟨stage, listed, fixed, _⟩ := scheduled_protected unique guarded scheduled row present allocation shield
      exact ⟨(stage, .held (some allocation)), listed, rfl, (fixed_id _ _ fixed).trans key⟩
    · rintro ⟨⟨stage, verdict⟩, listed, shield, key⟩
      obtain ⟨row, present, fixed, core⟩ := placement_lands unique scheduled stage verdict listed
      exact ⟨row, present, (applied_protection stage row verdict core).trans shield, (fixed_id _ _ fixed).trans key⟩
  have values := perm.map Prod.snd
  rwa [tagged_values, tagged_values] at values

end OrchestratorEngine.ResourceQueue
