import OrchestratorEngine.ResourceQueue.Outcomes
import OrchestratorEngine.ResourceQueue.Visits

set_option autoImplicit false

namespace OrchestratorEngine.ResourceQueue

open Foundation

abbrev Placement := Stage × Verdict

def grantedBy (placements : List Placement) : List Allocation := placements.filterMap (fun place => place.2.allocation?)

def heldBy (placements : List Placement) : List Allocation := placements.filterMap (fun place => place.2.protection?)

inductive Placed (setting : Setting) (owned : List Allocation) : List Placement → Prop where
  | start : Placed setting owned []
  | visit (earlier : List Placement) (stage : Stage) (verdict : Verdict) (placed : Placed setting owned earlier)
      (sound : Sound setting (owned ++ grantedBy earlier) (heldBy earlier) stage verdict) :
      Placed setting owned (earlier ++ [(stage, verdict)])

def placeId (place : Placement) : Id := place.1.id

def target (placements : List Placement) (stage : Stage) : Core :=
  match row? placeId stage.id placements with
  | none => stage.core
  | some place => place.2.apply stage.core

variable (placements : List Placement)

variable (stage : Stage)

theorem target_unplaced (absent : stage.id ∉ placements.map placeId) :
    target placements stage = stage.core := by
  unfold target
  cases found : row? placeId stage.id placements with
  | none => rfl
  | some place =>
      obtain ⟨listed, same⟩ := row_mem placeId stage.id placements place found
      exact absurd (List.mem_map.mpr ⟨place, listed, same⟩) absent

theorem target_placed (distinct : (placements.map placeId).Nodup) (stage : Stage)
    (verdict : Verdict) (listed : (stage, verdict) ∈ placements) :
    target placements stage = verdict.apply stage.core := by
  have found := row_of_mem placeId placements distinct (stage, verdict) listed
  simp only [placeId] at found
  unfold target
  simp only [found]

theorem target_snoc (verdict : Verdict) (other : Stage) :
    target (placements ++ [(stage, verdict)]) other =
      if other.id ∈ placements.map placeId then target placements other
      else if other.id = stage.id then verdict.apply other.core else other.core := by
  unfold target row?
  rw [List.find?_append]
  by_cases before : other.id ∈ placements.map placeId
  · obtain ⟨place, listed, same⟩ := List.mem_map.mp before
    have some_ : (placements.find? (fun row => decide (placeId row = other.id))).isSome :=
      List.find?_isSome.mpr ⟨place, listed, decide_eq_true same⟩
    obtain ⟨found, eq⟩ := Option.isSome_iff_exists.mp some_
    simp only [before, if_true, eq, Option.some_or]
  · have none_ : placements.find? (fun row => decide (placeId row = other.id)) = none :=
      List.find?_eq_none.mpr fun place listed same =>
        before (List.mem_map.mpr ⟨place, listed, of_decide_eq_true same⟩)
    simp only [before, if_false, none_, Option.none_or]
    by_cases same : other.id = stage.id
    · simp [placeId, same]
    · simp [placeId, same, Ne.symm same]

-- How far a pass has come: the rows in memory are the opened ones under the
-- verdicts so far, and every visited or closed one stands in the ledger.
structure Progress (setting : Setting) (owners : List Stage) (base : Ledger) (opened : List Stage)
    (placements : List Placement) (pass : Pass) : Prop where
  placed : Placed setting (owners.map (fun owner => owner.allocation)) placements
  frame : Frame base pass.ledger
  released : pass.ledger.released = base.released
  ids : stageIds pass.ledger = stageIds base
  memory : List.Forall₂ (fun stage copy => copy.fixed = stage.fixed ∧ copy.core = target placements stage)
    opened pass.stages
  rows : ∀ stage ∈ opened, (stage.ready = true → stage.id ∈ placements.map placeId) →
    ∃ row ∈ pass.ledger.stages, row.fixed = stage.fixed ∧ row.core = target placements stage
  outside : ∀ row ∈ base.stages, row.id ∉ opened.map Stage.id → row ∈ pass.ledger.stages
  active : pass.active = owners ++ pass.granted
  granted : List.Forall₂ (fun place row => row.fixed = place.1.fixed ∧ row.core = place.2.apply place.1.core)
    (placements.filter (fun place => place.2.allocation?.isSome)) pass.granted
  protection : pass.protection = heldBy placements

theorem granted_allocations (rows : List Stage)
    (granted : List.Forall₂ (fun place row => row.fixed = place.1.fixed ∧ row.core = place.2.apply place.1.core)
      (placements.filter (fun place => place.2.allocation?.isSome)) rows) :
    rows.map (fun row => row.allocation) = grantedBy placements := by
  induction placements generalizing rows with
  | nil =>
      cases granted
      rfl
  | cons place rest ih =>
      obtain ⟨stage, verdict⟩ := place
      cases verdict with
      | held candidate => exact ih rows granted
      | granted allocation token =>
          cases granted with
          | cons head tail =>
              have same : _ = allocation := congrArg Core.allocation head.2
              rw [List.map_cons, ih _ tail]
              exact congrArg (fun first => first :: grantedBy rest) same

theorem memory_ids (opened copies : List Stage) (placements : List Placement)
    (memory : List.Forall₂ (fun stage copy => copy.fixed = stage.fixed ∧ copy.core = target placements stage)
      opened copies) : copies.map Stage.id = opened.map Stage.id :=
  forall₂_keys Stage.id _ opened copies (fun _ _ same => fixed_id _ _ same.1) memory

variable (host : Host)

theorem progress_visit (setting : Setting) (normalized : Normalized setting.registry)
    (owners : List Stage) (base : Ledger) (opened : List Stage) (placements : List Placement) (before after : Pass)
    (stage : Stage) (progress : Progress setting owners base opened placements before)
    (distinct : (opened.map Stage.id).Nodup) (known : ∀ id ∈ opened.map Stage.id, id ∈ stageIds base)
    (listed : stage ∈ opened) (fresh : stage.id ∉ placements.map placeId)
    (demandable : Demandable setting.registry stage.needs)
    (complete : ∀ allocation, stage.protection = some allocation →
      CompleteAssignment setting.registry stage.needs allocation)
    (done : visit host setting before stage = .ok after) :
    ∃ verdict row, Visit setting before stage verdict row after ∧
      Progress setting owners base opened (placements ++ [(stage, verdict)]) after := by
  have copies := memory_ids opened before.stages placements progress.memory
  have indexed : Indexed before :=
    ⟨copies ▸ distinct, fun id member => progress.ids ▸ known id (copies ▸ member)⟩
  have present : stage.id ∈ before.stages.map Stage.id := copies ▸ List.mem_map_of_mem listed
  obtain ⟨verdict, row, visit⟩ :=
    visit_ok host setting normalized before after stage indexed present demandable complete done
  have key : row.id = stage.id := fixed_id _ _ visit.fixed
  have ids : after.stages.map Stage.id = opened.map Stage.id := by
    rw [← copies, ← put_indexed before.stages row (key ▸ present)]
    exact alike_ids _ _ visit.memory
  -- the copy of an opened stage after the visit
  have copyCore : ∀ first ∈ opened, ∀ copy ∈ after.stages, copy.id = first.id →
      copy.fixed = first.fixed ∧ copy.core = target (placements ++ [(stage, verdict)]) first := by
    intro first opens copy stored same
    obtain ⟨earlier, held, alike⟩ := forall₂_mem_right _ _ _ visit.memory copy stored
    have earlierId : earlier.id = first.id := (fixed_id _ _ alike.1).trans same
    rcases (mem_put Stage.id row before.stages earlier).mp held with rfl | ⟨kept, different⟩
    · have here : first = stage := row_unique Stage.id opened distinct first stage opens listed
        (earlierId.symm.trans key)
      subst here
      rw [target_snoc, if_neg fresh, if_pos rfl]
      exact ⟨alike.1.symm.trans visit.fixed, alike.2.symm.trans visit.core⟩
    · obtain ⟨source, origin, fixed, core⟩ := forall₂_mem_right _ _ _ progress.memory earlier kept
      have here : source = first :=
        row_unique Stage.id opened distinct source first origin opens ((fixed_id _ _ fixed).symm.trans earlierId)
      subst here
      refine ⟨alike.1.symm.trans fixed, (alike.2.symm.trans core).trans ?_⟩
      have apart : source.id ≠ stage.id := fun clash => different ((earlierId.trans clash).trans key.symm)
      rw [target_snoc, if_neg apart]
      by_cases visited : source.id ∈ placements.map placeId
      · rw [if_pos visited]
      · rw [if_neg visited, target_unplaced placements source visited]
  have activeNow : before.active.map (fun owner => owner.allocation) =
      owners.map (fun owner => owner.allocation) ++ grantedBy placements := by
    rw [progress.active, List.map_append, granted_allocations placements before.granted progress.granted]
  refine ⟨verdict, row, visit, .visit placements stage verdict progress.placed ?_,
    progress.frame.trans visit.written.frame, visit.written.released.trans progress.released,
    visit.written.ids.trans progress.ids, ?_, ?_, ?_, ?_, ?_, ?_⟩
  · rw [← activeNow, ← progress.protection]
    exact visit.sound
  · exact forall₂_of_keys Stage.id _ opened after.stages ids distinct copyCore
  · intro first opens visited
    by_cases here : first.id = stage.id
    · have same : first = stage := row_unique Stage.id opened distinct first stage opens listed here
      subst same
      obtain ⟨later, stored, alike⟩ := visit.stored
      refine ⟨later, stored, alike.1.trans visit.fixed, ?_⟩
      rw [target_snoc, if_neg fresh, if_pos rfl]
      exact alike.2.trans visit.core
    · have earlier : first.ready = true → first.id ∈ placements.map placeId := fun ready => by
        have either := visited ready
        rw [List.map_append, List.mem_append] at either
        exact either.resolve_right fun last => here (by simpa [placeId] using last)
      obtain ⟨old, stored, fixed, core⟩ := progress.rows first opens earlier
      obtain ⟨later, kept, same, either⟩ := visit.written.rows old stored
      have keep : target placements first = target (placements ++ [(stage, verdict)]) first := by
        rw [target_snoc, if_neg here]
        by_cases visited : first.id ∈ placements.map placeId
        · rw [if_pos visited]
        · rw [if_neg visited, target_unplaced placements first visited]
      refine ⟨later, kept, ?_⟩
      rcases either with alike | ⟨copy, held, match_, alike⟩
      · exact ⟨alike.1.trans fixed, (alike.2.trans core).trans keep⟩
      · obtain ⟨copyFixed, core⟩ := copyCore first opens copy held (match_.trans (fixed_id _ _ fixed))
        exact ⟨alike.1.trans copyFixed, alike.2.trans core⟩
  · exact fun old stored outside =>
      visit.written.outside old (progress.outside old stored outside) (fun inside => outside (ids ▸ inside))
  · rw [visit.active, progress.active, visit.granted, List.append_assoc]
  · rw [List.filter_append, visit.granted]
    refine List.rel_append progress.granted ?_
    cases verdict with
    | granted allocation token => exact .cons ⟨visit.fixed, visit.core⟩ .nil
    | held candidate => exact .nil
  · rw [visit.protection, progress.protection, heldBy, heldBy, List.filterMap_append]
    cases verdict with
    | granted allocation token => rfl
    | held candidate => cases candidate <;> rfl

theorem progress_visits (setting : Setting) (normalized : Normalized setting.registry)
    (owners : List Stage) (base : Ledger) (opened : List Stage) (ready : List Stage) (placements : List Placement)
    (before after : Pass) (progress : Progress setting owners base opened placements before)
    (distinct : (opened.map Stage.id).Nodup) (known : ∀ id ∈ opened.map Stage.id, id ∈ stageIds base)
    (listed : ∀ stage ∈ ready, stage ∈ opened)
    (fresh : (placements.map placeId ++ ready.map Stage.id).Nodup)
    (demandable : ∀ stage ∈ ready, Demandable setting.registry stage.needs)
    (complete : ∀ stage ∈ ready, ∀ allocation, stage.protection = some allocation →
      CompleteAssignment setting.registry stage.needs allocation)
    (done : ready.foldlM (visit host setting) before = .ok after) :
    ∃ more, more.map Prod.fst = ready ∧ Progress setting owners base opened (placements ++ more) after := by
  induction ready generalizing placements before with
  | nil =>
      cases done
      exact ⟨[], rfl, by simpa using progress⟩
  | cons stage rest ih =>
      rw [List.foldlM_cons, bind_ok_iff] at done
      obtain ⟨middle, first, later⟩ := done
      have unseen : stage.id ∉ placements.map placeId := fun seen =>
        (List.nodup_append.mp fresh).2.2 stage.id seen stage.id (by simp) rfl
      obtain ⟨verdict, _, _, step⟩ := progress_visit host setting normalized owners base opened placements
        before middle stage
        progress distinct known (listed stage (by simp)) unseen (demandable stage (by simp))
        (complete stage (by simp)) first
      obtain ⟨more, names, finished⟩ := ih (placements ++ [(stage, verdict)]) middle step
        (fun other member => listed other (by simp [member]))
        (by simpa [placeId] using fresh)
        (fun other member => demandable other (by simp [member]))
        (fun other member => complete other (by simp [member])) later
      exact ⟨(stage, verdict) :: more, by rw [List.map_cons, names], by simpa using finished⟩

theorem verdict_advance (verdict : Verdict) (row : Stage) (waiting : stage.state = .waiting)
    (fixed : row.fixed = stage.fixed) (core : row.core = verdict.apply stage.core) : Advance stage row := by
  refine ⟨fixed, fun idle => absurd waiting idle, fun _ => ?_⟩
  cases verdict with
  | granted allocation token =>
      have state : row.state = .granted := congrArg Core.state core
      simp [state]
  | held candidate =>
      have state : row.state = stage.state := congrArg Core.state core
      simp [state, waiting]

theorem ready_waiting (ready : stage.ready = true) : stage.state = .waiting := by
  simp only [Stage.ready, Bool.and_eq_true, decide_eq_true_eq] at ready
  exact ready.1

-- What a whole scheduling call did: the gate's view of every active stage, the
-- verdicts in the order of their visits, and the rows they left.
structure Scheduled (unavailable : List Name) (before : Ledger) (opened : List Stage) (placements : List Placement)
    (after : Ledger) (granted : List Stage) : Prop where
  registry : after.registry = before.registry
  requests : after.requests = before.requests
  released : after.released = []
  sequence : before.sequence ≤ after.sequence
  draws : before.draws ≤ after.draws
  advances : Advances before after
  gates : List.Forall₂ (Gate unavailable after) before.activeStages opened
  placed : Placed before.setting (before.owners.map (fun owner => owner.allocation)) placements
  order : placements.map Prod.fst = (opened.filter Stage.ready).insertionSort readyOrder
  rows : ∀ stage ∈ opened, ∃ row ∈ after.stages, row.fixed = stage.fixed ∧ row.core = target placements stage
  grants : List.Forall₂ (fun place row => row.fixed = place.1.fixed ∧ row.core = place.2.apply place.1.core)
    (placements.filter (fun place => place.2.allocation?.isSome)) granted
  reported : ∃ middle, Frame before middle ∧
    middle.outcomes ((before.activeStages.map (fun stage => stage.request)).dedup) = .ok after

theorem active_distinct (ledger : Ledger) (unique : (stageIds ledger).Nodup) :
    (ledger.activeStages.map Stage.id).Nodup :=
  unique.sublist (List.filter_sublist.map _)

theorem placement_ids (stages : List Stage) (order : placements.map Prod.fst = stages) :
    placements.map placeId = stages.map Stage.id := by
  rw [← order, List.map_map]
  rfl

variable (opened : List Stage)

theorem visited_iff (placements : List Placement)
    (order : placements.map Prod.fst = (opened.filter Stage.ready).insertionSort readyOrder)
    (distinct : (opened.map Stage.id).Nodup) (stage : Stage) (listed : stage ∈ opened) :
    stage.id ∈ placements.map placeId ↔ stage.ready = true := by
  rw [placement_ids placements _ order, ((List.perm_insertionSort readyOrder _).map Stage.id).mem_iff, List.mem_map]
  constructor
  · rintro ⟨other, kept, same⟩
    obtain ⟨member, ready⟩ := List.mem_filter.mp kept
    exact row_unique Stage.id opened distinct other stage member listed same ▸ ready
  · exact fun ready => ⟨stage, List.mem_filter.mpr ⟨listed, ready⟩, rfl⟩

theorem placements_distinct (placements : List Placement)
    (order : placements.map Prod.fst = (opened.filter Stage.ready).insertionSort readyOrder)
    (distinct : (opened.map Stage.id).Nodup) : (placements.map placeId).Nodup := by
  rw [placement_ids placements _ order, ((List.perm_insertionSort readyOrder _).map Stage.id).nodup_iff]
  exact distinct.sublist (List.filter_sublist.map _)

-- How the second loop of a call begins: the gate has opened some stages, each
-- ready one as it stands in the ledger but for its number.
structure Started (unavailable : List Name) (before base : Ledger) (opened : List Stage) : Prop where
  run : GateRun unavailable { before with released := [] } before.activeStages base opened
  openedIds : opened.map Stage.id = before.activeStages.map Stage.id
  distinct : (opened.map Stage.id).Nodup
  ids : stageIds base = stageIds before
  start : Progress before.setting before.owners base opened [] ⟨base, opened, before.owners, [], []⟩
  known : ∀ id ∈ opened.map Stage.id, id ∈ stageIds base
  ready : ∀ stage ∈ opened, stage.ready = true → ∃ source ∈ before.stages, source.state = .waiting ∧
    Open unavailable before source ∧ stage.fixed = source.fixed ∧ stage.protection = source.protection

variable (unavailable : List Name)

theorem gate_started (before : Ledger) (unique : (stageIds before).Nodup) :
    ∃ base opened, before.gate host unavailable = ⟨base, opened, before.owners, [], []⟩ ∧
      Started unavailable before base opened := by
  have distinct := active_distinct before unique
  have inside : ∀ stage ∈ before.activeStages, stage ∈ before.stages := fun stage listed =>
    (List.mem_filter.mp listed).1
  have run := gate_stages_run host unavailable { before with released := [] } before.activeStages inside distinct unique
  refine ⟨_, _, rfl, ?_⟩
  generalize gateStages host unavailable { before with released := [] } before.activeStages = gated at run ⊢
  obtain ⟨base, opened⟩ := gated
  simp only at run ⊢
  have openedIds : opened.map Stage.id = before.activeStages.map Stage.id :=
    forall₂_keys Stage.id _ _ _ (fun _ _ both => fixed_id _ _ both.1.fixed) run.gates
  have baseIds : stageIds base = stageIds before := run.advances.ids
  refine ⟨run, openedIds, openedIds ▸ distinct, baseIds, ?_, fun id listed => ?_, fun stage listed ready => ?_⟩
  · refine ⟨.start, Frame.refl _, rfl, rfl, List.forall₂_same.mpr fun stage _ => ⟨rfl, rfl⟩,
      fun stage listed closed => ?_,
      fun row stored _ => stored, by simp, .nil, rfl⟩
    obtain ⟨source, _, _, stored | ⟨_, ready⟩⟩ := forall₂_mem_right _ _ _ run.gates stage listed
    · exact ⟨stage, stored, rfl, rfl⟩
    · exact absurd (closed ready) (by simp)
  · rw [openedIds] at listed
    obtain ⟨stage, member, same⟩ := List.mem_map.mp listed
    exact baseIds ▸ List.mem_map.mpr ⟨stage, inside stage member, same⟩
  · obtain ⟨source, origin, gate, _⟩ := forall₂_mem_right _ _ _ run.gates stage listed
    refine ⟨source, inside source origin, ?_⟩
    have waiting := ready_waiting stage ready
    cases gate with
    | idle state same => exact absurd (same ▸ waiting) state
    | skipped _ _ _ core => exact absurd (waiting.symm.trans (congrArg Core.state core)) (by simp)
    | closed _ _ _ core =>
        have none : stage.readySeq = none := congrArg Core.readySeq core
        simp [Stage.ready, none] at ready
    | opened state gate fixed _ _ core =>
        have advances : Advances before base := run.advances
        exact ⟨state, (advances_open advances unavailable source).mp gate, fixed, congrArg Core.protection core⟩

theorem mem_ready (stage : Stage) :
    stage ∈ (opened.filter Stage.ready).insertionSort readyOrder ↔ stage ∈ opened ∧ stage.ready = true := by
  rw [(List.perm_insertionSort readyOrder _).mem_iff, List.mem_filter]

theorem ready_distinct (distinct : (opened.map Stage.id).Nodup) :
    (((opened.filter Stage.ready).insertionSort readyOrder).map Stage.id).Nodup := by
  rw [((List.perm_insertionSort readyOrder _).map Stage.id).nodup_iff]
  exact distinct.sublist (List.filter_sublist.map _)

theorem progress_scheduled (before base after : Ledger) (opened : List Stage)
    (placements : List Placement) (pass : Pass) (unique : (stageIds before).Nodup)
    (started : Started unavailable before base opened)
    (order : placements.map Prod.fst = (opened.filter Stage.ready).insertionSort readyOrder)
    (progress : Progress before.setting before.owners base opened placements pass)
    (delivered : pass.ledger.outcomes ((before.activeStages.map (fun stage => stage.request)).dedup) = .ok after) :
    Scheduled unavailable before opened placements after pass.granted := by
  obtain ⟨run, _, openedDistinct, baseIds, _, _, _⟩ := started
  have baseUnique : (base.stages.map Stage.id).Nodup := by
    change (stageIds base).Nodup
    rw [baseIds]
    exact unique
  have delivers := outcomes_stands _ _ _ delivered
  have visitedIff := visited_iff opened placements order openedDistinct
  have rows : ∀ stage ∈ opened, ∃ row ∈ after.stages, row.fixed = stage.fixed ∧ row.core = target placements stage := by
    intro stage listed
    rw [delivers.stages]
    exact progress.rows stage listed (visitedIff stage listed).mpr
  have later : Advances base after := by
    refine forall₂_of_keys Stage.id Advance base.stages after.stages ?_ baseUnique ?_
    · rw [delivers.stages]
      exact progress.ids
    · intro old stored new present same
      have ids : (after.stages.map Stage.id).Nodup := by
        rw [delivers.stages]
        change (stageIds pass.ledger).Nodup
        rw [progress.ids]
        exact baseUnique
      by_cases listed : old.id ∈ opened.map Stage.id
      · obtain ⟨stage, member, match_⟩ := List.mem_map.mp listed
        obtain ⟨row, kept, fixed, core⟩ := rows stage member
        have here : row = new := row_unique Stage.id after.stages ids row new kept present
          ((fixed_id _ _ fixed).trans (match_.trans same.symm))
        subst here
        have settled : Advance stage row := by
          by_cases ready : stage.ready = true
          · obtain ⟨place, listed', match'⟩ := List.mem_map.mp ((visitedIff stage member).mpr ready)
            have first : place.1 = stage := by
              refine row_unique Stage.id opened openedDistinct place.1 stage ?_ member match'
              exact ((mem_ready opened place.1).mp (order ▸ List.mem_map_of_mem listed')).1
            have placedCore : row.core = place.2.apply stage.core := by
              rw [core]
              exact target_placed placements (placements_distinct opened placements order openedDistinct) stage place.2
                (first ▸ listed')
            exact verdict_advance stage place.2 row (ready_waiting stage ready) fixed placedCore
          · have same : row.core = stage.core := by
              rw [core, target_unplaced placements stage (mt (visitedIff stage member).mp ready)]
            exact ⟨fixed, fun _ => same, fun waiting => by simp [core_state _ _ same, waiting]⟩
        obtain ⟨source, origin, gate, stored' | ⟨stored', ready⟩⟩ := forall₂_mem_right _ _ _ run.gates stage member
        · rwa [row_unique Stage.id base.stages baseUnique old stage stored stored' match_.symm]
        · have here : old = source := row_unique Stage.id base.stages baseUnique old source stored stored'
            (match_.symm.trans (fixed_id _ _ gate.fixed))
          exact here ▸ gate.advance.trans settled
      · have kept : old ∈ after.stages := by
          rw [delivers.stages]
          exact progress.outside old stored listed
        rw [row_unique Stage.id after.stages ids new old present kept same]
        exact Advance.refl old
  have framed : Frame before base := ⟨run.frame.registry, run.frame.requests, run.frame.history, run.frame.outbox,
    run.frame.sequence, run.frame.draws⟩
  refine ⟨delivers.registry.trans (progress.frame.registry.trans run.frame.registry),
    delivers.requests.trans (progress.frame.requests.trans run.frame.requests),
    delivers.released.trans (progress.released.trans run.released), ?_, ?_, run.advances.trans later,
    run.gates.imp fun _ _ both => both.1.later later, progress.placed, order, rows, progress.granted,
    pass.ledger, framed.trans progress.frame, delivered⟩
  · rw [delivers.sequence]
    exact Nat.le_trans run.frame.sequence progress.frame.sequence
  · rw [delivers.draws]
    exact Nat.le_trans run.frame.draws progress.frame.draws

def Ledger.line (host : Host) (unavailable : List Name) (ledger : Ledger) : List Stage :=
  ((ledger.gate host unavailable).stages.filter Stage.ready).insertionSort readyOrder

theorem schedule_line (before after : Ledger) (granted : List Stage)
    (unique : (stageIds before).Nodup) (normalized : Normalized before.registry)
    (demandable : ∀ stage ∈ before.stages, stage.state = .waiting → Demandable before.registry stage.needs)
    (complete : ∀ stage ∈ before.stages, stage.state = .waiting → ∀ allocation, stage.protection = some allocation →
      CompleteAssignment before.registry stage.needs allocation)
    (done : before.schedule host unavailable = .ok (after, granted)) :
    ∃ opened placements, placements.map Prod.fst = before.line host unavailable ∧
      Scheduled unavailable before opened placements after granted := by
  obtain ⟨base, opened, gated, started⟩ := gate_started host unavailable before unique
  simp only [Ledger.schedule, gated, bind_ok_iff, pure_ok, Except.ok.injEq] at done
  obtain ⟨pass, visited, _, delivered, rfl, rfl⟩ := done
  obtain ⟨placements, order, progress⟩ := progress_visits host before.setting normalized before.owners base opened
    ((opened.filter Stage.ready).insertionSort readyOrder) [] _ pass started.start started.distinct started.known
    (fun stage sorted => ((mem_ready opened stage).mp sorted).1)
    (by
      rw [List.map_nil, List.nil_append]
      exact ready_distinct opened started.distinct)
    (fun stage sorted => by
      obtain ⟨listed, isReady⟩ := (mem_ready opened stage).mp sorted
      obtain ⟨source, origin, waiting, _, fixed, _⟩ := started.ready stage listed isReady
      have needs : stage.needs = source.needs := congrArg Fixed.needs fixed
      exact needs ▸ demandable source origin waiting)
    (fun stage sorted allocation held => by
      obtain ⟨listed, isReady⟩ := (mem_ready opened stage).mp sorted
      obtain ⟨source, origin, waiting, _, fixed, protection⟩ := started.ready stage listed isReady
      have needs : stage.needs = source.needs := congrArg Fixed.needs fixed
      exact needs ▸ complete source origin waiting allocation (protection ▸ held))
    visited
  rw [List.nil_append] at progress
  refine ⟨opened, placements, ?_,
    progress_scheduled unavailable before base _ opened placements pass unique started order progress delivered⟩
  rw [Ledger.line, gated]
  exact order

theorem schedule_ok (before after : Ledger) (granted : List Stage)
    (unique : (stageIds before).Nodup) (normalized : Normalized before.registry)
    (demandable : ∀ stage ∈ before.stages, stage.state = .waiting → Demandable before.registry stage.needs)
    (complete : ∀ stage ∈ before.stages, stage.state = .waiting → ∀ allocation, stage.protection = some allocation →
      CompleteAssignment before.registry stage.needs allocation)
    (done : before.schedule host unavailable = .ok (after, granted)) :
    ∃ opened placements, Scheduled unavailable before opened placements after granted := by
  obtain ⟨opened, placements, _, scheduled⟩ :=
    schedule_line host unavailable before after granted unique normalized demandable complete done
  exact ⟨opened, placements, scheduled⟩

end OrchestratorEngine.ResourceQueue
