import OrchestratorEngine.ResourceQueue.Conservation

set_option autoImplicit false

namespace OrchestratorEngine.ResourceQueue

open Foundation

-- What the blockers of a stage are found by: each character of a needed name,
-- taken for a leaf, with the claim of that need.
def comparisons (specifications : List Specification) : List (Name × Claim) :=
  specifications.flatMap fun specification =>
    specification.name.toList.map fun character => (String.singleton character, specification.claim)

def compareItem (registry : Registry) (allocation : Allocation) (item : Name × Claim) : Except Error Bool := do
  return !(← compatible registry (Dict.single item.1 item.2) [allocation])

-- The turn of a ready stage in a call: the owners it meets, the allocation it
-- is granted, if any, and the older stages that a grant to it passes over.
structure Turn where
  stage : Stage
  owners : List (Id × Allocation)
  chosen : Option Allocation
  older : List Stage

def Stage.tag (stage : Stage) : Id × Allocation := (stage.id, stage.allocation)

namespace Pass

def chosen (setting : Setting) (pass : Pass) (stage : Stage) : Option Allocation :=
  (do
    let leaves ← demandedLeaves setting.registry pass.stages stage
    chooseGrant setting pass stage leaves : Except Error (Option Allocation)).toOption.join

def candidate (setting : Setting) (pass : Pass) (stage : Stage) : Option Allocation :=
  (do
    let leaves ← demandedLeaves setting.registry pass.stages stage
    chooseProtection setting pass.protection stage leaves : Except Error (Option Allocation)).toOption.join

-- What a turn leaves in memory, without the rows that it writes.
def rehearse (setting : Setting) (pass : Pass) (stage : Stage) : Pass :=
  match pass.chosen setting stage with
  | some allocation =>
      let stage := { stage with state := .granted, allocation := allocation }
      { pass with
        stages := put Stage.id stage pass.stages
        active := pass.active ++ [stage] }
  | none =>
      let candidate := pass.candidate setting stage
      { pass with
        stages := put Stage.id { stage with protection := candidate } pass.stages
        protection := pass.protection ++ candidate.toList }

def turn (setting : Setting) (pass : Pass) (stage : Stage) : Turn where
  stage := stage
  owners := pass.active.map Stage.tag
  chosen := pass.chosen setting stage
  older := bypassed (pass.rehearse setting stage).stages stage

def turns (setting : Setting) : Pass → List Stage → List Turn
  | _, [] => []
  | pass, stage :: rest => pass.turn setting stage :: turns setting (pass.rehearse setting stage) rest

end Pass

def Ledger.turns (host : Host) (unavailable : List Name) (ledger : Ledger) : List Turn :=
  (ledger.gate host unavailable).turns ledger.setting (ledger.line host unavailable)

variable (registry : Registry)

theorem conflicts_comparisons (specifications : List Specification) (allocation : Allocation) :
    conflicts registry specifications allocation = (comparisons specifications).anyM
    (compareItem registry allocation) := by
  rw [comparisons, ← anyM_nested, conflicts]
  congr 1
  funext specification
  rw [anyM_nested, anyM_map]
  have spelled : (specification.name.toList.map String.singleton).flatMap (fun leaves =>
      leaves.toList.map String.singleton) = specification.name.toList.map String.singleton := by
    induction specification.name.toList with
    | nil => rfl
    | cons character rest ih => simp_all
  rw [spelled, anyM_map]
  rfl

def Trips (registry : Registry) (name : Name) : Prop :=
  ∃ entry, registry.get? name = some entry ∧ ∀ capacity, entry.capacity = some capacity → capacity.numeric = false

theorem capacity_fails (name : Name) (known : (registry.get? name).isSome = true) :
    Fails (capacityOf registry name) ↔ Trips registry name := by
  obtain ⟨entry, found⟩ := Option.isSome_iff_exists.mp known
  unfold Trips
  rw [found]
  cases capacity : entry.capacity with
  | none =>
      refine ⟨fun _ => ⟨entry, rfl, fun other given => ?_⟩, fun _ => ⟨.key "capacity", ?_⟩⟩
      · cases capacity.symm.trans given
      · simp only [capacityOf, found, capacity]
        rfl
  | some value =>
      have same : capacityOf registry name = value.floor := by simp only [capacityOf, found, capacity]
      rw [same, fails_iff]
      simp only [ne_eq, ← not_exists, value.floor_total, Bool.not_eq_true]
      constructor
      · intro textual
        refine ⟨entry, rfl, fun other given => ?_⟩
        cases capacity.symm.trans given
        exact textual
      · rintro ⟨other, same, textual⟩
        cases same
        exact textual value capacity

theorem compare_item_fails (allocation : Allocation) (leaves : LeavesOnly registry allocation)
    (item : Name × Claim) : Fails (compareItem registry allocation item) ↔ Trips registry item.1 := by
  have whole : compareItem registry allocation item =
      (do let verdict ← compatibleItem registry [allocation] item; return !verdict) := by
    simp only [compareItem, compatible, Dict.single, List.allM]
    cases compatibleItem registry [allocation] (item.1, item.2) with
    | error error => rfl
    | ok verdict => cases verdict <;> rfl
  have same : Fails (compareItem registry allocation item) ↔ Fails (compatibleItem registry [allocation] item) := by
    rw [whole]
    cases compatibleItem registry [allocation] item with
    | error error => exact ⟨fun _ => ⟨error, rfl⟩, fun _ => ⟨error, rfl⟩⟩
    | ok verdict =>
        constructor
        · rintro ⟨_, ⟨⟩⟩
        · rintro ⟨_, ⟨⟩⟩
  rw [same]
  by_cases known : (registry.get? item.1).isSome = true
  · rw [← capacity_fails registry item.1 known]
    unfold compatibleItem
    simp only [known, if_true]
    cases capacity : capacityOf registry item.1 with
    | error error => exact ⟨fun _ => ⟨error, rfl⟩, fun _ => ⟨error, rfl⟩⟩
    | ok value =>
        simp only [bind_ok, pure_ok]
        constructor
        · rintro ⟨error, wrong⟩
          split_ifs at wrong
        · rintro ⟨_, ⟨⟩⟩
  · have none_ : registry.get? item.1 = none := by simpa using known
    have free : claimsOn item.1 [allocation] = [] := by
      cases held : allocation.get? item.1 with
      | none => simp [claimsOn, held]
      | some claim =>
          obtain ⟨entry, found, _⟩ := leaves item.1 claim held
          cases none_.symm.trans found
    constructor
    · rintro ⟨error, wrong⟩
      simp [compatibleItem, none_, free] at wrong
    · rintro ⟨entry, found, _⟩
      cases none_.symm.trans found

-- The comparison of a stage with an owner meets a selector without a numeric
-- capacity before any character settles it.
def Stumbles (registry : Registry) (needs : List Need) (allocation : Allocation) : Prop :=
  ∃ specifications, demands registry needs = .ok specifications ∧
    ∃ front item back, comparisons specifications = front ++ item :: back ∧
      (∀ earlier ∈ front, compatible registry (Dict.single earlier.1 earlier.2) [allocation] = .ok true) ∧
        Trips registry item.1

theorem compare_item_false (allocation : Allocation) (item : Name × Claim) :
    compareItem registry allocation item = .ok false ↔
      compatible registry (Dict.single item.1 item.2) [allocation] = .ok true := by
  unfold compareItem
  cases compatible registry (Dict.single item.1 item.2) [allocation] with
  | error error => simp
  | ok verdict => cases verdict <;> simp

theorem conflicts_fails (needs : List Need) (specifications : List Specification)
    (demanded : demands registry needs = .ok specifications) (allocation : Allocation)
    (leaves : LeavesOnly registry allocation) :
    Fails (conflicts registry specifications allocation) ↔ Stumbles registry needs allocation := by
  rw [conflicts_comparisons, anyM_fails]
  constructor
  · rintro ⟨front, item, back, split, passed, failed⟩
    exact ⟨specifications, demanded, front, item, back, split,
      fun earlier member => (compare_item_false registry allocation earlier).mp (passed earlier member),
      (compare_item_fails registry allocation leaves item).mp failed⟩
  · rintro ⟨others, again, front, item, back, split, passed, trips⟩
    cases demanded.symm.trans again
    exact ⟨front, item, back, split,
      fun earlier member => (compare_item_false registry allocation earlier).mpr (passed earlier member),
      (compare_item_fails registry allocation leaves item).mpr trips⟩

theorem blockers_fail (needs : List Need) (demandable : Demandable registry needs)
    (active : List Stage) (leaves : ∀ owner ∈ active, LeavesOnly registry owner.allocation) :
    Fails (blockersOf registry needs active) ↔ ∃ owner ∈ active, Stumbles registry needs owner.allocation := by
  obtain ⟨specifications, demanded⟩ := demandable
  have filtered : Fails (blockersOf registry needs active) ↔
      Fails (filterOk (fun owner => conflicts registry specifications owner.allocation) active) := by
    simp only [blockersOf, demanded, bind_ok]
    cases filterOk (fun owner => conflicts registry specifications owner.allocation) active with
    | error error => exact ⟨fun _ => ⟨error, rfl⟩, fun _ => ⟨error, rfl⟩⟩
    | ok blocking => exact ⟨fun ⟨_, wrong⟩ => (by cases wrong), fun ⟨_, wrong⟩ => (by cases wrong)⟩
  rw [filtered, filter_fails]
  constructor
  · rintro ⟨owner, listed, failed⟩
    exact ⟨owner, listed, (conflicts_fails registry needs specifications demanded _ (leaves owner listed)).mp failed⟩
  · rintro ⟨owner, listed, stumbles⟩
    exact ⟨owner, listed, (conflicts_fails registry needs specifications demanded _ (leaves owner listed)).mpr stumbles⟩

theorem incarnations_total (normalized : Normalized registry) (leaves : List Name)
    (known : ∀ leaf ∈ leaves, IsLeaf registry leaf) : ∃ found, incarnations registry leaves = .ok found := by
  refine foldlM_total _ (fun _ => True) leaves Dict.empty trivial fun found leaf listed _ => ?_
  obtain ⟨entry, present, resource⟩ := known leaf listed
  obtain ⟨incarnation, given⟩ := (normalized.normal leaf entry present).incarnation resource
  exact ⟨found.set leaf incarnation, by simp [incarnationOf, present, given], trivial⟩

variable (host : Host)

variable (setting : Setting)

theorem bypasses_total (older : List Stage) (state : Ledger × List Stage) :
    (∃ after, older.foldlM (bypass host) state = .ok after) ↔ ∀ copy ∈ older, copy.counts = true := by
  induction older generalizing state with
  | nil => exact ⟨fun _ copy listed => absurd listed List.not_mem_nil, fun _ => ⟨state, rfl⟩⟩
  | cons copy rest ih =>
      simp only [List.foldlM_cons, bind_ok_iff, List.forall_mem_cons]
      constructor
      · rintro ⟨after, middle, first, later⟩
        simp only [bypass, bind_ok_iff] at first
        obtain ⟨count, counted, _⟩ := first
        exact ⟨(Quantity.next_total _).mp ⟨count, counted⟩, (ih middle).mp ⟨after, later⟩⟩
      · rintro ⟨here, others⟩
        obtain ⟨count, counted⟩ := (Quantity.next_total _).mpr here
        have first : ∃ middle, bypass host state copy = .ok middle :=
          ⟨_, by simp only [bypass, counted, bind_ok, pure_ok]; rfl⟩
        obtain ⟨middle, first⟩ := first
        obtain ⟨after, later⟩ := (ih middle).mpr others
        exact ⟨after, middle, first, later⟩

theorem grant_total (normalized : Normalized setting.registry) (pass : Pass)
    (stage : Stage) (chosen : Allocation) (leaves : LeavesOnly setting.registry chosen) :
    ∃ token row, row.fixed = stage.fixed ∧ row.core = (Verdict.granted chosen token).apply stage.core ∧
      ((∃ after, grant host setting pass stage chosen = .ok after) ↔
        ∀ older ∈ bypassed (put Stage.id row pass.stages) row, older.counts = true) := by
  have known : ∀ leaf ∈ chosen.keys, IsLeaf setting.registry leaf := fun leaf held => by
    obtain ⟨claim, found⟩ := (Dict.mem_keys chosen leaf).mp held
    exact leaves leaf claim found
  obtain ⟨incarnated, first⟩ := incarnations_total setting.registry normalized chosen.keys known
  obtain ⟨capacities, second⟩ := mapM_total (capacityOf setting.registry) chosen.keys fun leaf held =>
    ⟨_, capacity_of_leaf setting.registry normalized leaf (known leaf held)⟩
  have saves := save_saves host (((Ledger.newToken host pass.ledger).1.newToken host).1.now host).1
    (stage.take chosen incarnated (Ledger.newToken host pass.ledger).2
      ((Ledger.newToken host pass.ledger).1.newToken host).2
      (((Ledger.newToken host pass.ledger).1.newToken host).1.now host).2)
  refine ⟨(Ledger.newToken host pass.ledger).2, _, saves.alike.1, saves.alike.2, ?_⟩
  rw [← bypasses_total host _ ((Ledger.save host _ _).1, put Stage.id _ pass.stages)]
  simp only [grant, first, second, bind_ok, bind_ok_iff, pure_ok, Except.ok.injEq]
  constructor
  · rintro ⟨_, state, passed, _⟩
    exact ⟨state, passed⟩
  · rintro ⟨state, passed⟩
    exact ⟨_, state, passed, rfl⟩

theorem demanded_leaves_total (normalized : Normalized registry) (stages : List Stage)
    (stage : Stage) (demandable : ∀ other ∈ stages, other.state = .waiting → Demandable registry other.needs) :
    ∃ leaves, demandedLeaves registry stages stage = .ok leaves := by
  obtain ⟨found, done⟩ := mapM_total (fun other : Stage => do
      let specifications ← demands registry other.needs
      let leaves ← specifications.mapM fun specification => selectorLeaves registry specification.name
      return leaves.flatten) (stages.filter fun other => decide (other.id ≠ stage.id) &&
      decide (other.state = .waiting))
    (fun other listed => by
      obtain ⟨member, rival⟩ := List.mem_filter.mp listed
      simp only [Bool.and_eq_true, decide_eq_true_eq] at rival
      obtain ⟨specifications, demanded⟩ := demandable other member rival.2
      obtain ⟨leaves, selected⟩ := mapM_total (fun specification : Specification =>
          selectorLeaves registry specification.name) specifications fun specification inside => by
        obtain ⟨entry, known⟩ := demands_known registry other.needs specifications demanded specification inside
        obtain ⟨leaves, done, _⟩ := selector_leaves_ok registry normalized.toGrounded specification.name entry known
        exact ⟨leaves, done⟩
      exact ⟨leaves.flatten, by simp [demanded, selected]⟩)
  exact ⟨found.flatten, (bind_ok_iff _ _ _).mpr ⟨found, done, rfl⟩⟩

theorem wait_reason_total (normalized : Normalized setting.registry) (needs : List Need)
    (demandable : Demandable setting.registry needs) : ∃ reason, waitReason setting needs = .ok reason := by
  obtain ⟨specifications, demanded⟩ := demandable
  obtain ⟨results, done, _⟩ := assignments_exact setting.registry normalized needs specifications demanded []
    setting.quarantine (fun _ => 0) []
  exact ⟨_, by simp only [waitReason, done, bind_ok, pure_ok]; rfl⟩

theorem hold_fails (normalized : Normalized setting.registry) (pass : Pass)
    (stage : Stage) (leaves : List Name) (demandable : Demandable setting.registry stage.needs)
    (complete : ∀ allocation, stage.protection = some allocation →
      CompleteAssignment setting.registry stage.needs allocation)
    (owned : ∀ owner ∈ pass.active, LeavesOnly setting.registry owner.allocation) :
    Fails (hold host setting pass stage leaves) ↔
      ∃ owner ∈ pass.active, Stumbles setting.registry stage.needs owner.allocation := by
  obtain ⟨candidate, chosen, _⟩ :=
    choose_protection_ok setting normalized pass.protection stage demandable complete leaves
  obtain ⟨reason, waits⟩ := wait_reason_total setting normalized stage.needs demandable
  rw [← blockers_fail setting.registry stage.needs demandable pass.active owned]
  simp only [hold, chosen, waits, bind_ok]
  cases blockersOf setting.registry stage.needs pass.active with
  | error error => exact ⟨fun _ => ⟨error, rfl⟩, fun _ => ⟨error, rfl⟩⟩
  | ok blockers =>
      constructor
      · rintro ⟨_, ⟨⟩⟩
      · rintro ⟨_, ⟨⟩⟩

-- A row of the rehearsal and the copy that the call holds.
def Mirror (row copy : Stage) : Prop :=
  copy.fixed = row.fixed ∧ copy.state = row.state ∧ copy.readySeq = row.readySeq

structure Mirrors (rehearsed pass : Pass) : Prop where
  stages : List.Forall₂ Mirror rehearsed.stages pass.stages
  active : pass.active.map Stage.tag = rehearsed.active.map Stage.tag
  protection : pass.protection = rehearsed.protection

theorem Mirrors.refl (pass : Pass) : Mirrors pass pass :=
  ⟨List.forall₂_same.mpr fun _ _ => ⟨rfl, rfl, rfl⟩, rfl, rfl⟩

theorem mirror_trans (first second third : Stage) (lower : Mirror first second) (upper : Mirror second third) :
    Mirror first third :=
  ⟨upper.1.trans lower.1, upper.2.1.trans lower.2.1, upper.2.2.trans lower.2.2⟩

theorem alike_mirror (first second : Stage) (alike : Alike first second) : Mirror first second :=
  ⟨alike.1.symm, (core_state _ _ alike.2).symm, (congrArg Core.readySeq alike.2).symm⟩

theorem put_mirrors (earlier later : List Stage) (related : List.Forall₂ Mirror earlier later) (row copy : Stage)
    (here : Mirror row copy) : List.Forall₂ Mirror (put Stage.id row earlier) (put Stage.id copy later) :=
  put_related Stage.id Mirror (fun _ _ mirror => fixed_id _ _ mirror.1) earlier later related row copy here

theorem demanded_leaves_mirrored (earlier later : List Stage) (related : List.Forall₂ Mirror earlier later)
    (stage : Stage) : demandedLeaves registry earlier stage = demandedLeaves registry later stage := by
  unfold demandedLeaves
  have rivals : List.Forall₂ Mirror
      (earlier.filter fun other => decide (other.id ≠ stage.id) && decide (other.state = .waiting))
      (later.filter fun other => decide (other.id ≠ stage.id) && decide (other.state = .waiting)) := by
    refine List.rel_filter (fun row copy mirror => ?_) related
    simp only [fixed_id _ _ mirror.1, mirror.2.1]
  refine congrArg (fun found : Except Error (List (List Name)) => do return (← found).flatten)
    (mapM_related _ Mirror _ _ _ rivals fun row copy mirror => ?_)
  have needs : copy.needs = row.needs := congrArg Fixed.needs mirror.1
  rw [needs]

theorem bypassed_mirrored (earlier later : List Stage) (related : List.Forall₂ Mirror earlier later)
    (stage row : Stage) (same : row.readySeq = stage.readySeq) :
    List.Forall₂ Mirror (bypassed earlier stage) (bypassed later row) := by
  refine List.rel_filter (fun first second mirror => ?_) related
  simp only [Stage.ready, mirror.2.1, mirror.2.2, same]

theorem counts_mirrored (earlier later : List Stage) (related : List.Forall₂ Mirror earlier later) :
    (∀ copy ∈ later, copy.counts = true) ↔ ∀ row ∈ earlier, row.counts = true := by
  induction related with
  | nil => simp
  | cons head _ ih =>
      have counts : _ = _ := congrArg Fixed.counts head.1
      simp only [Stage.fixed] at counts
      rw [List.forall_mem_cons, List.forall_mem_cons, ih, counts]

variable (rehearsed pass : Pass)

theorem chosen_mirrored (mirrors : Mirrors rehearsed pass) (stage : Stage) (leaves : List Name)
    (found : Option Allocation) (demanded : demandedLeaves setting.registry pass.stages stage = .ok leaves)
    (choice : chooseGrant setting pass stage leaves = .ok found) : rehearsed.chosen setting stage = found := by
  have owned := congrArg (List.map Prod.snd) mirrors.active
  simp only [List.map_map, Function.comp_def, Stage.tag] at owned
  have same : chooseGrant setting rehearsed stage leaves = .ok found := by
    rw [← choice]
    simp only [chooseGrant, owned, mirrors.protection]
  simp only [Pass.chosen, demanded_leaves_mirrored _ _ _ mirrors.stages, demanded, bind_ok, same]
  rfl

theorem mirrors_visit (mirrors : Mirrors rehearsed pass) (stage row : Stage) (verdict : Verdict) (after : Pass)
    (visit : Visit setting pass stage verdict row after) :
    rehearsed.chosen setting stage = verdict.allocation? ∧ Mirrors (rehearsed.rehearse setting stage) after := by
  obtain ⟨leaves, demanded, choice, protect⟩ := visit.decided
  have chosen := chosen_mirrored setting rehearsed pass mirrors stage leaves _ demanded choice
  have follows : ∀ mine : Stage, Mirror mine row → List.Forall₂ Mirror
    (put Stage.id mine rehearsed.stages) after.stages :=
    fun mine here => forall₂_trans Mirror mirror_trans _ _ _ (put_mirrors _ _ mirrors.stages mine row here)
      (visit.memory.imp alike_mirror)
  have fixed := visit.fixed
  have state : row.state = (verdict.apply stage.core).state := congrArg Core.state visit.core
  have number : row.readySeq = (verdict.apply stage.core).readySeq := congrArg Core.readySeq visit.core
  have allocation : row.allocation = (verdict.apply stage.core).allocation := congrArg Core.allocation visit.core
  refine ⟨chosen, ?_⟩
  unfold Pass.rehearse
  rw [chosen]
  cases verdict with
  | granted given token =>
      refine ⟨follows _ ⟨fixed, state, number⟩, ?_, ?_⟩
      · have owner : row.tag = (stage.id, given) := by
          rw [Stage.tag, fixed_id _ _ fixed, allocation]
          rfl
        rw [visit.active, List.map_append, mirrors.active]
        simp only [Verdict.newOwner, Verdict.allocation?, List.map_append, List.map_singleton, owner]
        rfl
      · rw [visit.protection, mirrors.protection]
        exact List.append_nil _
  | held kept =>
      have candidate : rehearsed.candidate setting stage = kept := by
        have same := protect rfl
        rw [mirrors.protection] at same
        simp only [Pass.candidate, demanded_leaves_mirrored _ _ _ mirrors.stages, demanded, bind_ok, same]
        rfl
      simp only [Verdict.allocation?, candidate]
      refine ⟨follows _ ⟨fixed, state, number⟩, ?_, ?_⟩
      · rw [visit.active, ← mirrors.active]
        simp [Verdict.newOwner]
      · rw [visit.protection, mirrors.protection]
        rfl

-- A turn that raises nothing: a grant finds that every stage it passes over
-- has been counted in numbers, a refusal can compare the needs with every owner.
def Turn.Passes (registry : Registry) (turn : Turn) : Prop :=
  match turn.chosen with
  | some _ => ∀ older ∈ turn.older, older.counts = true
  | none => ∀ owner ∈ turn.owners, ¬ Stumbles registry turn.stage.needs owner.2

theorem visit_total (normalized : Normalized setting.registry) (mirrors : Mirrors rehearsed pass)
    (stage : Stage) (rivals : ∀ other ∈ pass.stages, other.state = .waiting → Demandable setting.registry other.needs)
    (demandable : Demandable setting.registry stage.needs)
    (complete : ∀ allocation, stage.protection = some allocation →
      CompleteAssignment setting.registry stage.needs allocation)
    (owned : ∀ owner ∈ pass.active, LeavesOnly setting.registry owner.allocation) :
    (∃ after, visit host setting pass stage = .ok after) ↔ (rehearsed.turn setting stage).Passes setting.registry := by
  obtain ⟨leaves, demanded⟩ := demanded_leaves_total setting.registry normalized pass.stages stage rivals
  obtain ⟨found, choice, some_, none_⟩ := choose_grant_ok setting normalized pass stage demandable leaves
  have chosen := chosen_mirrored setting rehearsed pass mirrors stage leaves found demanded choice
  simp only [visit, demanded, choice, bind_ok, Turn.Passes, Pass.turn, chosen]
  cases found with
  | some given =>
      obtain ⟨token, row, fixed, core, exactly⟩ := grant_total host setting normalized pass stage given
        (complete_leaves_only _ stage.needs given (some_ given rfl).complete)
      have number : row.readySeq = stage.readySeq := congrArg Core.readySeq core
      have state : row.state = .granted := congrArg Core.state core
      have follows : List.Forall₂ Mirror (rehearsed.rehearse setting stage).stages (put Stage.id row pass.stages) := by
        unfold Pass.rehearse
        rw [chosen]
        exact put_mirrors _ _ mirrors.stages _ row ⟨fixed, state, number⟩
      exact exactly.trans (counts_mirrored _ _ (bypassed_mirrored _ _ follows stage row number))
  | none =>
      simp only [succeeds_iff, hold_fails host setting normalized pass stage leaves demandable complete owned,
        ← mirrors.active, List.forall_mem_map, not_exists, not_and]
      rfl

theorem target_waiting (placements : List Placement) (stage : Stage)
    (waiting : (target placements stage).state = .waiting) : stage.state = .waiting := by
  unfold target at waiting
  split at waiting
  · exact waiting
  · rename_i place _
    cases verdict : place.2 with
    | granted allocation token =>
        rw [verdict] at waiting
        cases waiting
    | held candidate =>
        rw [verdict] at waiting
        exact waiting

theorem memory_waiting (opened copies : List Stage) (placements : List Placement)
    (memory : List.Forall₂ (fun stage copy => copy.fixed = stage.fixed ∧ copy.core = target placements stage)
      opened copies) (copy : Stage) (listed : copy ∈ copies) (waiting : copy.state = .waiting) :
    ∃ stage ∈ opened, stage.state = .waiting ∧ copy.needs = stage.needs := by
  obtain ⟨stage, member, fixed, core⟩ := forall₂_mem_right _ _ _ memory copy listed
  have state : copy.state = (target placements stage).state := congrArg Core.state core
  exact ⟨stage, member, target_waiting placements stage (state.symm.trans waiting), congrArg Fixed.needs fixed⟩

theorem progress_owner (owners : List Stage) (base : Ledger) (opened : List Stage)
    (placements : List Placement) (pass : Pass) (progress : Progress setting owners base opened placements pass)
    (owner : Stage) (listed : owner ∈ pass.active) :
    owner ∈ owners ∨ ∃ stage token, (stage, Verdict.granted owner.allocation token) ∈ placements ∧
      CompleteAssignment setting.registry stage.needs owner.allocation := by
  rw [progress.active] at listed
  rcases List.mem_append.mp listed with old | new
  · exact .inl old
  · obtain ⟨⟨stage, verdict⟩, kept, _, core⟩ := forall₂_mem_right _ _ _ progress.granted owner new
    obtain ⟨member, _⟩ := List.mem_filter.mp kept
    obtain ⟨_, _, _, sound⟩ := placed_sound _ _ placements progress.placed stage verdict member
    cases sound with
    | held _ _ _ _ _ => simp [Verdict.allocation?] at kept
    | granted chosen token suits =>
        have same : owner.allocation = chosen := congrArg Core.allocation core
        exact .inr ⟨stage, token, same ▸ member, same ▸ suits.complete⟩

theorem outcomes_total (ledger : Ledger) (requests : List Id)
    (known : ∀ id ∈ requests, id ∈ ledger.requests.map Request.id) : ∃ after, ledger.outcomes requests = .ok after := by
  refine foldlM_total Ledger.outcomesOf (Stands ledger) requests ledger (Stands.refl ledger) fun state id
    listed stands => ?_
  have published : ∃ next, state.outcomesOf id = .ok next := by
    unfold Ledger.outcomesOf
    split
    · exact ⟨state, rfl⟩
    · cases found : row? Request.id id state.requests with
      | none =>
          have absent := row_none Request.id id state.requests found
          rw [stands.requests] at absent
          exact absurd (known id listed) absent
      | some request => exact ⟨_, by simp only [Ledger.request, found, pure_ok, bind_ok]; rfl⟩
  obtain ⟨next, done⟩ := published
  exact ⟨next, done, stands.trans (outcomes_of_stands state next id done)⟩

theorem consistent_owned (ledger : Ledger) (consistent : Consistent host ledger)
    (base : Ledger) (opened : List Stage) (placements : List Placement) (pass : Pass)
    (progress : Progress ledger.setting ledger.owners base opened placements pass) (owner : Stage)
    (listed : owner ∈ pass.active) : LeavesOnly ledger.registry owner.allocation := by
  rcases progress_owner _ _ base opened placements pass progress owner listed with old | ⟨stage, _, _, complete⟩
  · exact consistent.leaves owner (List.mem_filter.mp old).1
  · exact complete_leaves_only _ stage.needs owner.allocation complete

theorem opened_waiting {unavailable : List Name} {before base : Ledger} {opened : List Stage}
    (started : Started unavailable before base opened) (stage : Stage) (listed : stage ∈ opened)
    (waiting : stage.state = .waiting) :
    ∃ source ∈ before.stages, source.state = .waiting ∧ stage.needs = source.needs := by
  obtain ⟨source, origin, gate, _⟩ := forall₂_mem_right _ _ _ started.run.gates stage listed
  refine ⟨source, (List.mem_filter.mp origin).1, ?_, congrArg Fixed.needs gate.fixed⟩
  by_contra idle
  exact idle ((core_state _ _ (gate.advance.idle idle)).symm.trans waiting)

variable (unavailable : List Name)

variable (before base : Ledger)

variable (opened : List Stage)

theorem ready_demandable
    (consistent : Consistent host before) (started : Started unavailable before base opened) (stage : Stage)
    (listed : stage ∈ (opened.filter Stage.ready).insertionSort readyOrder) :
    Demandable before.registry stage.needs ∧ ∀ allocation, stage.protection = some allocation →
      CompleteAssignment before.registry stage.needs allocation := by
  obtain ⟨member, ready⟩ := (mem_ready opened stage).mp listed
  obtain ⟨source, origin, waiting, _, fixed, protection⟩ := started.ready stage member ready
  have needs : stage.needs = source.needs := congrArg Fixed.needs fixed
  rw [needs, protection]
  exact ⟨consistent.demandable source origin waiting, consistent.whole source origin⟩

theorem visit_turn (consistent : Consistent host before) (started : Started unavailable before base opened)
    (placements : List Placement) (rehearsed pass : Pass) (mirrors : Mirrors rehearsed pass)
    (progress : Progress before.setting before.owners base opened placements pass) (stage : Stage)
    (listed : stage ∈ (opened.filter Stage.ready).insertionSort readyOrder) :
    (∃ after, visit host before.setting pass stage = .ok after) ↔
      (rehearsed.turn before.setting stage).Passes before.registry := by
  obtain ⟨demandable, complete⟩ := ready_demandable host unavailable before base opened consistent started stage listed
  refine visit_total host before.setting rehearsed pass consistent.normalized mirrors stage ?_ demandable complete
    (consistent_owned host before consistent base opened placements pass progress)
  intro copy member waits
  obtain ⟨opening, inside, waits', same⟩ := memory_waiting opened pass.stages placements progress.memory
    copy member waits
  obtain ⟨early, stored, waits'', same'⟩ := opened_waiting started opening inside waits'
  exact (same.trans same') ▸ consistent.demandable early stored waits''

theorem visits_total (consistent : Consistent host before) (started : Started unavailable before base opened)
    (ready : List Stage) (placements : List Placement) (rehearsed pass : Pass) (mirrors : Mirrors rehearsed pass)
    (progress : Progress before.setting before.owners base opened placements pass)
    (listed : ∀ stage ∈ ready, stage ∈ (opened.filter Stage.ready).insertionSort readyOrder)
    (fresh : (placements.map placeId ++ ready.map Stage.id).Nodup) :
    (∃ after, ready.foldlM (visit host before.setting) pass = .ok after) ↔
      ∀ turn ∈ rehearsed.turns before.setting ready, turn.Passes before.registry := by
  induction ready generalizing placements rehearsed pass with
  | nil => exact ⟨fun _ turn inside => absurd inside List.not_mem_nil, fun _ => ⟨pass, rfl⟩⟩
  | cons stage rest ih =>
      have here := listed stage List.mem_cons_self
      have turn := visit_turn host unavailable before base opened consistent started placements rehearsed pass mirrors
        progress stage here
      have unseen : stage.id ∉ placements.map placeId := fun seen =>
        (List.nodup_append.mp fresh).2.2 stage.id seen stage.id (by simp) rfl
      obtain ⟨demandable, complete⟩ := ready_demandable host unavailable before base opened consistent
        started stage here
      have step : ∀ middle, visit host before.setting pass stage = .ok middle →
          ((∃ after, rest.foldlM (visit host before.setting) middle = .ok after) ↔
            ∀ turn ∈ (rehearsed.rehearse before.setting stage).turns before.setting rest,
            turn.Passes before.registry) := by
        intro middle done
        obtain ⟨verdict, row, visited, further⟩ := progress_visit host before.setting
          consistent.normalized before.owners
          base opened placements pass middle stage progress started.distinct started.known
          ((mem_ready opened stage).mp here).1 unseen demandable complete done
        obtain ⟨_, follows⟩ := mirrors_visit before.setting rehearsed pass mirrors stage row verdict middle visited
        exact ih _ _ middle follows further (fun other member => listed other (List.mem_cons_of_mem _ member))
          (by simpa [placeId] using fresh)
      rw [Pass.turns, List.forall_mem_cons, ← turn]
      simp only [List.foldlM_cons, bind_ok_iff]
      constructor
      · rintro ⟨after, middle, first, later⟩
        exact ⟨⟨middle, first⟩, (step middle first).mp ⟨after, later⟩⟩
      · rintro ⟨⟨middle, first⟩, others⟩
        obtain ⟨after, later⟩ := (step middle first).mpr others
        exact ⟨after, middle, first, later⟩

def Unimpeded (host : Host) (unavailable : List Name) (ledger : Ledger) : Prop :=
  ∀ turn ∈ ledger.turns host unavailable, turn.Passes ledger.registry

theorem schedule_total (consistent : Consistent host before) :
    (∃ after granted, before.schedule host unavailable = .ok (after, granted)) ↔ Unimpeded host unavailable before := by
  obtain ⟨base, opened, gated, started⟩ := gate_started host unavailable before consistent.ids
  have demandable := ready_demandable host unavailable before base opened consistent started
  have distinct := ready_distinct opened started.distinct
  have visits := visits_total host unavailable before base opened consistent started
    ((opened.filter Stage.ready).insertionSort readyOrder) [] _ _ (Mirrors.refl _) started.start
    (fun _ listed => listed)
    (by
      rw [List.map_nil, List.nil_append]
      exact distinct)
  simp only [Unimpeded, Ledger.turns, Ledger.line, gated]
  rw [← visits]
  simp only [Ledger.schedule, gated, bind_ok_iff, pure_ok, Except.ok.injEq, Prod.mk.injEq]
  constructor
  · rintro ⟨_, _, pass, visited, _⟩
    exact ⟨pass, visited⟩
  · rintro ⟨pass, visited⟩
    obtain ⟨placements, _, progress⟩ := progress_visits host before.setting consistent.normalized before.owners base
      opened _ [] _ pass started.start started.distinct started.known
      (fun stage listed => ((mem_ready opened stage).mp listed).1)
      (by
        rw [List.map_nil, List.nil_append]
        exact distinct)
      (fun stage listed => (demandable stage listed).1) (fun stage listed => (demandable stage listed).2) visited
    have requests : pass.ledger.requests = before.requests :=
      progress.frame.requests.trans started.run.frame.requests
    obtain ⟨after, published⟩ := outcomes_total pass.ledger
      ((before.activeStages.map (fun stage => stage.request)).dedup) (fun id listed => by
        obtain ⟨stage, member, same⟩ := List.mem_map.mp (List.mem_dedup.mp listed)
        rw [requests]
        exact same ▸ consistent.requested stage (List.mem_filter.mp member).1)
    exact ⟨after, pass.granted, pass, visited, after, published, rfl, rfl⟩

def abbreviated : List Call :=
  let registry := (Dict.single "gpu" { release := some .process }).set "g" { kind := some .aliased, members := some ["gpu"] }
  let plan : Plan := { stages := [{ id := "train", needs := some [{ resource := some "g" }] }] }
  [.configure registry, .submit "lab" "first" plan none, .submit "lab" "second" plan none]

end OrchestratorEngine.ResourceQueue
