import Mathlib.Data.List.Induction
import OrchestratorEngine.ResourceQueue.Blockers

set_option autoImplicit false

namespace OrchestratorEngine.ResourceQueue

open Foundation

-- Some claim of the needs cannot stand next to the allocation on one of the
-- leaves below the needed selector.
def Incompatible (registry : Registry) (needs : List Need) (allocation : Allocation) : Prop :=
  ∃ specifications, demands registry needs = .ok specifications ∧ ∃ specification ∈ specifications,
    ∃ leaves, selectorLeaves registry specification.name = .ok leaves ∧ ∃ leaf ∈ leaves,
      compatible registry (Dict.single leaf specification.claim) [allocation] = .ok false

def Misspelled (registry : Registry) (needs : List Need) (allocation : Allocation) : Prop :=
  ∃ specifications, demands registry needs = .ok specifications ∧ ∃ item ∈ comparisons specifications,
    compatible registry (Dict.single item.1 item.2) [allocation] = .ok false

def BlockersReal (ledger : Ledger) : Prop :=
  ∀ stage ∈ ledger.stages, stage.ready = true → ∃ blockers, stage.blockers = some blockers ∧ ∀ id, id ∈ blockers ↔
    ∃ owner ∈ ledger.owners, owner.id = id ∧ Incompatible ledger.registry stage.needs owner.allocation

def incompatible (registry : Registry) (needs : List Need) (allocation : Allocation) : Bool :=
  match demands registry needs with
  | .error _ => false
  | .ok specifications => specifications.any fun specification =>
      match selectorLeaves registry specification.name with
      | .error _ => false
      | .ok leaves => leaves.any fun leaf =>
          decide (compatible registry (Dict.single leaf specification.claim) [allocation] = .ok false)

def misspelled (registry : Registry) (needs : List Need) (allocation : Allocation) : Bool :=
  match demands registry needs with
  | .error _ => false
  | .ok specifications => (comparisons specifications).any fun item =>
      decide (compatible registry (Dict.single item.1 item.2) [allocation] = .ok false)

variable (registry : Registry)

variable (needs : List Need)

theorem incompatible_iff (allocation : Allocation) :
    incompatible registry needs allocation = true ↔ Incompatible registry needs allocation := by
  unfold incompatible Incompatible
  cases demands registry needs with
  | error error => simp
  | ok specifications =>
      simp only [List.any_eq_true, Except.ok.injEq, exists_eq_left']
      refine exists_congr fun specification => and_congr_right fun _ => ?_
      cases selectorLeaves registry specification.name with
      | error error => simp
      | ok leaves => simp

instance (registry : Registry) (needs : List Need) (allocation : Allocation) :
    Decidable (Incompatible registry needs allocation) :=
  decidable_of_iff _ (incompatible_iff registry needs allocation)

theorem misspelled_iff (allocation : Allocation) :
    misspelled registry needs allocation = true ↔ Misspelled registry needs allocation := by
  unfold misspelled Misspelled
  cases demands registry needs with
  | error error => simp
  | ok specifications => simp only [List.any_eq_true, decide_eq_true_eq, Except.ok.injEq, exists_eq_left']

instance (registry : Registry) (needs : List Need) (allocation : Allocation) :
    Decidable (Misspelled registry needs allocation) :=
  decidable_of_iff _ (misspelled_iff registry needs allocation)

theorem compare_item_true (allocation : Allocation) (item : Name × Claim) :
    compareItem registry allocation item = .ok true ↔
      compatible registry (Dict.single item.1 item.2) [allocation] = .ok false := by
  unfold compareItem
  cases compatible registry (Dict.single item.1 item.2) [allocation] with
  | error error => simp
  | ok verdict => cases verdict <;> simp

theorem any_ok_iff {ε α : Type} (test : α → Except ε Bool) (inputs : List α) (verdict : Bool)
    (done : inputs.anyM test = .ok verdict) : verdict = true ↔ ∃ input ∈ inputs, test input = .ok true := by
  constructor
  · rintro rfl
    exact anyM_found test inputs done
  · rintro ⟨input, listed, hit⟩
    induction inputs with
    | nil => cases listed
    | cons head rest ih =>
        rw [List.anyM, bind_ok_iff] at done
        obtain ⟨here, first, later⟩ := done
        cases here with
        | true =>
            cases later
            rfl
        | false =>
            rcases List.mem_cons.mp listed with rfl | inRest
            · cases first.symm.trans hit
            · exact ih later inRest

theorem conflicts_true (specifications : List Specification)
    (demanded : demands registry needs = .ok specifications) (allocation : Allocation) (verdict : Bool)
    (done : conflicts registry specifications allocation = .ok verdict) :
    verdict = true ↔ Misspelled registry needs allocation := by
  rw [conflicts_comparisons] at done
  rw [any_ok_iff _ _ _ done]
  simp only [compare_item_true]
  constructor
  · exact fun found => ⟨specifications, demanded, found⟩
  · rintro ⟨others, again, found⟩
    cases demanded.symm.trans again
    exact found

theorem blockers_of_mem (demandable : Demandable registry needs)
    (active : List Stage) (blockers : List Id) (done : blockersOf registry needs active = .ok blockers) (id : Id) :
    id ∈ blockers ↔ ∃ owner ∈ active, owner.id = id ∧ Misspelled registry needs owner.allocation := by
  obtain ⟨specifications, demanded⟩ := demandable
  simp only [blockersOf, demanded, bind_ok, bind_ok_iff, pure_ok, Except.ok.injEq] at done
  obtain ⟨kept, filtered, rfl⟩ := done
  obtain ⟨total, exactly⟩ := filter_ok_inv _ active kept filtered
  simp only [List.mem_map, exactly]
  constructor
  · rintro ⟨owner, ⟨listed, hit⟩, rfl⟩
    exact ⟨owner, listed, rfl, (conflicts_true registry needs specifications demanded _ true hit).mp rfl⟩
  · rintro ⟨owner, listed, rfl, misspelled⟩
    obtain ⟨verdict, tested⟩ := total owner listed
    cases (conflicts_true registry needs specifications demanded _ verdict tested).mpr misspelled
    exact ⟨owner, ⟨listed, tested⟩, rfl⟩

def Noted (stages : List Stage) (id : Id) (blockers : List Id) : Prop :=
  ∀ copy ∈ stages, copy.id = id → copy.blockers = some blockers

variable (host : Host)

theorem save_blockers (ledger : Ledger) (stage : Stage) :
    (ledger.save host stage).2.blockers = stage.blockers := by
  unfold Ledger.save
  split
  · rfl
  · split <;> rfl

theorem put_noted (stages : List Stage) (row : Stage) (id : Id) (blockers : List Id) (noted : Noted stages id blockers)
    (same : row.id = id → row.blockers = some blockers) : Noted (put Stage.id row stages) id blockers := by
  intro copy listed key
  rcases (mem_put Stage.id row stages copy).mp listed with rfl | ⟨old, _⟩
  · exact same key
  · exact noted copy old key

theorem save_noted (ledger : Ledger) (stages : List Stage) (stage : Stage) (id : Id) (blockers : List Id)
    (same : stage.id = id → stage.blockers = some blockers) (stored : Noted ledger.stages id blockers)
    (copied : Noted stages id blockers) :
    Noted (ledger.save host stage).1.stages id blockers ∧
      Noted (put Stage.id (ledger.save host stage).2 stages) id blockers := by
  have saves := save_saves host ledger stage
  have kept : (ledger.save host stage).2.id = id → (ledger.save host stage).2.blockers = some blockers := by
    intro key
    rw [save_blockers]
    exact same ((fixed_id _ _ saves.alike.1).symm.trans key)
  refine ⟨?_, put_noted stages _ id blockers copied kept⟩
  rw [saves.stages]
  exact put_noted _ _ id blockers stored kept

theorem bypass_noted (older : List Stage) (ledger after : Ledger) (stages copies : List Stage) (id : Id)
    (blockers : List Id) (noted : Noted older id blockers) (stored : Noted ledger.stages id blockers)
    (copied : Noted stages id blockers) (done : older.foldlM (bypass host) (ledger, stages) = .ok (after, copies)) :
    Noted after.stages id blockers ∧ Noted copies id blockers := by
  induction older generalizing ledger stages with
  | nil =>
      cases done
      exact ⟨stored, copied⟩
  | cons copy rest ih =>
      rw [List.foldlM_cons, bind_ok_iff] at done
      obtain ⟨_, first, later⟩ := done
      obtain ⟨count, _, rfl⟩ := bypass_ok host ledger stages copy _ first
      have same : copy.id = id → copy.blockers = some blockers := noted copy List.mem_cons_self
      obtain ⟨next, memory⟩ := save_noted host ledger stages { copy with bypassCount := some count } id blockers same
        stored copied
      exact ih _ _ (fun other listed => noted other (List.mem_cons_of_mem _ listed)) next memory later

variable (setting : Setting)

theorem grant_noted (before after : Pass) (stage : Stage) (chosen : Allocation)
    (done : grant host setting before stage chosen = .ok after) (id : Id) (different : stage.id ≠ id)
    (blockers : List Id) (stored : Noted before.ledger.stages id blockers) (copied : Noted before.stages id blockers) :
    Noted after.ledger.stages id blockers ∧ Noted after.stages id blockers := by
  simp only [grant, bind_ok_iff, pure_ok, Except.ok.injEq] at done
  obtain ⟨known, _, _, _, ⟨final, copies⟩, passed, rfl⟩ := done
  obtain ⟨next, memory⟩ := save_noted host (((Ledger.newToken host before.ledger).1.newToken host).1.now host).1
    before.stages (stage.take chosen known (Ledger.newToken host before.ledger).2
      ((Ledger.newToken host before.ledger).1.newToken host).2
      (((Ledger.newToken host before.ledger).1.newToken host).1.now host).2)
    id blockers (fun same => absurd same different) stored copied
  exact bypass_noted host _ _ final _ copies id blockers
    (fun copy listed => memory copy (List.mem_filter.mp listed).1) next memory passed

theorem hold_noted (before after : Pass) (stage : Stage) (leaves : List Name)
    (done : hold host setting before stage leaves = .ok after) (id : Id) (different : stage.id ≠ id)
    (blockers : List Id) (stored : Noted before.ledger.stages id blockers) (copied : Noted before.stages id blockers) :
    Noted after.ledger.stages id blockers ∧ Noted after.stages id blockers := by
  simp only [hold, bind_ok_iff, pure_ok, Except.ok.injEq] at done
  obtain ⟨candidate, _, reason, _, found, _, rfl⟩ := done
  exact save_noted host before.ledger before.stages (stage.wait candidate reason found) id blockers
    (fun same => absurd same different) stored copied

theorem put_notes (stages : List Stage) (row : Stage) (blockers : List Id) (kept : row.blockers = some blockers) :
    Noted (put Stage.id row stages) row.id blockers := by
  intro copy listed key
  rcases (mem_put Stage.id row stages copy).mp listed with rfl | ⟨_, different⟩
  · exact kept
  · exact absurd key different

theorem hold_notes (before after : Pass) (stage : Stage) (leaves : List Name)
    (done : hold host setting before stage leaves = .ok after) :
    ∃ blockers, blockersOf setting.registry stage.needs before.active = .ok blockers ∧
        Noted after.ledger.stages stage.id blockers ∧ Noted after.stages stage.id blockers := by
  simp only [hold, bind_ok_iff, pure_ok, Except.ok.injEq] at done
  obtain ⟨candidate, _, reason, _, blockers, found, rfl⟩ := done
  refine ⟨blockers, found, ?_⟩
  have saves := save_saves host before.ledger (stage.wait candidate reason blockers)
  have key : (before.ledger.save host (stage.wait candidate reason blockers)).2.id = stage.id :=
    fixed_id _ _ saves.alike.1
  have kept := save_blockers host before.ledger (stage.wait candidate reason blockers)
  refine ⟨?_, key ▸ put_notes before.stages _ blockers kept⟩
  simp only [saves.stages]
  exact key ▸ put_notes before.ledger.stages _ blockers kept

theorem visit_cases (before after : Pass) (stage : Stage)
    (done : visit host setting before stage = .ok after) :
    (∃ chosen, grant host setting before stage chosen = .ok after) ∨
      ∃ leaves, hold host setting before stage leaves = .ok after := by
  simp only [visit, bind_ok_iff] at done
  obtain ⟨leaves, _, found, _, rest⟩ := done
  cases found with
  | some chosen => exact .inl ⟨chosen, rest⟩
  | none => exact .inr ⟨leaves, rest⟩

theorem visits_noted (stages : List Stage) (before after : Pass)
    (done : stages.foldlM (visit host setting) before = .ok after) (id : Id) (different : id ∉ stages.map Stage.id)
    (blockers : List Id) (stored : Noted before.ledger.stages id blockers) (copied : Noted before.stages id blockers) :
    Noted after.ledger.stages id blockers ∧ Noted after.stages id blockers := by
  refine foldlM_ok_inv (visit host setting)
    (fun pass => Noted pass.ledger.stages id blockers ∧ Noted pass.stages id blockers) stages before after
    ⟨stored, copied⟩ ?_ done
  rintro pass stage listed next ⟨row, memory⟩ step
  have other : stage.id ≠ id := fun same => different (same ▸ List.mem_map_of_mem listed)
  rcases visit_cases host setting pass next stage step with ⟨chosen, granted⟩ | ⟨leaves, held⟩
  · exact grant_noted host setting pass next stage chosen granted id other blockers row memory
  · exact hold_noted host setting pass next stage leaves held id other blockers row memory

def Turn.grant (turn : Turn) : Option (Id × Allocation) :=
  turn.chosen.map (Prod.mk turn.stage.id)

theorem rehearse_active (pass : Pass) (stage : Stage) :
    (pass.rehearse setting stage).active.map Stage.tag =
      pass.active.map Stage.tag ++ (pass.turn setting stage).grant.toList := by
  unfold Pass.rehearse Turn.grant Pass.turn
  cases pass.chosen setting stage with
  | none => simp
  | some allocation => simp [Stage.tag]

theorem turns_owners (ready : List Stage) (pass : Pass) (front back : List Turn) (turn : Turn)
    (split : pass.turns setting ready = front ++ turn :: back) :
    turn.owners = pass.active.map Stage.tag ++ front.filterMap Turn.grant := by
  induction ready generalizing pass front with
  | nil => simp [Pass.turns] at split
  | cons stage rest ih =>
      rw [Pass.turns] at split
      cases front with
      | nil =>
          obtain ⟨rfl, _⟩ := List.cons.inj split
          simp [Pass.turn]
      | cons first others =>
          obtain ⟨rfl, further⟩ := List.cons.inj split
          rw [ih _ others further, rehearse_active, List.append_assoc]
          cases given : (pass.turn setting stage).grant with
          | none => simp [given]
          | some grant => simp [given]

-- What a call leaves of a refused turn: the owners that its list names.
def Recorded (registry : Registry) (stages : List Stage) (turn : Turn) : Prop :=
  turn.chosen = none → ∃ blockers, Noted stages turn.stage.id blockers ∧ ∀ id,
    id ∈ blockers ↔ ∃ owner ∈ turn.owners, owner.1 = id ∧ Misspelled registry turn.stage.needs owner.2

structure Decided (turn : Turn) (place : Placement) : Prop where
  stage : place.1 = turn.stage
  chosen : turn.chosen = place.2.allocation?

theorem visit_notes (before after rehearsed : Pass) (stage row : Stage) (verdict : Verdict)
    (mirrors : Mirrors rehearsed before) (demandable : Demandable setting.registry stage.needs)
    (visited : Visit setting before stage verdict row after) (done : visit host setting before stage = .ok after)
    (refused : (rehearsed.turn setting stage).chosen = none) :
    ∃ blockers, (Noted after.ledger.stages stage.id blockers ∧ Noted after.stages stage.id blockers) ∧ ∀ id,
      id ∈ blockers ↔ ∃ owner ∈ (rehearsed.turn setting stage).owners,
        owner.1 = id ∧ Misspelled setting.registry stage.needs owner.2 := by
  obtain ⟨chosen, _⟩ := mirrors_visit setting rehearsed before mirrors stage row verdict after visited
  obtain ⟨leaves, demanded, choice, _⟩ := visited.decided
  rw [← chosen, show rehearsed.chosen setting stage = none from refused] at choice
  simp only [visit, demanded, choice, bind_ok] at done
  obtain ⟨blockers, found, kept⟩ := hold_notes host setting before after stage leaves done
  refine ⟨blockers, kept, fun id => ?_⟩
  rw [blockers_of_mem setting.registry stage.needs demandable before.active blockers found id]
  simp only [Pass.turn, ← mirrors.active, List.mem_map, exists_exists_and_eq_and, Stage.tag]

variable (unavailable : List Name)

theorem visits_recorded (before base : Ledger) (opened : List Stage) (consistent : Consistent host before)
    (started : Started unavailable before base opened) (ready : List Stage) (placements : List Placement)
    (rehearsed pass after : Pass) (mirrors : Mirrors rehearsed pass)
    (progress : Progress before.setting before.owners base opened placements pass)
    (listed : ∀ stage ∈ ready, stage ∈ (opened.filter Stage.ready).insertionSort readyOrder)
    (fresh : (placements.map placeId ++ ready.map Stage.id).Nodup)
    (done : ready.foldlM (visit host before.setting) pass = .ok after) :
    ∃ more, List.Forall₂ Decided (rehearsed.turns before.setting ready) more ∧ more.map Prod.fst = ready ∧
      Progress before.setting before.owners base opened (placements ++ more) after ∧
      ∀ turn ∈ rehearsed.turns before.setting ready, Recorded before.registry after.ledger.stages turn := by
  induction ready generalizing placements rehearsed pass with
  | nil =>
      cases done
      exact ⟨[], .nil, rfl, by simpa using progress, fun turn inside => absurd inside List.not_mem_nil⟩
  | cons stage rest ih =>
      rw [List.foldlM_cons, bind_ok_iff] at done
      obtain ⟨middle, first, later⟩ := done
      have here := listed stage List.mem_cons_self
      obtain ⟨_, tail, apart⟩ := List.nodup_append.mp fresh
      have unseen : stage.id ∉ placements.map placeId := fun seen => apart stage.id seen stage.id (by simp) rfl
      have once : stage.id ∉ rest.map Stage.id := (List.nodup_cons.mp tail).1
      obtain ⟨demandable, complete⟩ := ready_demandable host unavailable before base opened consistent
        started stage here
      obtain ⟨verdict, row, visited, further⟩ := progress_visit host before.setting consistent.normalized before.owners
        base opened placements pass middle stage progress started.distinct started.known
        ((mem_ready opened stage).mp here).1 unseen demandable complete first
      obtain ⟨chosen, follows⟩ := mirrors_visit before.setting rehearsed pass mirrors stage row verdict middle visited
      obtain ⟨more, decided, names, finished, recorded⟩ := ih (placements ++ [(stage, verdict)]) _
        middle follows further
        (fun other member => listed other (List.mem_cons_of_mem _ member)) (by simpa [placeId] using fresh) later
      refine ⟨(stage, verdict) :: more, .cons ⟨rfl, chosen⟩ decided, by rw [List.map_cons, names],
        by simpa using finished, ?_⟩
      rw [Pass.turns, List.forall_mem_cons]
      refine ⟨fun refused => ?_, recorded⟩
      obtain ⟨blockers, ⟨stored, copied⟩, exactly⟩ :=
        visit_notes host before.setting pass middle rehearsed stage row verdict mirrors demandable visited first refused
      exact ⟨blockers, (visits_noted host before.setting rest middle after later stage.id once blockers
        stored copied).1,
        exactly⟩

theorem schedule_turns (unavailable : List Name) (before after : Ledger) (granted : List Stage)
    (consistent : Consistent host before)
    (done : before.schedule host unavailable = .ok (after, granted)) :
    ∃ opened placements, Scheduled unavailable before opened placements after granted ∧
      List.Forall₂ Decided (before.turns host unavailable) placements ∧
      ∀ turn ∈ before.turns host unavailable, Recorded before.registry after.stages turn := by
  obtain ⟨base, opened, gated, started⟩ := gate_started host unavailable before consistent.ids
  simp only [Ledger.schedule, gated, bind_ok_iff, pure_ok, Except.ok.injEq] at done
  obtain ⟨pass, visited, _, delivered, rfl, rfl⟩ := done
  obtain ⟨placements, decided, order, progress, recorded⟩ := visits_recorded host unavailable before base opened
    consistent started ((opened.filter Stage.ready).insertionSort readyOrder) [] _ _ pass (Mirrors.refl _)
    started.start (fun _ listed => listed)
    (by
      rw [List.map_nil, List.nil_append]
      exact ready_distinct opened started.distinct) visited
  rw [List.nil_append] at progress
  simp only [Ledger.turns, Ledger.line, gated]
  refine ⟨opened, placements,
    progress_scheduled unavailable before base _ opened placements pass consistent.ids started order progress delivered,
    decided, fun turn inside refused => ?_⟩
  obtain ⟨blockers, noted, exactly⟩ := recorded turn inside refused
  exact ⟨blockers, (outcomes_stands _ _ _ delivered).stages ▸ noted, exactly⟩

-- The characters of the needed names stand for their leaves: a refused stage
-- reads as blocked by an owner at its turn exactly where it is, and nothing that
-- is granted after its turn blocks it.
def Legible (host : Host) (unavailable : List Name) (ledger : Ledger) : Prop :=
  (∀ turn ∈ ledger.turns host unavailable, turn.chosen = none → ∀ owner ∈ turn.owners,
    (Misspelled ledger.registry turn.stage.needs owner.2 ↔ Incompatible ledger.registry turn.stage.needs owner.2)) ∧
  (ledger.turns host unavailable).Pairwise fun turn later => turn.chosen = none → ∀ allocation ∈ later.chosen,
    ¬ Incompatible ledger.registry turn.stage.needs allocation

instance (host : Host) (unavailable : List Name) (ledger : Ledger) : Decidable (Legible host unavailable ledger) := by
  unfold Legible
  infer_instance

theorem pairwise_splits {α : Type} (relation : α → α → Prop) (entries : List α) :
    entries.Pairwise relation ↔
      ∀ front entry back, entries = front ++ entry :: back → ∀ later ∈ back, relation entry later := by
  constructor
  · rintro pairwise front entry back rfl
    exact (List.pairwise_cons.mp (List.pairwise_append.mp pairwise).2.1).1
  · intro splits
    induction entries with
    | nil => exact .nil
    | cons head tail ih =>
        refine .cons (splits [] head tail rfl) (ih fun front entry back split => ?_)
        exact splits (head :: front) entry back (by rw [split, List.cons_append])

theorem legible_iff (unavailable : List Name) (ledger : Ledger) :
    Legible host unavailable ledger ↔
      ∀ front turn back, ledger.turns host unavailable = front ++ turn :: back → turn.chosen = none →
        (∀ owner ∈ turn.owners, (Misspelled ledger.registry turn.stage.needs owner.2 ↔
          Incompatible ledger.registry turn.stage.needs owner.2)) ∧
        ∀ owner ∈ back.filterMap Turn.grant, ¬ Incompatible ledger.registry turn.stage.needs owner.2 := by
  rw [Legible, pairwise_splits]
  have later : ∀ (turn : Turn) (back : List Turn),
      (∀ owner ∈ back.filterMap Turn.grant, ¬ Incompatible ledger.registry turn.stage.needs owner.2) ↔
        ∀ other ∈ back, ∀ allocation ∈ other.chosen, ¬ Incompatible ledger.registry turn.stage.needs allocation := by
    intro turn back
    simp only [List.mem_filterMap, Turn.grant, Option.map_eq_some_iff]
    constructor
    · exact fun none_ other listed allocation given => none_ _ ⟨other, listed, allocation, given, rfl⟩
    · rintro none_ _ ⟨other, listed, allocation, given, rfl⟩
      exact none_ other listed allocation given
  simp only [later]
  constructor
  · rintro ⟨owned, behind⟩ front turn back split refused
    have inside : turn ∈ ledger.turns host unavailable := split ▸ List.mem_append_right _ List.mem_cons_self
    exact ⟨owned turn inside refused, fun other listed => behind front turn back split other listed refused⟩
  · intro splits
    refine ⟨fun turn inside refused => ?_, fun front turn back split other listed refused =>
      (splits front turn back split refused).2 other listed⟩
    obtain ⟨front, back, split⟩ := List.append_of_mem inside
    exact (splits front turn back split refused).1

theorem reads_iff (owners later : List (Id × Allocation)) (distinct : ((owners ++ later).map Prod.fst).Nodup)
    (misread real : Allocation → Prop) :
    (∀ id, (∃ owner ∈ owners, owner.1 = id ∧ misread owner.2) ↔
        ∃ owner ∈ owners ++ later, owner.1 = id ∧ real owner.2) ↔
      (∀ owner ∈ owners, (misread owner.2 ↔ real owner.2)) ∧ ∀ owner ∈ later, ¬ real owner.2 := by
  constructor
  · intro reads
    have alone : ∀ owner ∈ owners ++ later, ∀ other ∈ owners ++ later, other.1 = owner.1 → other = owner :=
      fun owner listed other also same => row_unique Prod.fst (owners ++ later) distinct other owner also listed same
    refine ⟨fun owner listed => ⟨fun bad => ?_, fun blocks => ?_⟩, fun owner listed blocks => ?_⟩
    · obtain ⟨other, also, same, holds⟩ := (reads owner.1).mp ⟨owner, listed, rfl, bad⟩
      exact alone owner (List.mem_append_left _ listed) other also same ▸ holds
    · obtain ⟨other, also, same, holds⟩ := (reads owner.1).mpr ⟨owner, List.mem_append_left _ listed, rfl, blocks⟩
      exact alone owner (List.mem_append_left _ listed) other (List.mem_append_left _ also) same ▸ holds
    · obtain ⟨other, also, same, _⟩ := (reads owner.1).mpr ⟨owner, List.mem_append_right _ listed, rfl, blocks⟩
      rw [List.map_append, List.nodup_append] at distinct
      exact distinct.2.2 _ (List.mem_map_of_mem also) _ (List.mem_map_of_mem listed) same
  · rintro ⟨owned, behind⟩ id
    constructor
    · rintro ⟨owner, listed, same, bad⟩
      exact ⟨owner, List.mem_append_left _ listed, same, (owned owner listed).mp bad⟩
    · rintro ⟨owner, listed, same, blocks⟩
      rcases List.mem_append.mp listed with here | behind_
      · exact ⟨owner, here, same, (owned owner here).mpr blocks⟩
      · exact absurd blocks (behind owner behind_)

variable {unavailable : List Name} {before after : Ledger} {granted : List Stage} {opened : List Stage}
  {placements : List Placement}

theorem owners_tagged (ledger : Ledger) :
    ledger.owners.map Stage.tag = tagged Stage.id Stage.owned ledger.stages := by
  unfold Ledger.owners tagged
  induction ledger.stages with
  | nil => rfl
  | cons stage rest ih => by_cases owner : stage.owning = true <;> simp_all [Stage.owned, Stage.tag]

theorem decided_tagged (turns : List Turn) (placements : List Placement)
    (decided : List.Forall₂ Decided turns placements) :
    turns.filterMap Turn.grant = tagged placeId (fun place => place.2.allocation?) placements := by
  unfold tagged
  induction decided with
  | nil => rfl
  | cons head _ ih =>
      have same : Turn.grant _ = _ := congrArg (Option.map (Prod.mk _)) head.chosen
      rw [List.filterMap_cons, List.filterMap_cons, ih, same, placeId, head.stage]

theorem owners_after (unique : (stageIds before).Nodup)
    (scheduled : Scheduled unavailable before opened placements after granted) (turns : List Turn)
    (decided : List.Forall₂ Decided turns placements) :
    (after.owners.map Stage.tag).Perm (before.owners.map Stage.tag ++ turns.filterMap Turn.grant) := by
  rw [owners_tagged, owners_tagged, decided_tagged turns placements decided]
  exact scheduled_tags unique scheduled

theorem owners_distinct (ledger : Ledger) (unique : (stageIds ledger).Nodup) :
    ((ledger.owners.map Stage.tag).map Prod.fst).Nodup := by
  rw [owners_tagged]
  exact (tagged_keys _ _ _).nodup unique

theorem refused_real (consistent : Consistent host before)
    (scheduled : Scheduled unavailable before opened placements after granted)
    (decided : List.Forall₂ Decided (before.turns host unavailable) placements) (front back : List Turn) (turn : Turn)
    (split : before.turns host unavailable = front ++ turn :: back) (refused : turn.chosen = none)
    (recorded : Recorded before.registry after.stages turn) (row : Stage) (present : row ∈ after.stages)
    (fixed : row.fixed = turn.stage.fixed) :
    (∃ blockers, row.blockers = some blockers ∧ ∀ id, id ∈ blockers ↔ ∃ owner ∈ after.owners, owner.id = id ∧
      Incompatible after.registry row.needs owner.allocation) ↔
    (∀ owner ∈ turn.owners, (Misspelled before.registry turn.stage.needs owner.2 ↔
      Incompatible before.registry turn.stage.needs owner.2)) ∧
    ∀ owner ∈ back.filterMap Turn.grant, ¬ Incompatible before.registry turn.stage.needs owner.2 := by
  obtain ⟨blockers, noted, exactly⟩ := recorded refused
  have needs : row.needs = turn.stage.needs := congrArg Fixed.needs fixed
  have kept : row.blockers = some blockers := noted row present (fixed_id _ _ fixed)
  have owned : turn.owners = before.owners.map Stage.tag ++ front.filterMap Turn.grant := by
    obtain ⟨base, _, gated, _⟩ := gate_started host unavailable before consistent.ids
    rw [Ledger.turns] at split
    rw [turns_owners before.setting _ _ front back turn split, gated]
  have owners : (after.owners.map Stage.tag).Perm (turn.owners ++ back.filterMap Turn.grant) := by
    have perm := owners_after consistent.ids scheduled _ decided
    rw [split, List.filterMap_append, List.filterMap_cons, Turn.grant, refused] at perm
    rwa [owned, List.append_assoc]
  have distinct : ((turn.owners ++ back.filterMap Turn.grant).map Prod.fst).Nodup :=
    (owners.map Prod.fst).nodup_iff.mp (owners_distinct after (scheduled_ids consistent.ids scheduled))
  rw [← reads_iff turn.owners (back.filterMap Turn.grant) distinct, kept, scheduled.registry, needs]
  have ends : ∀ id, (∃ owner ∈ after.owners, owner.id = id ∧ Incompatible before.registry turn.stage.needs
    owner.allocation) ↔
      ∃ owner ∈ turn.owners ++ back.filterMap Turn.grant, owner.1 = id ∧
        Incompatible before.registry turn.stage.needs owner.2 := by
    intro id
    simp only [← owners.mem_iff, List.mem_map, exists_exists_and_eq_and, Stage.tag]
  simp only [Option.some.injEq, exists_eq_left', exactly, ends]

theorem blockers_legible (unavailable : List Name) (before after : Ledger) (granted : List Stage)
    (consistent : Consistent host before) (done : before.schedule host unavailable = .ok (after, granted)) :
    BlockersReal after ↔ Legible host unavailable before := by
  obtain ⟨opened, placements, scheduled, decided, recorded⟩ :=
    schedule_turns host unavailable before after granted consistent done
  rw [legible_iff]
  constructor
  · intro real front turn back split refused
    have inside : turn ∈ before.turns host unavailable := split ▸ List.mem_append_right _ List.mem_cons_self
    obtain ⟨⟨stage, verdict⟩, listed, same, chosen⟩ := forall₂_mem_left _ _ _ decided turn inside
    obtain ⟨row, present, fixed, core⟩ := placement_lands consistent.ids scheduled stage verdict listed
    simp only at same
    subst same
    cases verdict with
    | granted allocation token => cases refused.symm.trans chosen
    | held candidate =>
        have ready := held_ready turn.stage row candidate (placement_opened scheduled _ _ listed).2 core
        exact (refused_real host consistent scheduled decided front back turn split refused (recorded turn inside) row
          present fixed).mp (real row present ready)
  · intro legible row present ready
    obtain ⟨stage, candidate, listed, fixed, _, _⟩ := ready_held consistent.ids scheduled row present ready
    obtain ⟨turn, inside, same, chosen⟩ := forall₂_mem_right _ _ _ decided _ listed
    simp only at same
    subst same
    obtain ⟨front, back, split⟩ := List.append_of_mem inside
    exact (refused_real host consistent scheduled decided front back turn split chosen (recorded turn inside) row
      present fixed).mpr (legible front turn back split chosen)

theorem blockers_real (host : Host) (calls : List Call) (unavailable : List Name) (after : Ledger)
    (granted : List Stage) (done : (run host calls).schedule host unavailable = .ok (after, granted)) :
    BlockersReal after ↔ Legible host unavailable (run host calls) :=
  blockers_legible host unavailable _ after granted (run_consistent host calls) done

def lettered : List Call :=
  let plan : Plan := { stages := [{ id := "train", needs := some [{ resource := some "g" }] }] }
  [.configure (Dict.single "g" { release := some .process }), .submit "lab" "first" plan none,
    .submit "lab" "second" plan none]

theorem blockers_real_lettered :
    ∃ after granted, (run countingHost lettered).schedule countingHost [] = .ok (after, granted) ∧
      after.stages.any Stage.ready = true ∧ BlockersReal after := by
  obtain ⟨⟨after, granted⟩, done, waits⟩ := ok_of_check
    ((run countingHost lettered).schedule countingHost []) (fun result => result.1.stages.any Stage.ready)
    (by decide +kernel)
  exact ⟨after, granted, done, waits, (blockers_real countingHost lettered [] after granted done).mpr
    (by decide +kernel)⟩

theorem contended_blocker_missed :
    ∃ after granted, (run countingHost contended).schedule countingHost [] = .ok (after, granted) ∧
      ¬ BlockersReal after := by
  obtain ⟨⟨after, granted⟩, done, missed⟩ := ok_of_check ((run countingHost contended).schedule countingHost [])
    (fun result => result.1.stages.any fun stage => stage.ready && decide (stage.blockers = some []) &&
      result.1.owners.any fun owner => decide (Incompatible result.1.registry stage.needs owner.allocation))
    (by decide +kernel)
  refine ⟨after, granted, done, fun real => ?_⟩
  simp only [List.any_eq_true, Bool.and_eq_true, decide_eq_true_eq] at missed
  obtain ⟨stage, listed, ⟨ready, nothing⟩, owner, owns, blocks⟩ := missed
  obtain ⟨blockers, recorded, exactly⟩ := real stage listed ready
  cases nothing.symm.trans recorded
  exact List.not_mem_nil ((exactly owner.id).mpr ⟨owner, owns, rfl, blocks⟩)

end OrchestratorEngine.ResourceQueue
