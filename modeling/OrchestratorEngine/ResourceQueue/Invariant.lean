import OrchestratorEngine.ResourceQueue.Landings

set_option autoImplicit false

namespace OrchestratorEngine.ResourceQueue

open Foundation

structure Consistent (host : Host) (ledger : Ledger) : Prop extends Numbered host ledger where
  normalized : Normalized ledger.registry
  stored : canonical ledger.registry = ledger.registry
  requestIds : (ledger.requests.map Request.id).Nodup
  requestDrawn : ∀ request ∈ ledger.requests, ∃ draw, draw < ledger.draws ∧ request.id = host.uuid draw
  requested : ∀ stage ∈ ledger.stages, stage.request ∈ ledger.requests.map Request.id
  demandable : ∀ stage ∈ ledger.stages, stage.state = .waiting → Demandable ledger.registry stage.needs
  idle : ∀ stage ∈ ledger.stages, stage.owning = false → stage.allocation = Dict.empty
  leaves : ∀ stage ∈ ledger.stages, LeavesOnly ledger.registry stage.allocation
  fits : Fits (leafCapacity ledger.registry) (ledger.stages.map (fun stage => stage.allocation))
  guarded : ∀ stage ∈ ledger.stages, ∀ allocation, stage.protection = some allocation → stage.state = .waiting
  whole : ∀ stage ∈ ledger.stages, ∀ allocation, stage.protection = some allocation →
    CompleteAssignment ledger.registry stage.needs allocation
  shielded : Fits (leafCapacity ledger.registry) (ledger.stages.filterMap (fun stage => stage.protection))

theorem empty_normalized : Normalized Dict.empty :=
  ⟨⟨fun name entry known => by cases known⟩, fun name entry known => by cases known⟩

variable (host : Host)

theorem create_consistent : Consistent host Ledger.create where
  ids := List.nodup_nil
  drawn := fun stage listed => by cases listed
  order := .nil
  bound := fun stage listed => by cases listed
  normalized := empty_normalized
  stored := rfl
  requestIds := List.nodup_nil
  requestDrawn := fun request listed => by cases listed
  requested := fun stage listed => by cases listed
  demandable := fun stage listed => by cases listed
  idle := fun stage listed => by cases listed
  leaves := fun stage listed => by cases listed
  fits := fits_nil _
  guarded := fun stage listed => by cases listed
  whole := fun stage listed => by cases listed
  shielded := fits_nil _

theorem walkable_same (first second : Registry) (same : Dict.Same first second) (fuel : Nat) (name : Name)
    (trail : List Name) (walk : Walkable first fuel name trail) : Walkable second fuel name trail := by
  induction fuel generalizing name trail with
  | zero => exact walk
  | succ fuel ih =>
      obtain ⟨fresh, entry, known, members⟩ := walk
      exact ⟨fresh, entry, (same name).symm.trans known, fun selector member listed =>
        ih member (trail ++ [name]) (members selector member listed)⟩

theorem normalized_same (first second : Registry) (same : Dict.Same first second) (normalized : Normalized first) :
    Normalized second := by
  have length : depth first = depth second := congrArg Nat.succ (Dict.same_items_perm first second same).length_eq
  refine ⟨⟨fun name entry known => ?_⟩, fun name entry known => normalized.normal name entry ((same name).trans known)⟩
  exact length ▸ walkable_same first second same _ name [] (normalized.walk name entry ((same name).trans known))

theorem canonical_same (registry : Registry) : Dict.Same registry (canonical registry) :=
  fun name => (Dict.get_sorted registry name).symm

structure Keep (before after : Core) : Prop where
  state : after.state = .waiting → before.state = .waiting
  within : Within after.allocation before.allocation
  protection : after.protection = before.protection ∨ after.protection = none

variable (stage : Stage)

theorem move_keep (call : Call) (core : Core) (move : Move stage call core)
    (other : ∀ unavailable, call ≠ .schedule unavailable) : Keep stage.core core := by
  cases move with
  | stay => exact ⟨id, Within.refl _, .inl rfl⟩
  | wait unavailable => exact absurd rfl (other unavailable)
  | skip unavailable => exact absurd rfl (other unavailable)
  | grant unavailable => exact absurd rfl (other unavailable)
  | launch identity state => exact ⟨fun wrong => (by cases wrong), Within.refl _, .inl rfl⟩
  | admitStage token state allowed => exact ⟨fun wrong => (by cases wrong), Within.refl _, .inl rfl⟩
  | withdraw state => exact ⟨fun wrong => (by cases wrong), Within.refl _, .inr rfl⟩
  | revoke owner => exact ⟨id, Within.refl _, .inl rfl⟩
  | complete call outcome released owner completes =>
      refine ⟨fun wrong => ?_, without_within _ _, .inl rfl⟩
      have final : outcome ∈ terminalStates := by
        cases completes with
        | finish _ _ _ final => exact final
        | recover _ _ _ final => exact final
        | abort _ _ _ _ outcomes => rcases outcomes with rfl | rfl <;> decide
      simp only [Core.complete] at wrong
      split at wrong
      · subst wrong
        exact absurd final (by decide)
      · cases wrong

theorem owning_state : stage.owning = decide (stage.core.state ∈ owningStates) := rfl

theorem move_idle (call : Call) (row : Stage) (move : Move stage call row.core)
    (other : ∀ unavailable, call ≠ .schedule unavailable)
    (idle : stage.owning = false → stage.allocation = Dict.empty) (released : row.owning = false) :
    row.allocation = Dict.empty := by
  rw [owning_state] at released
  change row.core.allocation = Dict.empty
  generalize row.core = core at move released
  cases move with
  | stay => exact idle released
  | wait unavailable => exact absurd rfl (other unavailable)
  | skip unavailable => exact absurd rfl (other unavailable)
  | grant unavailable => exact absurd rfl (other unavailable)
  | launch identity state => simp [owningStates] at released
  | admitStage token state allowed => simp [owningStates] at released
  | withdraw state => exact idle (waiting_not_owning stage state)
  | revoke owner => exact absurd released (by simpa [owning_state] using owner)
  | complete call outcome removed owner completes =>
      by_cases nothing : (stage.core.allocation.without removed).items = []
      · exact (Dict.eq_empty_iff _).mpr ((Dict.items_nil_iff _).mp nothing)
      · simp [Core.complete, nothing, owningStates] at released

theorem keep_protections (before after : List Stage)
    (kept : List.Forall₂ (fun old new => new.protection = old.protection ∨ new.protection = none) before after) :
    (after.filterMap (fun stage => stage.protection)).Sublist (before.filterMap (fun stage => stage.protection)) := by
  induction kept with
  | nil => exact List.Sublist.slnil
  | cons head _ ih =>
      rename_i old new before after _
      rcases head with same | gone
      · cases found : old.protection with
        | none => simpa [same, found] using ih
        | some allocation => simpa [same, found] using ih
      · cases found : old.protection with
        | none => simpa [gone, found] using ih
        | some allocation => simpa [gone, found] using List.Sublist.cons allocation ih

variable (before after : Ledger)

theorem moves_numbered (numbered : Numbered host before)
    (draws : before.draws ≤ after.draws) (sequence : before.sequence ≤ after.sequence)
    (fixed : List.Forall₂ (fun old new => new.fixed = old.fixed) before.stages after.stages) : Numbered host after := by
  have ids : stageIds after = stageIds before := forall₂_keys Stage.id _ _ _ (fun _ _ same => fixed_id _ _ same) fixed
  have seqs : after.stages.map Stage.seq = before.stages.map Stage.seq :=
    forall₂_keys Stage.seq _ _ _ (fun _ _ same => congrArg Fixed.seq same) fixed
  refine ⟨ids ▸ numbered.ids, fun row present => ?_, seqs ▸ numbered.order, fun row present => ?_⟩
  · obtain ⟨old, stored, same⟩ := forall₂_mem_right _ _ _ fixed row present
    obtain ⟨draw, early, drawn⟩ := numbered.drawn old stored
    exact ⟨draw, Nat.lt_of_lt_of_le early draws, (fixed_id _ _ same).trans drawn⟩
  · obtain ⟨old, stored, same⟩ := forall₂_mem_right _ _ _ fixed row present
    have seq : row.seq = old.seq := congrArg Fixed.seq same
    exact seq ▸ Nat.le_trans (numbered.bound old stored) sequence

theorem moved_consistent (call : Call) (before after : Ledger) (consistent : Consistent host before)
    (keeps : Keeps before after) (moves : List.Forall₂ (Moves call) before.stages after.stages)
    (other : ∀ unavailable, call ≠ .schedule unavailable) : Consistent host after := by
  have fixed := moves.imp fun _ _ both => both.1
  have back : ∀ row ∈ after.stages, ∃ old ∈ before.stages, row.fixed = old.fixed ∧ Move old call row.core :=
    fun row present => forall₂_mem_right _ _ _ moves row present
  refine Consistent.mk (moves_numbered host before after consistent.toNumbered keeps.draws keeps.sequence fixed)
    ?normalized ?stored ?requestIds ?requestDrawn ?requested ?demandable ?idle ?leaves ?fits ?guarded ?whole ?shielded
  case normalized => rw [keeps.registry]; exact consistent.normalized
  case stored => rw [keeps.registry]; exact consistent.stored
  case requestIds => rw [keeps.requests]; exact consistent.requestIds
  case requestDrawn =>
    rw [keeps.requests]
    intro request listed
    obtain ⟨draw, early, drawn⟩ := consistent.requestDrawn request listed
    exact ⟨draw, Nat.lt_of_lt_of_le early keeps.draws, drawn⟩
  case requested =>
    intro row present
    obtain ⟨old, stored, same, _⟩ := back row present
    have request : row.request = old.request := congrArg Fixed.request same
    rw [keeps.requests, request]
    exact consistent.requested old stored
  case demandable =>
    intro row present waiting
    obtain ⟨old, stored, same, move⟩ := back row present
    have needs : row.needs = old.needs := congrArg Fixed.needs same
    rw [keeps.registry, needs]
    exact consistent.demandable old stored ((move_keep old call row.core move other).state waiting)
  case idle =>
    intro row present released
    obtain ⟨old, stored, _, move⟩ := back row present
    exact move_idle old call row move other (consistent.idle old stored) released
  case leaves =>
    intro row present leaf claim found
    obtain ⟨old, stored, _, move⟩ := back row present
    obtain ⟨larger, held, _⟩ := (move_keep old call row.core move other).within leaf claim found
    rw [keeps.registry]
    exact consistent.leaves old stored leaf larger held
  case fits =>
    rw [keeps.registry]
    refine fits_within _ _ _ ?_ consistent.fits
    refine List.forall₂_map_left_iff.mpr (List.forall₂_map_right_iff.mpr (moves.flip.imp fun row old both => ?_))
    exact (move_keep old call row.core both.2 other).within
  case guarded =>
    intro row present allocation shield
    obtain ⟨old, stored, _, move⟩ := back row present
    have held : old.protection = some allocation := by
      rcases (move_keep old call row.core move other).protection with same | gone
      · exact same.symm.trans shield
      · exact absurd (gone.symm.trans shield) (by simp)
    have waiting := consistent.guarded old stored allocation held
    have notOwner : old.owning = true → False := fun owner => by
      rw [waiting_not_owning old waiting] at owner
      cases owner
    generalize same : row.core = core at move
    have state : row.state = core.state := congrArg Core.state same
    have protection : row.protection = core.protection := congrArg Core.protection same
    cases move with
    | stay => exact state.trans waiting
    | wait unavailable => exact absurd rfl (other unavailable)
    | skip unavailable => exact absurd rfl (other unavailable)
    | grant unavailable => exact absurd rfl (other unavailable)
    | launch identity granted => exact absurd (waiting.symm.trans granted) (by simp)
    | admitStage token launching _ => exact absurd (waiting.symm.trans launching) (by simp)
    | withdraw _ => exact absurd (protection.symm.trans shield) (by simp)
    | revoke owner => exact (notOwner owner).elim
    | complete _ _ _ owner _ => exact (notOwner owner).elim
  case whole =>
    intro row present allocation shield
    obtain ⟨old, stored, same, move⟩ := back row present
    have needs : row.needs = old.needs := congrArg Fixed.needs same
    rcases (move_keep old call row.core move other).protection with kept | gone
    · rw [keeps.registry, needs]
      exact consistent.whole old stored allocation (kept.symm.trans shield)
    · exact absurd (gone.symm.trans shield) (by simp)
  case shielded =>
    rw [keeps.registry]
    refine fits_sublist _ _ _ (keep_protections _ _ (moves.imp fun old row both => ?_)) consistent.shielded
    exact (move_keep old call row.core both.2 other).protection

theorem owners_claims (stages : List Stage) (leaf : Name)
    (idle : ∀ stage ∈ stages, stage.owning = false → stage.allocation = Dict.empty) :
    claimsOn leaf ((stages.filter Stage.owning).map (fun owner => owner.allocation)) =
      claimsOn leaf (stages.map (fun stage => stage.allocation)) := by
  induction stages with
  | nil => rfl
  | cons stage rest ih =>
      have later := ih fun other listed => idle other (List.mem_cons_of_mem _ listed)
      by_cases owner : stage.owning = true
      · rw [List.filter_cons_of_pos owner, List.map_cons, List.map_cons, claims_on_cons, claims_on_cons, later]
      · have nothing := idle stage List.mem_cons_self (Bool.eq_false_iff.mpr owner)
        rw [List.filter_cons_of_neg owner, List.map_cons, claims_on_cons, nothing, Dict.get_empty, later]
        rfl

theorem owners_fit (capacity : Name → Nat) (ledger : Ledger)
    (idle : ∀ stage ∈ ledger.stages, stage.owning = false → stage.allocation = Dict.empty) :
    Fits capacity (ledger.owners.map (fun owner => owner.allocation)) ↔
      Fits capacity (ledger.stages.map (fun stage => stage.allocation)) := by
  constructor
  · exact fun fits leaf => owners_claims ledger.stages leaf idle ▸ fits leaf
  · exact fun fits leaf => (owners_claims ledger.stages leaf idle).symm ▸ fits leaf

theorem scheduled_consistent (unavailable : List Name) (before after : Ledger) (opened : List Stage)
    (placements : List Placement) (granted : List Stage) (consistent : Consistent host before)
    (scheduled : Scheduled unavailable before opened placements after granted) : Consistent host after := by
  have rows := scheduled_rows consistent.ids scheduled
  have back : ∀ row ∈ after.stages, ∃ old ∈ before.stages, row.fixed = old.fixed ∧
      Landed unavailable placements after old row := fun row present => forall₂_mem_right _ _ _ rows row present
  have sound : ∀ stage verdict, (stage, verdict) ∈ placements → ∃ earlier later,
      placements = earlier ++ (stage, verdict) :: later ∧
      Sound before.setting (before.owners.map (fun owner => owner.allocation) ++ grantedBy earlier) (heldBy earlier)
        stage verdict := fun stage verdict listed => placed_sound _ _ placements scheduled.placed stage verdict listed
  have idle : ∀ row ∈ after.stages, row.owning = false → row.allocation = Dict.empty := by
    intro row present released
    obtain ⟨old, stored, _, landed⟩ := back row present
    have fromWaiting : ∀ waiting : old.state = .waiting, row.allocation = old.allocation →
      row.allocation = Dict.empty :=
      fun waiting same => same.trans (consistent.idle old stored (waiting_not_owning old waiting))
    cases landed with
    | idle _ core =>
        have same : row.allocation = old.allocation := congrArg Core.allocation core
        exact same.trans (consistent.idle old stored ((core_owning row old core).symm.trans released))
    | skipped state _ core => exact fromWaiting state (congrArg Core.allocation core)
    | closed state _ core => exact fromWaiting state (congrArg Core.allocation core)
    | placed state _ stage verdict _ _ number _ opened core =>
        cases verdict with
        | granted allocation token =>
            have now : row.state = .granted := congrArg Core.state core
            simp [Stage.owning, now, owningStates] at released
        | held candidate =>
            exact fromWaiting state ((congrArg Core.allocation core).trans (congrArg Core.allocation opened))
  refine Consistent.mk (moves_numbered host before after consistent.toNumbered scheduled.draws scheduled.sequence
    (rows.imp fun _ _ both => both.1))
    ?normalized ?stored ?requestIds ?requestDrawn ?requested ?demandable idle ?leaves ?fits ?guarded ?whole ?shielded
  case normalized => rw [scheduled.registry]; exact consistent.normalized
  case stored => rw [scheduled.registry]; exact consistent.stored
  case requestIds => rw [scheduled.requests]; exact consistent.requestIds
  case requestDrawn =>
    rw [scheduled.requests]
    intro request listed
    obtain ⟨draw, early, drawn⟩ := consistent.requestDrawn request listed
    exact ⟨draw, Nat.lt_of_lt_of_le early scheduled.draws, drawn⟩
  case requested =>
    intro row present
    obtain ⟨old, stored, same, _⟩ := back row present
    have request : row.request = old.request := congrArg Fixed.request same
    rw [scheduled.requests, request]
    exact consistent.requested old stored
  case demandable =>
    intro row present waiting
    obtain ⟨old, stored, same, landed⟩ := back row present
    have needs : row.needs = old.needs := congrArg Fixed.needs same
    rw [scheduled.registry, needs]
    refine consistent.demandable old stored ?_
    by_contra moved
    cases landed with
    | idle state core => exact state ((core_state row old core).symm.trans waiting)
    | skipped state => exact moved state
    | closed state => exact moved state
    | placed state => exact moved state
  case leaves =>
    intro row present
    obtain ⟨old, stored, same, landed⟩ := back row present
    rw [scheduled.registry]
    have unchanged : row.allocation = old.allocation → LeavesOnly before.registry row.allocation :=
      fun same => same ▸ consistent.leaves old stored
    cases landed with
    | idle _ core => exact unchanged (congrArg Core.allocation core)
    | skipped _ _ core => exact unchanged (congrArg Core.allocation core)
    | closed _ _ core => exact unchanged (congrArg Core.allocation core)
    | placed _ _ stage verdict listed _ _ _ opened core =>
        cases verdict with
        | held candidate => exact unchanged ((congrArg Core.allocation core).trans (congrArg Core.allocation opened))
        | granted allocation token =>
            have now : row.allocation = allocation := congrArg Core.allocation core
            obtain ⟨_, _, _, found⟩ := sound stage _ listed
            cases found with
            | granted _ _ suits => exact now ▸ complete_leaves_only _ _ allocation suits.complete
  case fits =>
    rw [scheduled.registry, ← owners_fit _ after idle]
    refine fits_perm _ _ _ (scheduled_owners consistent.ids scheduled).symm ?_
    exact placed_owned_fit before.setting _ placements scheduled.placed
      ((owners_fit _ before consistent.idle).mpr consistent.fits)
  case guarded =>
    intro row present allocation shield
    obtain ⟨stage, listed, _, core⟩ := scheduled_protected consistent.ids consistent.guarded scheduled row present
      allocation shield
    have state : row.state = stage.state := congrArg Core.state core
    exact state.trans (ready_waiting stage (placement_opened scheduled stage _ listed).2)
  case whole =>
    intro row present allocation shield
    obtain ⟨stage, listed, fixed, _⟩ := scheduled_protected consistent.ids consistent.guarded scheduled row present
      allocation shield
    have needs : row.needs = stage.needs := (congrArg Fixed.needs fixed).symm
    obtain ⟨_, _, _, found⟩ := sound stage _ listed
    rw [scheduled.registry, needs]
    cases found with
    | held _ _ suits _ _ => exact (suits allocation rfl).complete
  case shielded =>
    rw [scheduled.registry]
    refine fits_perm _ _ _ (scheduled_held consistent.ids consistent.guarded scheduled).symm ?_
    exact placed_held_fit before.setting _ placements scheduled.placed

theorem submits_consistent (project external : Name) (plan : Plan) (subscriber : Option Subscriber)
    (before after : Ledger) (id : Id) (consistent : Consistent host before)
    (submits : Submits host project external plan subscriber before after id) : Consistent host after := by
  cases submits with
  | replayed => exact consistent
  | inserted _ _ rows _ _ _ checked inserted =>
      obtain ⟨moment, requests⟩ := inserted.requests
      have born : ∀ row ∈ rows, ∃ definition ∈ plan.stages, Fresh host before after project id definition row :=
        fun row listed => forall₂_mem_right _ _ _ inserted.rows row listed
      have split : ∀ row ∈ after.stages, row ∈ before.stages ∨ row ∈ rows := fun row present => by
        rw [inserted.stages] at present
        exact List.mem_append.mp present
      refine Consistent.mk inserted.numbered
        ?normalized ?stored ?requestIds ?requestDrawn ?requested ?demandable ?idle ?leaves ?fits ?guarded
        ?whole ?shielded
      case normalized => rw [inserted.registry]; exact consistent.normalized
      case stored => rw [inserted.registry]; exact consistent.stored
      case requestIds =>
        rw [requests, List.map_append]
        refine List.nodup_append.mpr ⟨consistent.requestIds, List.nodup_singleton _, ?_⟩
        rintro first listed other last rfl
        obtain ⟨request, member, same⟩ := List.mem_map.mp listed
        obtain ⟨draw, early, drawn⟩ := consistent.requestDrawn request member
        rw [List.map_singleton, List.mem_singleton] at last
        have clash := host.distinct (drawn.symm.trans (same.trans (last.trans inserted.drawn)))
        omega
      case requestDrawn =>
        rw [requests]
        intro request listed
        rcases List.mem_append.mp listed with old | new
        · obtain ⟨draw, early, drawn⟩ := consistent.requestDrawn request old
          exact ⟨draw, Nat.lt_trans early inserted.draws, drawn⟩
        · rw [List.mem_singleton.mp new]
          exact ⟨before.draws, inserted.draws, inserted.drawn⟩
      case requested =>
        intro row present
        rw [requests, List.map_append, List.mem_append]
        rcases split row present with old | new
        · exact .inl (consistent.requested row old)
        · obtain ⟨_, _, fresh⟩ := born row new
          exact .inr (by simp [fresh.request])
      case demandable =>
        intro row present waiting
        rw [inserted.registry]
        rcases split row present with old | new
        · exact consistent.demandable row old waiting
        · obtain ⟨definition, listed, fresh⟩ := born row new
          obtain ⟨found, done⟩ := checked definition listed
          simp only [firstAssignment, assignments, bind_ok_iff] at done
          obtain ⟨_, ⟨specifications, demanded, _⟩, _⟩ := done
          exact ⟨specifications, fresh.needs ▸ demanded⟩
      case idle =>
        intro row present released
        rcases split row present with old | new
        · exact consistent.idle row old released
        · obtain ⟨_, _, fresh⟩ := born row new
          exact congrArg Core.allocation fresh.core
      case leaves =>
        intro row present
        rw [inserted.registry]
        rcases split row present with old | new
        · exact consistent.leaves row old
        · obtain ⟨_, _, fresh⟩ := born row new
          have nothing : row.allocation = Dict.empty := congrArg Core.allocation fresh.core
          exact nothing ▸ empty_leaves_only before.registry
      case fits =>
        rw [inserted.registry, inserted.stages, List.map_append]
        intro leaf
        have nothing : claimsOn leaf (rows.map (fun stage => stage.allocation)) = [] := by
          refine List.filterMap_eq_nil_iff.mpr fun allocation listed => ?_
          obtain ⟨row, member, rfl⟩ := List.mem_map.mp listed
          obtain ⟨_, _, fresh⟩ := born row member
          have empty : row.allocation = Dict.empty := congrArg Core.allocation fresh.core
          rw [empty, Dict.get_empty]
        rw [claims_on_append, nothing, List.append_nil]
        exact consistent.fits leaf
      case guarded =>
        intro row present allocation shield
        rcases split row present with old | new
        · exact consistent.guarded row old allocation shield
        · obtain ⟨_, _, fresh⟩ := born row new
          exact congrArg Core.state fresh.core
      case whole =>
        intro row present allocation shield
        rw [inserted.registry]
        rcases split row present with old | new
        · exact consistent.whole row old allocation shield
        · obtain ⟨_, _, fresh⟩ := born row new
          have none : row.protection = none := congrArg Core.protection fresh.core
          cases none.symm.trans shield
      case shielded =>
        rw [inserted.registry, inserted.stages, List.filterMap_append]
        have nothing : rows.filterMap (fun stage => stage.protection) = [] := by
          refine List.filterMap_eq_nil_iff.mpr fun row member => ?_
          obtain ⟨_, _, fresh⟩ := born row member
          exact congrArg Core.protection fresh.core
        rw [nothing, List.append_nil]
        exact consistent.shielded

structure Resubscribes (before after : Ledger) : Prop where
  registry : after.registry = before.registry
  stages : after.stages = before.stages
  draws : after.draws = before.draws
  sequence : after.sequence = before.sequence
  requests : List.Forall₂ (fun old new => ∃ subscribers, new = { old with subscribers := subscribers })
    before.requests after.requests

variable (ledger : Ledger)

theorem adopt_stands (request subscriber : Id) (current : Option Subscriber) :
    Stands ledger (ledger.adopt request subscriber current).1 := by
  unfold Ledger.adopt
  split <;> exact ⟨rfl, rfl, rfl, rfl, rfl, rfl⟩

theorem resubscribe_stands (request : Request) (subscriber : Subscriber) (remove : Bool)
    (current : Option Subscriber) (history : Option History) :
    Stands ledger (ledger.resubscribe request subscriber remove current history).1 := by
  unfold Ledger.resubscribe
  split
  · exact ⟨rfl, rfl, rfl, rfl, rfl, rfl⟩
  · split <;> exact ⟨rfl, rfl, rfl, rfl, rfl, rfl⟩

theorem subscribe_resubscribes (id : Id) (plan : Plan) (subscriber : Subscriber) (remove : Bool)
    (before after : Ledger) (unique : (before.requests.map Request.id).Nodup)
    (done : before.subscribe host id plan subscriber remove = .ok after) : Resubscribes before after := by
  simp only [Ledger.subscribe, bind_ok_iff, refuse_ok_iff, exists_const] at done
  obtain ⟨_, _, request, found, _, _, _, delivered⟩ := done
  obtain ⟨listed, rfl⟩ := request_ok before id request found
  have first := adopt_stands before request.id subscriber.id
    (request.subscribers.find? fun other => decide (other.id = subscriber.id))
  generalize before.adopt request.id subscriber.id
    (request.subscribers.find? fun other => decide (other.id = subscriber.id)) = adopted at first delivered
  have second := resubscribe_stands adopted.1 request subscriber remove
    (request.subscribers.find? fun other => decide (other.id = subscriber.id)) adopted.2
  generalize adopted.1.resubscribe request subscriber remove
    (request.subscribers.find? fun other => decide (other.id = subscriber.id)) adopted.2 = changed at second delivered
  have stands := first.trans second
  have final := outcomes_stands _ _ _ delivered
  refine ⟨final.registry.trans stands.registry, final.stages.trans stands.stages, final.draws.trans stands.draws,
    final.sequence.trans stands.sequence, ?_⟩
  have rows : after.requests = put Request.id { request with subscribers := changed.2 } before.requests := by
    rw [final.requests, Ledger.rewrite, stands.requests]
  rw [rows]
  refine put_forall₂ Request.id _ before.requests _ request unique ?_ (fun other => ⟨other.subscribers, rfl⟩)
    ⟨changed.2, rfl⟩
  exact row_of_mem Request.id before.requests unique request listed

theorem resubscribes_consistent (consistent : Consistent host before)
    (resubscribes : Resubscribes before after) : Consistent host after := by
  have ids : after.requests.map Request.id = before.requests.map Request.id :=
    forall₂_keys Request.id _ _ _ (fun _ _ ⟨_, same⟩ => same ▸ rfl) resubscribes.requests
  obtain ⟨registry, stages, draws, sequence, requests⟩ := resubscribes
  refine Consistent.mk ?numbered
    ?normalized ?stored ?requestIds ?requestDrawn ?requested ?demandable ?idle ?leaves ?fits ?guarded ?whole ?shielded
  case numbered =>
    exact ⟨by rw [stageIds, stages]; exact consistent.ids, by rw [stages, draws]; exact consistent.drawn,
      by rw [stages]; exact consistent.order, by rw [stages, sequence]; exact consistent.bound⟩
  case normalized => rw [registry]; exact consistent.normalized
  case stored => rw [registry]; exact consistent.stored
  case requestIds => rw [ids]; exact consistent.requestIds
  case requestDrawn =>
    intro request listed
    obtain ⟨old, member, _, same⟩ := forall₂_mem_right _ _ _ requests request listed
    rw [draws, same]
    exact consistent.requestDrawn old member
  case requested => rw [stages, ids]; exact consistent.requested
  case demandable => rw [stages, registry]; exact consistent.demandable
  case idle => rw [stages]; exact consistent.idle
  case leaves => rw [stages, registry]; exact consistent.leaves
  case fits => rw [stages, registry]; exact consistent.fits
  case guarded => rw [stages]; exact consistent.guarded
  case whole => rw [stages, registry]; exact consistent.whole
  case shielded => rw [stages, registry]; exact consistent.shielded

-- An accepted registry agrees with the old one on every leaf that is owned, and
-- altogether while a stage waits.
structure Configures (before after : Ledger) (registry : Registry) : Prop where
  normalized : Normalized registry
  result : after = { before with registry := canonical registry }
  owned : ∀ stage ∈ before.activeStages, ∀ leaf ∈ stage.allocation.keys,
    registry.get? leaf = before.registry.get? leaf
  waiting : ∀ stage ∈ before.activeStages, stage.state = .waiting → Dict.Same registry before.registry

theorem configure_configures (raw : Registry) (before after : Ledger) (done : before.configure raw = .ok after) :
    ∃ registry, normalizeRegistry raw = .ok registry ∧ Configures before after registry := by
  simp only [Ledger.configure, bind_ok_iff, pure_ok, Except.ok.injEq] at done
  obtain ⟨registry, normalized, _, checked, rfl⟩ := done
  have each : ∀ stage ∈ before.activeStages,
      (∀ leaf ∈ stage.allocation.keys, registry.get? leaf = before.registry.get? leaf) ∧
        (stage.state = .waiting → Dict.Same registry before.registry) := by
    intro stage listed
    obtain ⟨_, _, one⟩ := forall₂_mem_left _ _ _ (mapM_ok_inv _ _ _ checked) stage listed
    simp only [bind_ok_iff, refuse_ok_iff, exists_const, List.any_eq_true, decide_eq_true_eq, not_exists, not_and,
      not_not] at one
    exact one
  exact ⟨registry, normalized, normalize_registry_normalized raw registry normalized, rfl,
    fun stage listed => (each stage listed).1, fun stage listed => (each stage listed).2⟩

theorem configures_same (registry : Registry) (stored : canonical before.registry = before.registry)
    (configures : Configures before after registry) (stage : Stage) (listed : stage ∈ before.activeStages)
    (waiting : stage.state = .waiting) : after.registry = before.registry := by
  rw [configures.result, ← stored]
  exact Dict.sorted_eq_of_same _ _ (configures.waiting stage listed waiting)

theorem waiting_active (stage : Stage) (listed : stage ∈ ledger.stages)
    (waiting : stage.state = .waiting) : stage ∈ ledger.activeStages :=
  List.mem_filter.mpr ⟨listed, by simp [Stage.terminal, waiting, terminalStates]⟩

theorem owning_active (stage : Stage) (listed : stage ∈ ledger.stages)
    (owner : stage.owning = true) : stage ∈ ledger.activeStages := by
  refine List.mem_filter.mpr ⟨listed, ?_⟩
  revert owner
  unfold Stage.owning Stage.terminal
  cases stage.state <;> decide

theorem configures_consistent (registry : Registry)
    (consistent : Consistent host before) (configures : Configures before after registry) : Consistent host after := by
  have stages : after.stages = before.stages := by rw [configures.result]
  have requests : after.requests = before.requests := by rw [configures.result]
  have draws : after.draws = before.draws := by rw [configures.result]
  have sequence : after.sequence = before.sequence := by rw [configures.result]
  have known : after.registry = canonical registry := by rw [configures.result]
  have waits : ∀ stage ∈ before.stages, stage.state = .waiting → after.registry = before.registry :=
    fun stage listed waiting => configures_same before after registry consistent.stored configures stage
      (waiting_active before stage listed waiting) waiting
  -- every leaf that some stage holds is the same in both registries
  have held : ∀ stage ∈ before.stages, ∀ leaf claim, stage.allocation.get? leaf = some claim →
      after.registry.get? leaf = before.registry.get? leaf := by
    intro stage listed leaf claim found
    have owner : stage.owning = true := by
      by_contra notOwner
      rw [consistent.idle stage listed (Bool.eq_false_iff.mpr notOwner)] at found
      cases found
    rw [known, canonical, Dict.get_sorted]
    exact configures.owned stage (owning_active before stage listed owner) leaf ((Dict.mem_keys _ _).mpr ⟨claim, found⟩)
  refine Consistent.mk ?numbered
    ?normalized ?stored ?requestIds ?requestDrawn ?requested ?demandable ?idle ?leaves ?fits ?guarded ?whole ?shielded
  case numbered =>
    exact ⟨by rw [stageIds, stages]; exact consistent.ids, by rw [stages, draws]; exact consistent.drawn,
      by rw [stages]; exact consistent.order, by rw [stages, sequence]; exact consistent.bound⟩
  case normalized =>
    rw [known]
    exact normalized_same registry _ (canonical_same registry) configures.normalized
  case stored =>
    rw [known]
    exact Dict.sorted_eq_of_same _ _ fun name => (canonical_same registry name).symm
  case requestIds => rw [requests]; exact consistent.requestIds
  case requestDrawn => rw [requests, draws]; exact consistent.requestDrawn
  case requested => rw [stages, requests]; exact consistent.requested
  case demandable =>
    rw [stages]
    intro stage listed waiting
    rw [waits stage listed waiting]
    exact consistent.demandable stage listed waiting
  case idle => rw [stages]; exact consistent.idle
  case leaves =>
    rw [stages]
    intro stage listed leaf claim found
    obtain ⟨entry, old, resource⟩ := consistent.leaves stage listed leaf claim found
    exact ⟨entry, (held stage listed leaf claim found).trans old, resource⟩
  case fits =>
    rw [stages]
    refine fits_capacity _ _ _ (fun leaf allocation claim listed found => ?_) consistent.fits
    obtain ⟨stage, member, rfl⟩ := List.mem_map.mp listed
    rw [leafCapacity, leafCapacity, held stage member leaf claim found]
  case guarded => rw [stages]; exact consistent.guarded
  case whole =>
    rw [stages]
    intro stage listed allocation shield
    rw [waits stage listed (consistent.guarded stage listed allocation shield)]
    exact consistent.whole stage listed allocation shield
  case shielded =>
    rw [stages]
    cases protections : before.stages.filterMap (fun stage => stage.protection) with
    | nil => exact fits_nil _
    | cons allocation rest =>
        have member : allocation ∈ before.stages.filterMap (fun stage => stage.protection) := by simp [protections]
        obtain ⟨stage, listed, shield⟩ := List.mem_filterMap.mp member
        rw [waits stage listed (consistent.guarded stage listed allocation shield), ← protections]
        exact consistent.shielded

end OrchestratorEngine.ResourceQueue
