import OrchestratorEngine.ResourceQueue.Launches

set_option autoImplicit false

namespace OrchestratorEngine.ResourceQueue

open Foundation

instance : Std.Total readyOrder := ⟨fun first second => by
  unfold readyOrder
  rcases Nat.lt_trichotomy (first.readySeq.getD 0) (second.readySeq.getD 0) with less | same | more
  · exact .inl (.inl less)
  · rcases le_total first.id second.id with below | above
    · exact .inl (.inr ⟨same, below⟩)
    · exact .inr (.inr ⟨same.symm, above⟩)
  · exact .inr (.inl more)⟩

instance : IsTrans Stage readyOrder := ⟨fun first second third => by
  unfold readyOrder
  rintro (less | ⟨same, below⟩) (less' | ⟨same', below'⟩)
  · exact .inl (by omega)
  · exact .inl (by omega)
  · exact .inl (by omega)
  · exact .inr ⟨same.trans same', le_trans below below'⟩⟩

theorem ready_order_antisymm (first second : Stage) (before : readyOrder first second)
    (after : readyOrder second first) : first.id = second.id := by
  rcases before with less | ⟨_, below⟩
  · rcases after with more | ⟨same, _⟩ <;> omega
  · rcases after with more | ⟨_, above⟩
    · omega
    · exact le_antisymm below above

theorem ready_order_alike (first second other next : Stage) (seq : first.readySeq = other.readySeq)
    (key : first.id = other.id) (seq' : second.readySeq = next.readySeq) (key' : second.id = next.id) :
    readyOrder first second ↔ readyOrder other next := by
  rw [readyOrder, readyOrder, seq, key, seq', key']

def Precedes (first second : Stage) : Prop := readyOrder first second ∧ first.id ≠ second.id

instance (first second : Stage) : Decidable (Precedes first second) := by
  unfold Precedes
  infer_instance

def olderReady (ledger : Ledger) (stage : Stage) : List Stage :=
  ledger.stages.filter fun other => other.ready && decide (Precedes other stage)

def olderProtections (ledger : Ledger) (stage : Stage) : List Allocation :=
  (olderReady ledger stage).filterMap fun other => other.protection

theorem mem_older_ready (ledger : Ledger) (stage other : Stage) :
    other ∈ olderReady ledger stage ↔ other ∈ ledger.stages ∧ other.ready = true ∧ Precedes other stage := by
  simp only [olderReady, List.mem_filter, Bool.and_eq_true, decide_eq_true_eq]

variable {before after : Ledger} {unavailable : List Name} {granted : List Stage} {opened : List Stage}

theorem placement_precedes
    (unique : (stageIds before).Nodup) (earlier later : List Placement) (stage : Stage)
    (verdict : Verdict)
    (scheduled : Scheduled unavailable before opened (earlier ++ (stage, verdict) :: later) after granted)
    (place : Placement) :
    place ∈ earlier ↔ place ∈ earlier ++ (stage, verdict) :: later ∧ Precedes place.1 stage := by
  have sorted : ((earlier ++ (stage, verdict) :: later).map Prod.fst).Pairwise readyOrder := by
    rw [scheduled.order]
    exact List.pairwise_insertionSort readyOrder _
  have distinct := placements_distinct opened _ scheduled.order (opened_distinct unique scheduled)
  rw [List.map_append, List.map_cons, List.pairwise_append] at sorted
  rw [List.map_append, List.map_cons, List.nodup_append] at distinct
  constructor
  · intro listed
    refine ⟨List.mem_append_left _ listed, sorted.2.2 place.1 (List.mem_map_of_mem listed) stage (by simp), ?_⟩
    exact distinct.2.2 (placeId place) (List.mem_map_of_mem listed) (placeId (stage, verdict)) (by simp)
  · rintro ⟨listed, order, different⟩
    rcases List.mem_append.mp listed with front | back
    · exact front
    · rcases List.mem_cons.mp back with rfl | behind
      · exact absurd rfl different
      · have reverse : readyOrder stage place.1 :=
          (List.pairwise_cons.mp sorted.2.1).1 place.1 (List.mem_map_of_mem behind)
        exact absurd (ready_order_antisymm _ _ order reverse) different

theorem applied_seq (stage row : Stage) (verdict : Verdict) (core : row.core = verdict.apply stage.core) :
    row.readySeq = stage.readySeq := by
  cases verdict with
  | granted allocation token => exact congrArg Core.readySeq core
  | held candidate => exact congrArg Core.readySeq core

theorem held_ready (stage row : Stage) (candidate : Option Allocation) (ready : stage.ready = true)
    (core : row.core = (Verdict.held candidate).apply stage.core) : row.ready = true := by
  have state : row.state = stage.state := congrArg Core.state core
  rw [Stage.ready, applied_seq stage row _ core, state]
  exact ready

variable {placements : List Placement}

theorem ready_held
    (unique : (stageIds before).Nodup)
    (scheduled : Scheduled unavailable before opened placements after granted) (row : Stage)
    (present : row ∈ after.stages) (ready : row.ready = true) :
    ∃ stage candidate, (stage, Verdict.held candidate) ∈ placements ∧ row.fixed = stage.fixed ∧
      row.core = (Verdict.held candidate).apply stage.core ∧ Open unavailable after row := by
  obtain ⟨old, stored, fixed, landed⟩ := forall₂_mem_right _ _ _ (scheduled_rows unique scheduled) row present
  have waiting := ready_waiting row ready
  cases landed with
  | idle state core => exact absurd ((core_state _ _ core).symm.trans waiting) state
  | skipped _ _ core => cases waiting.symm.trans (congrArg Core.state core)
  | closed _ _ core =>
      have none : row.readySeq = none := congrArg Core.readySeq core
      simp [Stage.ready, none] at ready
  | placed _ gate stage verdict listed same _ _ _ core =>
      cases verdict with
      | granted allocation token => cases waiting.symm.trans (congrArg Core.state core)
      | held candidate =>
          exact ⟨stage, candidate, listed, fixed.trans same.symm, core,
            (open_fixed unavailable after old row fixed).mpr gate⟩

theorem held_older
    (unique : (stageIds before).Nodup)
    (guarded : ∀ stage ∈ before.stages, ∀ allocation, stage.protection = some allocation → stage.state = .waiting)
    (earlier later : List Placement) (stage : Stage) (verdict : Verdict)
    (scheduled : Scheduled unavailable before opened (earlier ++ (stage, verdict) :: later) after granted) (row : Stage)
    (key : row.id = stage.id) (seq : row.readySeq = stage.readySeq) :
    (olderProtections after row).Perm (heldBy earlier) := by
  have precedes := placement_precedes unique earlier later stage verdict scheduled
  have distinct := placements_distinct opened _ scheduled.order (opened_distinct unique scheduled)
  have earlierUnique : (earlier.map placeId).Nodup :=
    distinct.sublist ((List.sublist_append_left _ _).map _)
  have olderUnique : ((olderReady after row).map Stage.id).Nodup :=
    (scheduled_ids unique scheduled).sublist (List.filter_sublist.map _)
  have perm : (tagged Stage.id (fun other => other.protection) (olderReady after row)).Perm
      (tagged placeId (fun place => place.2.protection?) earlier) := by
    refine (List.perm_ext_iff_of_nodup (tagged_nodup _ _ _ olderUnique) (tagged_nodup _ _ _ earlierUnique)).mpr ?_
    rintro ⟨id, allocation⟩
    rw [mem_tagged, mem_tagged]
    constructor
    · rintro ⟨other, older, shield, match_⟩
      obtain ⟨present, _, order⟩ := (mem_older_ready _ _ _).mp older
      obtain ⟨source, listed, fixed, core⟩ := scheduled_protected unique guarded scheduled other present
        allocation shield
      have sourceId : source.id = other.id := fixed_id _ _ fixed
      have sourceSeq : source.readySeq = other.readySeq := (applied_seq source other _ core).symm
      refine ⟨(source, .held (some allocation)), (precedes _).mpr ⟨listed, ?_, ?_⟩, rfl, sourceId.trans match_⟩
      · exact (ready_order_alike source stage other row sourceSeq sourceId seq.symm key.symm).mpr order.1
      · exact fun same => order.2 (sourceId.symm.trans (same.trans key.symm))
    · rintro ⟨⟨source, decision⟩, listed, shield, match_⟩
      obtain ⟨inside, order⟩ := (precedes _).mp listed
      obtain ⟨other, present, fixed, core⟩ := placement_lands unique scheduled source decision inside
      have otherId : other.id = source.id := fixed_id _ _ fixed
      have otherSeq : other.readySeq = source.readySeq := applied_seq source other _ core
      cases decision with
      | granted _ _ => cases shield
      | held candidate =>
          refine ⟨other, (mem_older_ready _ _ _).mpr ⟨present, ?_, ?_, ?_⟩,
            (applied_protection source other _ core).trans shield, otherId.trans match_⟩
          · exact held_ready source other candidate (placement_opened scheduled source _ inside).2 core
          · exact (ready_order_alike other row source stage otherSeq otherId seq key).mpr order.1
          · exact fun same => order.2 (otherId.symm.trans (same.trans key))
  have values := perm.map Prod.snd
  rwa [tagged_values, tagged_values] at values

theorem advance_recovering (old new : Stage) (advance : Advance old new) :
    new.state = .recoveryRequired ↔ old.state = .recoveryRequired := by
  by_cases waiting : old.state = .waiting
  · have moved := advance.moved waiting
    simp only [waiting, reduceCtorEq, iff_false]
    rintro recovering
    simp [recovering] at moved
  · rw [core_state _ _ (advance.idle waiting)]

theorem quarantined_leaves (ledger : Ledger) :
    ledger.quarantine = (ledger.stages.flatMap fun stage =>
      if stage.state = .recoveryRequired then stage.allocation.keys else []).dedup := by
  unfold Ledger.quarantine Ledger.owners
  congr 1
  induction ledger.stages with
  | nil => rfl
  | cons stage rest ih =>
      by_cases recovering : stage.state = .recoveryRequired
      · have owner : stage.owning = true := by simp [Stage.owning, recovering, owningStates]
        rw [List.flatMap_cons, ← ih, if_pos recovering]
        simp [owner, recovering]
      · rw [List.flatMap_cons, ← ih, if_neg recovering]
        by_cases owner : stage.owning = true <;> simp [owner, recovering]

theorem advances_quarantine (advances : Advances before after) :
    after.quarantine = before.quarantine := by
  rw [quarantined_leaves, quarantined_leaves]
  congr 1
  unfold Advances at advances
  generalize before.stages = old at advances
  generalize after.stages = new at advances
  induction advances with
  | nil => rfl
  | cons advance _ ih =>
      rename_i old new _ _ _
      rw [List.flatMap_cons, List.flatMap_cons, ih]
      by_cases recovering : old.state = .recoveryRequired
      · have same : new.allocation = old.allocation :=
          congrArg Core.allocation (advance.idle (by simp [recovering]))
        rw [if_pos recovering, if_pos ((advance_recovering old new advance).mpr recovering), same]
      · rw [if_neg recovering, if_neg (mt (advance_recovering old new advance).mp recovering)]

-- What a pass knows about a row that it leaves ready: nothing suits it next to
-- the owners and the older protections, and what it holds fits those protections.
structure Settled (ledger : Ledger) (row : Stage) : Prop where
  refused : ∀ allocation, ¬ Suits ledger.registry row.needs
    (ledger.owners.map (fun owner => owner.allocation) ++ olderProtections ledger row) ledger.quarantine [] allocation
  holds : ∀ allocation, row.protection = some allocation →
    Suits ledger.registry row.needs (olderProtections ledger row) ledger.quarantine [] allocation

theorem scheduled_settled
    (unique : (stageIds before).Nodup)
    (guarded : ∀ stage ∈ before.stages, ∀ allocation, stage.protection = some allocation → stage.state = .waiting)
    (scheduled : Scheduled unavailable before opened placements after granted) (row : Stage)
    (present : row ∈ after.stages) (ready : row.ready = true) : Settled after row := by
  obtain ⟨stage, candidate, listed, fixed, core, _⟩ := ready_held unique scheduled row present ready
  obtain ⟨earlier, later, rfl, sound⟩ := placed_sound _ _ placements scheduled.placed stage _ listed
  have key : row.id = stage.id := fixed_id _ _ fixed
  have needs : row.needs = stage.needs := congrArg Fixed.needs fixed
  have older := held_older unique guarded earlier later stage _ scheduled row key (applied_seq stage row _ core)
  have owners := scheduled_owners unique scheduled
  have quarantine := advances_quarantine scheduled.advances
  have shield : row.protection = candidate := congrArg Core.protection core
  have ownersMore : (before.owners.map (fun owner => owner.allocation) ++ grantedBy earlier).Subperm
      (after.owners.map (fun owner => owner.allocation)) := by
    refine List.Subperm.trans ?_ owners.symm.subperm
    refine List.Sublist.subperm (List.Sublist.append_left ?_ _)
    exact (List.sublist_append_left earlier _).filterMap _
  cases sound with
  | held _ refused suits kept fresh =>
      refine ⟨fun allocation fits => refused allocation ?_, fun allocation held => ?_⟩
      · rw [scheduled.registry, needs, quarantine] at fits
        exact fits.subperm (ownersMore.append older.symm.subperm)
      · have first := suits allocation (shield.symm.trans held)
        rw [scheduled.registry, needs, quarantine]
        exact first.subperm older.subperm

structure Quiet (unavailable : List Name) (ledger : Ledger) : Prop where
  released : ledger.released = []
  settled : ∀ row ∈ ledger.stages, row.ready = true → Settled ledger row
  opened : ∀ row ∈ ledger.stages, row.ready = true → Open unavailable ledger row
  numbered : ∀ row ∈ ledger.stages, row.state = .waiting → Open unavailable ledger row → row.ready = true

theorem open_not_doomed (unavailable : List Name) (ledger : Ledger) (stage : Stage)
    (gate : Open unavailable ledger stage) : ¬ Doomed ledger stage := by
  rintro ⟨other, listed, failed⟩
  exact failed_not_passed other failed (gate.passed other listed)

theorem open_placed
    (unique : (stageIds before).Nodup)
    (scheduled : Scheduled unavailable before opened placements after granted) (old : Stage)
    (stored : old ∈ before.stages) (waiting : old.state = .waiting) (gate : Open unavailable before old) :
    ∃ stage verdict, (stage, verdict) ∈ placements ∧ stage.fixed = old.fixed := by
  obtain ⟨row, _, _, landed⟩ := forall₂_mem_left _ _ _ (scheduled_rows unique scheduled) old stored
  have still := (advances_open scheduled.advances unavailable old).mpr gate
  cases landed with
  | idle state _ => exact absurd waiting state
  | skipped _ doomed _ => exact absurd doomed (open_not_doomed unavailable after old still)
  | closed _ shut _ => exact absurd still shut
  | placed _ _ stage verdict listed fixed _ _ _ _ => exact ⟨stage, verdict, listed, fixed⟩

theorem scheduled_quiet
    (unique : (stageIds before).Nodup)
    (guarded : ∀ stage ∈ before.stages, ∀ allocation, stage.protection = some allocation → stage.state = .waiting)
    (scheduled : Scheduled unavailable before opened placements after granted) : Quiet unavailable after := by
  refine ⟨scheduled.released, scheduled_settled unique guarded scheduled, fun row present ready => ?_,
    fun row present waiting gate => ?_⟩
  · obtain ⟨_, _, _, _, _, gate⟩ := ready_held unique scheduled row present ready
    exact gate
  · obtain ⟨old, stored, fixed, landed⟩ := forall₂_mem_right _ _ _ (scheduled_rows unique scheduled) row present
    have gate' := (open_fixed unavailable after old row fixed).mp gate
    cases landed with
    | idle state core => exact absurd ((core_state _ _ core).symm.trans waiting) state
    | skipped _ doomed _ => exact absurd doomed (open_not_doomed unavailable after old gate')
    | closed _ shut _ => exact absurd gate' shut
    | placed _ _ stage verdict listed _ _ _ _ core =>
        cases verdict with
        | granted _ _ => cases waiting.symm.trans (congrArg Core.state core)
        | held candidate =>
            exact held_ready stage row candidate (placement_opened scheduled stage _ listed).2 core

theorem quiet_source
    (quiet : Quiet unavailable before)
    (scheduled : Scheduled unavailable before opened placements after granted) (place : Placement)
    (listed : place ∈ placements) :
    ∃ old ∈ before.stages, old.ready = true ∧ place.1.fixed = old.fixed ∧ place.1.core = old.core := by
  obtain ⟨old, stored, waiting, gate, fixed, number, known, core⟩ :=
    placement_source scheduled place.1 place.2 listed
  have ready := quiet.numbered old stored waiting ((advances_open scheduled.advances unavailable old).mp gate)
  have numbered : old.readySeq.isSome = true := by
    simp only [Stage.ready, Bool.and_eq_true] at ready
    exact ready.2
  obtain ⟨earlier, seq⟩ := Option.isSome_iff_exists.mp numbered
  refine ⟨old, stored, ready, fixed, ?_⟩
  rw [core, known earlier seq, ← seq]
  rfl

theorem quiet_older
    (unique : (stageIds before).Nodup) (quiet : Quiet unavailable before) (earlier later : List Placement)
    (stage : Stage) (verdict : Verdict)
    (scheduled : Scheduled unavailable before opened (earlier ++ (stage, verdict) :: later) after granted) (row : Stage)
    (key : row.id = stage.id) (seq : row.readySeq = stage.readySeq) :
    (olderProtections before row).Perm (earlier.filterMap (fun place => place.1.protection)) := by
  have precedes := placement_precedes unique earlier later stage verdict scheduled
  have distinct := placements_distinct opened _ scheduled.order (opened_distinct unique scheduled)
  have earlierUnique : (earlier.map placeId).Nodup :=
    distinct.sublist ((List.sublist_append_left _ _).map _)
  have olderUnique : ((olderReady before row).map Stage.id).Nodup :=
    List.Nodup.sublist (List.filter_sublist.map _) unique
  have perm : (tagged Stage.id (fun other => other.protection) (olderReady before row)).Perm
      (tagged placeId (fun place => place.1.protection) earlier) := by
    refine (List.perm_ext_iff_of_nodup (tagged_nodup _ _ _ olderUnique) (tagged_nodup _ _ _ earlierUnique)).mpr ?_
    rintro ⟨id, allocation⟩
    rw [mem_tagged, mem_tagged]
    constructor
    · rintro ⟨other, older, shield, match_⟩
      obtain ⟨present, ready, order⟩ := (mem_older_ready _ _ _).mp older
      obtain ⟨source, decision, listed, fixed⟩ := open_placed unique scheduled other present
        (ready_waiting other ready) (quiet.opened other present ready)
      obtain ⟨origin, stored, _, fixed', core⟩ := quiet_source quiet scheduled (source, decision) listed
      have here : origin = other := row_unique Stage.id before.stages unique origin other stored present
        (fixed_id _ _ (fixed'.symm.trans fixed))
      subst here
      have sourceId : source.id = origin.id := fixed_id _ _ fixed
      have sourceSeq : source.readySeq = origin.readySeq := congrArg Core.readySeq core
      have sourceShield : source.protection = origin.protection := congrArg Core.protection core
      refine ⟨(source, decision), (precedes _).mpr ⟨listed, ?_, ?_⟩, sourceShield.trans shield, sourceId.trans match_⟩
      · exact (ready_order_alike source stage origin row sourceSeq sourceId seq.symm key.symm).mpr order.1
      · exact fun same => order.2 (sourceId.symm.trans (same.trans key.symm))
    · rintro ⟨place, listed, shield, match_⟩
      obtain ⟨inside, order⟩ := (precedes _).mp listed
      obtain ⟨origin, stored, ready, fixed, core⟩ := quiet_source quiet scheduled place inside
      have originId : origin.id = place.1.id := (fixed_id _ _ fixed).symm
      have originSeq : origin.readySeq = place.1.readySeq := (congrArg Core.readySeq core).symm
      have originShield : origin.protection = place.1.protection := (congrArg Core.protection core).symm
      refine ⟨origin, (mem_older_ready _ _ _).mpr ⟨stored, ready, ?_, ?_⟩, originShield.trans shield,
        originId.trans match_⟩
      · exact (ready_order_alike origin row place.1 stage originSeq originId seq key).mpr order.1
      · exact fun same => order.2 (originId.symm.trans (same.trans key))
  have values := perm.map Prod.snd
  rwa [tagged_values, tagged_values] at values

theorem quiet_holds
    (unique : (stageIds before).Nodup)
    (quiet : Quiet unavailable before) (scheduled : Scheduled unavailable before opened placements after granted)
    (visited : List Placement)
    (placed : Placed before.setting (before.owners.map (fun owner => owner.allocation)) visited)
    (rest : List Placement) (whole : placements = visited ++ rest) :
    ∀ place ∈ visited, place.2 = .held place.1.protection := by
  induction placed generalizing rest with
  | start => simp
  | visit earlier stage verdict _ sound ih =>
      have split : placements = earlier ++ (stage, verdict) :: rest := by simp [whole]
      have held := ih ((stage, verdict) :: rest) split
      have listed : (stage, verdict) ∈ placements := by simp [split]
      obtain ⟨row, stored, ready, fixed, core⟩ := quiet_source quiet scheduled (stage, verdict) listed
      have older := quiet_older unique quiet earlier rest stage verdict (split ▸ scheduled) row
        (fixed_id _ _ fixed).symm (congrArg Core.readySeq core).symm
      have protections : heldBy earlier = earlier.filterMap (fun place => place.1.protection) :=
        List.filterMap_congr fun place member => by rw [held place member]; rfl
      have grants : grantedBy earlier = [] :=
        List.filterMap_eq_nil_iff.mpr fun place member => by rw [held place member]; rfl
      have needs : stage.needs = row.needs := congrArg Fixed.needs fixed
      have shield : stage.protection = row.protection := congrArg Core.protection core
      have settled := quiet.settled row stored ready
      rw [protections, grants, List.append_nil] at sound
      have last : verdict = .held stage.protection := by
        cases sound with
        | granted allocation token suits =>
            refine absurd ?_ (settled.refused allocation)
            rw [needs] at suits
            exact suits.subperm ((List.Subperm.refl _).append older.subperm)
        | held candidate refused suits kept fresh =>
            cases found : stage.protection with
            | none => rw [fresh found quiet.released]
            | some previous =>
                have still := settled.holds previous (shield.symm.trans found)
                rw [← needs] at still
                rw [kept previous found (still.subperm older.symm.subperm)]
      intro place member
      rcases List.mem_append.mp member with before | here
      · exact held place before
      · rw [List.mem_singleton.mp here]
        exact last

theorem quiet_grants_nothing
    (unique : (stageIds before).Nodup)
    (quiet : Quiet unavailable before) (scheduled : Scheduled unavailable before opened placements after granted) :
    granted = [] := by
  have held := quiet_holds unique quiet scheduled placements scheduled.placed [] (by simp)
  have none : placements.filter (fun place => place.2.allocation?.isSome) = [] :=
    List.filter_eq_nil_iff.mpr fun place listed => by simp [held place listed, Verdict.allocation?]
  have grants := scheduled.grants
  rw [none] at grants
  exact List.forall₂_nil_left_iff.mp grants

theorem schedule_conserves (host : Host) (calls : List Call) (unavailable : List Name) (after : Ledger)
    (granted : List Stage) (done : (run host calls).schedule host unavailable = .ok (after, granted)) :
    (∀ stage ∈ after.stages, stage.ready = true → ∀ allocation,
      CompleteAssignment after.registry stage.needs allocation → Avoids allocation after.quarantine →
        ¬ Accepts (leafCapacity after.registry) allocation
          (after.owners.map (fun owner => owner.allocation) ++ olderProtections after stage)) ∧
    ∀ later again, after.schedule host unavailable = .ok (later, again) → again = [] := by
  have consistent := run_consistent host calls
  obtain ⟨opened, placements, scheduled⟩ := schedule_scheduled host unavailable _ after granted consistent done
  have next := scheduled_consistent host unavailable _ after opened placements granted consistent scheduled
  have quiet := scheduled_quiet consistent.ids consistent.guarded scheduled
  refine ⟨fun stage present ready allocation complete avoids accepts => ?_, fun later again repeated => ?_⟩
  · exact (quiet.settled stage present ready).refused allocation ⟨complete, accepts, avoids, meets_nothing _⟩
  · obtain ⟨_, _, rescheduled⟩ := schedule_scheduled host unavailable after later again next repeated
    exact quiet_grants_nothing next.ids quiet rescheduled

def contended : List Call :=
  let plan : Plan := { stages := [{ id := "train", needs := some [{ resource := some "gpu" }] }] }
  [.configure (Dict.single "gpu" { release := some .process }), .submit "lab" "first" plan none,
    .submit "lab" "second" plan none]

theorem schedule_conserves_contended :
    ∃ after granted, (run countingHost contended).schedule countingHost [] = .ok (after, granted) ∧
      granted.length = 1 ∧ (after.stages.filter Stage.ready).length = 1 ∧
        ∀ later again, after.schedule countingHost [] = .ok (later, again) → again = [] := by
  have counts : (match (run countingHost contended).schedule countingHost [] with
      | .ok (after, granted) => (granted.length, (after.stages.filter Stage.ready).length)
      | .error _ => (0, 0)) = (1, 1) := by decide +kernel
  cases done : (run countingHost contended).schedule countingHost [] with
  | error failure =>
      rw [done] at counts
      cases counts
  | ok result =>
      obtain ⟨after, granted⟩ := result
      rw [done, Prod.mk.injEq] at counts
      exact ⟨after, granted, rfl, counts.1, counts.2,
        (schedule_conserves countingHost contended [] after granted done).2⟩

theorem granted_before
    (unique : (stageIds before).Nodup)
    (guarded : ∀ stage ∈ before.stages, ∀ allocation, stage.protection = some allocation → stage.state = .waiting)
    (scheduled : Scheduled unavailable before opened placements after granted) (row : Stage) (listed : row ∈ granted)
    (older : Stage) (earlier : older ∈ olderReady after row) (allocation : Allocation)
    (shield : older.protection = some allocation) :
    CompleteAssignment before.registry row.needs row.allocation ∧
      Accepts (leafCapacity before.registry) row.allocation [allocation] := by
  obtain ⟨⟨stage, verdict⟩, kept, fixed, core⟩ := forall₂_mem_right _ _ _ scheduled.grants row listed
  obtain ⟨member, _⟩ := List.mem_filter.mp kept
  obtain ⟨front, back, rfl, sound⟩ := placed_sound _ _ placements scheduled.placed stage verdict member
  have key : row.id = stage.id := fixed_id _ _ fixed
  have needs : row.needs = stage.needs := congrArg Fixed.needs fixed
  have seq := applied_seq stage row verdict core
  have held : allocation ∈ heldBy front := by
    have perm := held_older unique guarded front back stage verdict scheduled row key seq
    exact perm.mem_iff.mp (List.mem_filterMap.mpr ⟨older, earlier, shield⟩)
  cases sound with
  | held _ _ _ _ _ => simp [Verdict.allocation?] at kept
  | granted chosen token suits =>
      have same : row.allocation = chosen := congrArg Core.allocation core
      rw [same, needs]
      refine ⟨suits.complete, accepts_subperm _ chosen _ _ ?_ suits.accepts⟩
      exact (List.singleton_sublist.mpr (List.mem_append_right _ held)).subperm

theorem protection_holds (host : Host) (calls : List Call) :
    Fits (leafCapacity (run host calls).registry) ((run host calls).stages.filterMap (fun stage => stage.protection)) ∧
    (∀ stage ∈ (run host calls).stages, ∀ allocation, stage.protection = some allocation →
      stage.state = .waiting ∧ CompleteAssignment (run host calls).registry stage.needs allocation) ∧
    ∀ unavailable after granted, (run host calls).schedule host unavailable = .ok (after, granted) →
      ∀ row ∈ granted, ∀ older ∈ olderReady after row, ∀ allocation, older.protection = some allocation →
        compatible after.registry row.allocation [allocation] = .ok true := by
  have consistent := run_consistent host calls
  refine ⟨consistent.shielded, fun stage listed allocation shield => ?_, ?_⟩
  · exact ⟨consistent.guarded stage listed allocation shield, consistent.whole stage listed allocation shield⟩
  · intro unavailable after granted done row listed older earlier allocation shield
    obtain ⟨opened, placements, scheduled⟩ := schedule_scheduled host unavailable _ after granted consistent done
    obtain ⟨complete, accepts⟩ := granted_before consistent.ids consistent.guarded scheduled row listed older earlier
      allocation shield
    rw [scheduled.registry]
    obtain ⟨verdict, checked, exactly⟩ := compatible_ok _ consistent.normalized row.allocation
      (complete_leaves_only _ row.needs row.allocation complete) [allocation]
    rw [checked, exactly.mpr accepts]

end OrchestratorEngine.ResourceQueue
