import OrchestratorEngine.ResourceQueue.Gate
import OrchestratorEngine.ResourceQueue.Search

set_option autoImplicit false

namespace OrchestratorEngine.ResourceQueue

open Foundation

def Demandable (registry : Registry) (needs : List Need) : Prop :=
  ∃ specifications, demands registry needs = .ok specifications

-- An allocation suits a stage when it is a complete assignment that the others
-- accept, avoids the excluded leaves and meets the required ones.
structure Suits (registry : Registry) (needs : List Need) (others : List Allocation) (excluded required : List Name)
    (allocation : Allocation) : Prop where
  complete : CompleteAssignment registry needs allocation
  accepts : Accepts (leafCapacity registry) allocation others
  avoids : Avoids allocation excluded
  meets : meets required allocation.keys = true

def firstAssignment (registry : Registry) (needs : List Need) (others : List Allocation) (excluded : List Name)
    (priority : Name → Int) (required : List Name) : Except Error (Option Allocation) := do
  let found ← assignments registry needs others excluded priority required
  return found.head?

theorem first_assignment_ok (registry : Registry) (normalized : Normalized registry) (needs : List Need)
    (demandable : Demandable registry needs) (others : List Allocation) (excluded : List Name) (priority : Name → Int)
    (required : List Name) :
    ∃ found, firstAssignment registry needs others excluded priority required = .ok found ∧
      (∀ allocation, found = some allocation → Suits registry needs others excluded required allocation) ∧
      (found = none → ∀ allocation, ¬ Suits registry needs others excluded required allocation) := by
  obtain ⟨specifications, demanded⟩ := demandable
  obtain ⟨results, done, exactly⟩ :=
    assignments_exact registry normalized needs specifications demanded others excluded priority required
  refine ⟨results.head?, by simp [firstAssignment, done], fun allocation first => ?_, fun none allocation suits => ?_⟩
  · obtain ⟨complete, accepts, avoids, meets⟩ := (exactly allocation).mp (List.mem_of_mem_head? first)
    exact ⟨complete, accepts, avoids, meets⟩
  · have listed := (exactly allocation).mpr ⟨suits.complete, suits.accepts, suits.avoids, suits.meets⟩
    rw [List.head?_eq_none_iff.mp none] at listed
    cases listed

inductive Verdict where
  | granted (allocation : Allocation) (token : Token)
  | held (protection : Option Allocation)

def Verdict.apply : Verdict → Core → Core
  | .granted allocation token, core =>
      { core with
        state := .granted
        epoch := core.epoch + 1
        allocation := allocation
        protection := none
        launchToken := some token }
  | .held protection, core => { core with protection := protection }

def Verdict.allocation? : Verdict → Option Allocation
  | .granted allocation _ => some allocation
  | .held _ => none

def Verdict.protection? : Verdict → Option Allocation
  | .granted _ _ => none
  | .held candidate => candidate

-- What a verdict on a stage is based on, given the allocations that own leaves
-- and the protections of the older ready stages.
inductive Sound (setting : Setting) (active protection : List Allocation) (stage : Stage) : Verdict → Prop where
  | granted (allocation : Allocation) (token : Token)
      (suits : Suits setting.registry stage.needs (active ++ protection) setting.quarantine [] allocation) :
      Sound setting active protection stage (.granted allocation token)
  | held (candidate : Option Allocation)
      (refused : ∀ allocation, ¬ Suits setting.registry stage.needs (active ++ protection)
      setting.quarantine [] allocation)
      (suits : ∀ allocation, candidate = some allocation →
        Suits setting.registry stage.needs protection setting.quarantine [] allocation)
      (kept : ∀ previous, stage.protection = some previous →
        Suits setting.registry stage.needs protection setting.quarantine [] previous → candidate = some previous)
      (fresh : stage.protection = none → setting.released = [] → candidate = none) :
      Sound setting active protection stage (.held candidate)

theorem meets_nothing (leaves : List Name) : meets [] leaves = true := by
  simp [meets]

theorem Suits.relaxed {registry : Registry} {needs : List Need} {others : List Allocation}
    {excluded required : List Name} {allocation : Allocation}
    (suits : Suits registry needs others excluded required allocation) : Suits registry needs others excluded
    [] allocation :=
  ⟨suits.complete, suits.accepts, suits.avoids, meets_nothing _⟩

theorem Suits.subperm {registry : Registry} {needs : List Need} {fewer more : List Allocation}
    {excluded required : List Name} {allocation : Allocation} (subperm : fewer.Subperm more)
    (suits : Suits registry needs more excluded required allocation) :
    Suits registry needs fewer excluded required allocation :=
  ⟨suits.complete, accepts_subperm _ allocation fewer more subperm suits.accepts, suits.avoids, suits.meets⟩

variable (setting : Setting)

theorem choose_grant_ok (normalized : Normalized setting.registry) (pass : Pass) (stage : Stage)
    (demandable : Demandable setting.registry stage.needs) (leaves : List Name) :
    ∃ found, chooseGrant setting pass stage leaves = .ok found ∧
      (∀ allocation, found = some allocation → Suits setting.registry stage.needs
        (pass.active.map (fun owner => owner.allocation) ++ pass.protection) setting.quarantine [] allocation) ∧
      (found = none → ∀ allocation, ¬ Suits setting.registry stage.needs
        (pass.active.map (fun owner => owner.allocation) ++ pass.protection) setting.quarantine [] allocation) :=
  first_assignment_ok setting.registry normalized stage.needs demandable _ _ _ _

theorem kept_protection_ok (normalized : Normalized setting.registry) (protection : List Allocation)
    (previous : Option Allocation) (needs : List Need)
    (complete : ∀ allocation, previous = some allocation → CompleteAssignment setting.registry needs allocation) :
    ∃ found, keptProtection setting protection previous = .ok found ∧
      (∀ allocation, found = some allocation ↔ previous = some allocation ∧
        Suits setting.registry needs protection setting.quarantine [] allocation) := by
  cases previous with
  | none => exact ⟨none, rfl, by simp⟩
  | some candidate =>
      have whole := complete candidate rfl
      by_cases quarantined : candidate.keys.any (fun leaf => decide (leaf ∈ setting.quarantine)) = true
      · refine ⟨none, by simp only [keptProtection, quarantined, if_true, pure_ok], fun allocation => ?_⟩
        simp only [reduceCtorEq, Option.some.injEq, false_iff, not_and]
        rintro rfl suits
        obtain ⟨leaf, held, inside⟩ := List.any_eq_true.mp quarantined
        exact suits.avoids leaf held (of_decide_eq_true inside)
      · have avoids : Avoids candidate setting.quarantine := fun leaf held inside =>
          quarantined (List.any_eq_true.mpr ⟨leaf, held, decide_eq_true inside⟩)
        obtain ⟨verdict, done, exactly⟩ := compatible_ok setting.registry normalized candidate
          (complete_leaves_only _ needs candidate whole) protection
        cases verdict with
        | false =>
            refine ⟨none, by simp [keptProtection, quarantined, done], fun allocation => ?_⟩
            simp only [reduceCtorEq, Option.some.injEq, false_iff, not_and]
            rintro rfl suits
            exact Bool.false_ne_true (exactly.mpr suits.accepts)
        | true =>
            refine ⟨some candidate, by simp [keptProtection, quarantined, done], fun allocation => ?_⟩
            simp only [Option.some.injEq]
            constructor
            · rintro rfl
              exact ⟨rfl, whole, exactly.mp rfl, avoids, meets_nothing _⟩
            · exact fun both => both.1

theorem choose_protection_ok (normalized : Normalized setting.registry)
    (protection : List Allocation) (stage : Stage) (demandable : Demandable setting.registry stage.needs)
    (complete : ∀ allocation, stage.protection = some allocation →
      CompleteAssignment setting.registry stage.needs allocation) (leaves : List Name) :
    ∃ found, chooseProtection setting protection stage leaves = .ok found ∧
      (∀ allocation, found = some allocation →
        Suits setting.registry stage.needs protection setting.quarantine [] allocation) ∧
      (∀ previous, stage.protection = some previous →
        Suits setting.registry stage.needs protection setting.quarantine [] previous → found = some previous) ∧
      (stage.protection = none → setting.released = [] → found = none) := by
  obtain ⟨kept, done, exactly⟩ := kept_protection_ok setting normalized protection stage.protection stage.needs complete
  cases kept with
  | some candidate =>
      obtain ⟨same, suits⟩ := (exactly candidate).mp rfl
      refine ⟨some candidate, by simp [chooseProtection, done], ?_, fun previous was _ => same.symm.trans was, ?_⟩
      · rintro allocation found
        cases found
        exact suits
      · exact fun none _ => absurd (none.symm.trans same) (by simp)
  | none =>
      have dropped : ∀ previous, stage.protection = some previous →
          ¬ Suits setting.registry stage.needs protection setting.quarantine [] previous := fun previous was suits =>
        absurd ((exactly previous).mpr ⟨was, suits⟩) (by simp)
      by_cases idle : setting.released = [] ∨ stage.id ∉ setting.previouslyReady
      · refine ⟨none, by simp [chooseProtection, done, newProtection, idle], by simp, ?_, fun _ _ => rfl⟩
        exact fun previous was suits => absurd suits (dropped previous was)
      · obtain ⟨found, chosen, some_, _⟩ := first_assignment_ok setting.registry normalized stage.needs demandable
          protection setting.quarantine (demandCount leaves) setting.released
        have same : chooseProtection setting protection stage leaves = .ok found := by
          simp only [chooseProtection, done, bind_ok, newProtection, if_neg idle]
          exact chosen
        refine ⟨found, same, fun allocation first => (some_ allocation first).relaxed, ?_, ?_⟩
        · exact fun previous was suits => absurd suits (dropped previous was)
        · exact fun _ nothing => absurd (.inl nothing) idle

structure Written (memory : List Stage) (before after : Ledger) : Prop where
  frame : Frame before after
  released : after.released = before.released
  ids : stageIds after = stageIds before
  rows : ∀ row ∈ before.stages, ∃ later ∈ after.stages, later.id = row.id ∧
    (Alike later row ∨ ∃ copy ∈ memory, copy.id = row.id ∧ Alike later copy)
  outside : ∀ row ∈ before.stages, row.id ∉ memory.map (fun copy => copy.id) → row ∈ after.stages

theorem Alike.trans {first second third : Stage} (lower : Alike first second) (upper : Alike second third) :
    Alike first third :=
  ⟨lower.1.trans upper.1, lower.2.trans upper.2⟩

theorem Alike.symm {first second : Stage} (alike : Alike first second) : Alike second first :=
  ⟨alike.1.symm, alike.2.symm⟩

theorem alike_ids (first second : List Stage) (alike : List.Forall₂ Alike first second) :
    second.map (fun stage => stage.id) = first.map (fun stage => stage.id) :=
  forall₂_keys (fun stage => stage.id) Alike first second (fun _ _ same => fixed_id _ _ same.1.symm) alike

theorem Written.trans {early late : List Stage} {first second third : Ledger} (lower : Written early first second)
    (upper : Written late second third) (alike : List.Forall₂ Alike early late) : Written late first third := by
  refine ⟨lower.frame.trans upper.frame, upper.released.trans lower.released, upper.ids.trans lower.ids,
    fun row listed => ?_, fun row listed outside => ?_⟩
  · obtain ⟨middle, present, same, either⟩ := lower.rows row listed
    obtain ⟨final, kept, again, or⟩ := upper.rows middle present
    refine ⟨final, kept, again.trans same, ?_⟩
    rcases or with like | ⟨copy, stored, key, like⟩
    · rcases either with first | ⟨copy, stored, key, first⟩
      · exact .inl (like.trans first)
      · obtain ⟨newer, held, alike⟩ := forall₂_mem_left _ _ _ alike copy stored
        exact .inr ⟨newer, held, (fixed_id _ _ alike.1.symm).trans key, like.trans (first.trans alike)⟩
    · exact .inr ⟨copy, stored, key.trans same, like⟩
  · have ids := alike_ids early late alike
    exact upper.outside row (lower.outside row listed (ids ▸ outside)) outside

theorem Saves.written {before after : Ledger} {stage row : Stage} (saves : Saves before stage after row)
    (memory : List Stage) (present : stage.id ∈ stageIds before) :
    Written (put Stage.id row memory) before after := by
  have key : row.id = stage.id := fixed_id _ _ saves.alike.1
  refine ⟨saves.frame, saves.released, saves.keys present, fun other listed => ?_, fun other listed outside => ?_⟩
  · by_cases same : other.id = stage.id
    · exact ⟨row, (saves.mem_iff row).mpr (.inl rfl), key.trans same.symm,
        .inr ⟨row, (mem_put _ _ _ _).mpr (.inl rfl), key.trans same.symm, Alike.refl row⟩⟩
    · exact ⟨other, (saves.mem_iff other).mpr (.inr ⟨listed, same⟩), rfl, .inl (Alike.refl other)⟩
  · refine (saves.mem_iff other).mpr (.inr ⟨listed, fun same => outside ?_⟩)
    exact List.mem_map.mpr ⟨row, (mem_put _ _ _ _).mpr (.inl rfl), key.trans same.symm⟩

variable (host : Host)

theorem bypass_alike (older : Stage) (count : Quantity)
    (counted : (older.bypassCount.getD (.integer 0)).next = .ok count) :
    Alike { older with bypassCount := some count } older := by
  have kept : ({ older with bypassCount := some count } : Stage).counts = older.counts :=
    Quantity.next_numeric _ count counted
  refine ⟨?_, rfl⟩
  simp only [Stage.fixed, kept]

theorem bypass_ok (ledger : Ledger) (stages : List Stage) (older : Stage) (after : Ledger × List Stage)
    (done : bypass host (ledger, stages) older = .ok after) :
    ∃ count, Alike { older with bypassCount := some count } older ∧
      after = ((ledger.save host { older with bypassCount := some count }).1,
        put Stage.id (ledger.save host { older with bypassCount := some count }).2 stages) := by
  simp only [bypass, bind_ok_iff, pure_ok, Except.ok.injEq] at done
  obtain ⟨count, counted, rfl⟩ := done
  exact ⟨count, bypass_alike older count counted, rfl⟩

theorem bypass_written (older : List Stage) (ledger after : Ledger) (stages copies : List Stage)
    (distinct : (stages.map Stage.id).Nodup) (known : ∀ id ∈ stages.map Stage.id, id ∈ stageIds ledger)
    (stored : ∀ copy ∈ older, ∃ kept ∈ stages, Alike kept copy)
    (done : older.foldlM (bypass host) (ledger, stages) = .ok (after, copies)) :
    List.Forall₂ Alike stages copies ∧ Written copies ledger after := by
  induction older generalizing ledger stages with
  | nil =>
      cases done
      refine ⟨List.forall₂_same.mpr fun stage _ => Alike.refl stage, Frame.refl _, rfl, rfl, fun row listed => ?_,
        fun row listed _ => listed⟩
      exact ⟨row, listed, rfl, .inl (Alike.refl row)⟩
  | cons copy rest ih =>
      rw [List.foldlM_cons, bind_ok_iff] at done
      obtain ⟨_, first, later⟩ := done
      obtain ⟨count, same, rfl⟩ := bypass_ok host ledger stages copy _ first
      obtain ⟨kept, held, like⟩ := stored copy List.mem_cons_self
      have saves := save_saves host ledger { copy with bypassCount := some count }
      generalize ledger.save host { copy with bypassCount := some count } = saved at saves later
      obtain ⟨next, row⟩ := saved
      simp only at saves later
      have rowLike : Alike row copy := Alike.trans saves.alike same
      have key : row.id = kept.id := fixed_id _ _ (rowLike.trans like.symm).1
      have present : kept.id ∈ stages.map Stage.id := List.mem_map_of_mem held
      have alike : List.Forall₂ Alike stages (put Stage.id row stages) := by
        refine put_forall₂ Stage.id Alike stages row kept distinct ?_ Alike.refl (like.trans rowLike.symm)
        rw [key]
        exact row_of_mem Stage.id stages distinct kept held
      have written : Written (put Stage.id row stages) ledger next := by
        refine saves.written stages (known _ ?_)
        rwa [← fixed_id _ _ saves.alike.1, key]
      have ids := alike_ids _ _ alike
      obtain ⟨likeRest, writtenRest⟩ := ih next (put Stage.id row stages)
        (by
          change ((put Stage.id row stages).map (fun stage => stage.id)).Nodup
          rw [ids]
          exact distinct)
        (fun id listed => by
          rw [written.ids]
          refine known id ?_
          change id ∈ (put Stage.id row stages).map (fun stage => stage.id) at listed
          rwa [ids] at listed)
        (fun other inRest => by
          obtain ⟨held, member, same⟩ := stored other (List.mem_cons_of_mem _ inRest)
          obtain ⟨newer, found, again⟩ := forall₂_mem_left _ _ _ alike held member
          exact ⟨newer, found, again.symm.trans same⟩) later
      exact ⟨forall₂_trans Alike (fun _ _ _ => Alike.trans) _ _ _ alike likeRest, written.trans writtenRest likeRest⟩

def Verdict.newOwner (verdict : Verdict) (row : Stage) : List Stage :=
  match verdict with
  | .granted _ _ => [row]
  | .held _ => []

structure Visit (setting : Setting) (before : Pass) (stage : Stage) (verdict : Verdict) (row : Stage) (after : Pass) :
    Prop where
  sound : Sound setting (before.active.map (fun owner => owner.allocation)) before.protection stage verdict
  fixed : row.fixed = stage.fixed
  core : row.core = verdict.apply stage.core
  decided : ∃ leaves, demandedLeaves setting.registry before.stages stage = .ok leaves ∧
    chooseGrant setting before stage leaves = .ok verdict.allocation? ∧
    (verdict.allocation? = none → chooseProtection setting before.protection stage leaves = .ok verdict.protection?)
  memory : List.Forall₂ Alike (put Stage.id row before.stages) after.stages
  written : Written after.stages before.ledger after.ledger
  stored : ∃ later ∈ after.ledger.stages, Alike later row
  active : after.active = before.active ++ verdict.newOwner row
  granted : after.granted = before.granted ++ verdict.newOwner row
  protection : after.protection = before.protection ++ verdict.protection?.toList

structure Indexed (pass : Pass) : Prop where
  distinct : (pass.stages.map Stage.id).Nodup
  known : ∀ id ∈ pass.stages.map Stage.id, id ∈ stageIds pass.ledger

theorem put_indexed (stages : List Stage) (row : Stage) (present : row.id ∈ stages.map Stage.id) :
    (put Stage.id row stages).map Stage.id = stages.map Stage.id :=
  put_keys Stage.id row stages present

theorem grant_visit (setting : Setting) (before after : Pass) (stage : Stage) (leaves : List Name) (chosen : Allocation)
    (indexed : Indexed before) (listed : stage.id ∈ before.stages.map Stage.id)
    (demanded : demandedLeaves setting.registry before.stages stage = .ok leaves)
    (choice : chooseGrant setting before stage leaves = .ok (some chosen))
    (suits : Suits setting.registry stage.needs (before.active.map (fun owner => owner.allocation) ++ before.protection)
      setting.quarantine [] chosen)
    (done : grant host setting before stage chosen = .ok after) :
    ∃ token row, Visit setting before stage (.granted chosen token) row after := by
  simp only [grant, bind_ok_iff, pure_ok, Except.ok.injEq] at done
  obtain ⟨known, _, _, _, ⟨final, copies⟩, passed, rfl⟩ := done
  generalize (Ledger.newToken host before.ledger).2 = token at passed ⊢
  generalize ((Ledger.newToken host before.ledger).1.newToken host).2 = maintenance at passed ⊢
  have counted : Frame before.ledger
      (((Ledger.newToken host before.ledger).1.newToken host).1.now host).1 :=
    ⟨rfl, rfl, rfl, rfl, Nat.le_refl _, by simp only [Ledger.newToken, Ledger.now]; omega⟩
  have stages : (((Ledger.newToken host before.ledger).1.newToken host).1.now host).1.stages = before.ledger.stages := rfl
  have released : (((Ledger.newToken host before.ledger).1.newToken host).1.now host).1.released =
    before.ledger.released := rfl
  generalize (((Ledger.newToken host before.ledger).1.newToken host).1.now host).2 = moment at passed ⊢
  generalize (((Ledger.newToken host before.ledger).1.newToken host).1.now host).1 = drawn at counted stages released passed ⊢
  have saves := save_saves host drawn (stage.take chosen known token maintenance moment)
  generalize drawn.save host (stage.take chosen known token maintenance moment) = saved at saves passed ⊢
  obtain ⟨middle, row⟩ := saved
  simp only at saves passed ⊢
  have key : row.id = stage.id := fixed_id _ _ saves.alike.1
  have present : row.id ∈ before.stages.map Stage.id := key ▸ listed
  have ids : (put Stage.id row before.stages).map Stage.id = before.stages.map Stage.id :=
    put_indexed before.stages row present
  have first : Written (put Stage.id row before.stages) before.ledger middle := by
    have written := saves.written before.stages (by
      rw [stageIds, stages]
      exact indexed.known _ listed)
    exact ⟨counted.trans written.frame, written.released.trans released,
      written.ids.trans (by rw [stageIds, stages, stageIds]), stages ▸ written.rows, stages ▸ written.outside⟩
  obtain ⟨alike, second⟩ := bypass_written host (bypassed (put Stage.id row before.stages) row) middle final
    (put Stage.id row before.stages) copies (ids ▸ indexed.distinct)
    (fun id member => by
      rw [first.ids]
      exact indexed.known id (ids ▸ member))
    (fun copy member => ⟨copy, (List.mem_filter.mp member).1, Alike.refl copy⟩) passed
  refine ⟨token, row, .granted chosen token suits, saves.alike.1, saves.alike.2, ⟨leaves, demanded, choice, ?_⟩, alike,
    first.trans second alike, ?_,
    rfl, rfl, by simp [Verdict.protection?]⟩
  · exact fun refused => by cases refused
  obtain ⟨later, kept, same, either⟩ := second.rows row ((saves.mem_iff row).mpr (.inl rfl))
  refine ⟨later, kept, ?_⟩
  rcases either with like | ⟨copy, member, match_, like⟩
  · exact like
  · obtain ⟨earlier, held, agree⟩ := forall₂_mem_right _ _ _ alike copy member
    have unique : earlier = row := row_unique Stage.id _ (ids ▸ indexed.distinct) earlier row held
      ((mem_put _ _ _ _).mpr (.inl rfl)) ((fixed_id _ _ agree.1).trans match_)
    exact like.trans (unique ▸ agree).symm

theorem hold_visit (setting : Setting) (normalized : Normalized setting.registry) (before after : Pass)
    (stage : Stage) (leaves : List Name) (indexed : Indexed before) (listed : stage.id ∈ before.stages.map Stage.id)
    (demandable : Demandable setting.registry stage.needs)
    (complete : ∀ allocation, stage.protection = some allocation →
      CompleteAssignment setting.registry stage.needs allocation)
    (refused : ∀ allocation, ¬ Suits setting.registry stage.needs
      (before.active.map (fun owner => owner.allocation) ++ before.protection) setting.quarantine [] allocation)
    (demanded : demandedLeaves setting.registry before.stages stage = .ok leaves)
    (choice : chooseGrant setting before stage leaves = .ok none)
    (done : hold host setting before stage leaves = .ok after) :
    ∃ candidate row, Visit setting before stage (.held candidate) row after := by
  obtain ⟨candidate, chosen, suits, kept, fresh⟩ :=
    choose_protection_ok setting normalized before.protection stage demandable complete leaves
  simp only [hold, chosen, bind_ok, bind_ok_iff, pure_ok, Except.ok.injEq] at done
  obtain ⟨reason, _, blockers, _, rfl⟩ := done
  have saves := save_saves host before.ledger (stage.wait candidate reason blockers)
  generalize before.ledger.save host (stage.wait candidate reason blockers) = saved at saves ⊢
  obtain ⟨middle, row⟩ := saved
  simp only at saves ⊢
  exact ⟨candidate, row, .held candidate refused suits kept fresh, saves.alike.1, saves.alike.2,
    ⟨leaves, demanded, choice, fun _ => chosen⟩, List.forall₂_same.mpr fun copy _ => Alike.refl copy,
    saves.written before.stages (indexed.known _ listed),
    ⟨row, (saves.mem_iff row).mpr (.inl rfl), Alike.refl row⟩, by
      simp [Verdict.newOwner], by simp [Verdict.newOwner], rfl⟩

theorem visit_ok (setting : Setting) (normalized : Normalized setting.registry) (before after : Pass)
    (stage : Stage) (indexed : Indexed before) (listed : stage.id ∈ before.stages.map Stage.id)
    (demandable : Demandable setting.registry stage.needs)
    (complete : ∀ allocation, stage.protection = some allocation →
      CompleteAssignment setting.registry stage.needs allocation)
    (done : visit host setting before stage = .ok after) :
    ∃ verdict row, Visit setting before stage verdict row after := by
  obtain ⟨leaves, demanded, rest⟩ := (bind_ok_iff _ _ _).mp done
  obtain ⟨found, choice, some_, none_⟩ := choose_grant_ok setting normalized before stage demandable leaves
  rw [choice, bind_ok] at rest
  cases found with
  | some chosen =>
      obtain ⟨token, row, visit⟩ := grant_visit host setting before after stage leaves chosen indexed listed demanded
        choice (some_ chosen rfl) rest
      exact ⟨.granted chosen token, row, visit⟩
  | none =>
      obtain ⟨candidate, row, visit⟩ :=
        hold_visit host setting normalized before after stage leaves indexed listed demandable complete (none_ rfl)
          demanded choice rest
      exact ⟨.held candidate, row, visit⟩

end OrchestratorEngine.ResourceQueue
