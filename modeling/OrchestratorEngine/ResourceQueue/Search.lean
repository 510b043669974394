import OrchestratorEngine.ResourceQueue.Assignments
import OrchestratorEngine.ResourceQueue.Selectors

set_option autoImplicit false

namespace OrchestratorEngine.ResourceQueue

open Foundation

def IsLeaf (registry : Registry) (leaf : Name) : Prop :=
  ∃ entry, registry.get? leaf = some entry ∧ entry.kind = some .resource

def leafCapacity (registry : Registry) (leaf : Name) : Nat :=
  match registry.get? leaf with
  | none => 0
  | some entry =>
      match entry.capacity with
      | some (.integer capacity) => capacity.toNat
      | _ => 0

def LeavesOnly (registry : Registry) (allocation : Allocation) : Prop :=
  ∀ leaf claim, allocation.get? leaf = some claim → IsLeaf registry leaf

variable (registry : Registry)

theorem capacity_of_leaf (normalized : Normalized registry) (leaf : Name)
    (isLeaf : IsLeaf registry leaf) : capacityOf registry leaf = .ok (leafCapacity registry leaf : Int) := by
  obtain ⟨entry, known, resource⟩ := isLeaf
  obtain ⟨capacity, found, _⟩ := (normalized.normal leaf entry known).leaf resource
  simp [capacityOf, leafCapacity, known, found, Quantity.floor]

theorem strangers_iff (claim : Claim) (held : List Claim) :
    (held.any (fun other => other.mode ≠ .shared ∨ other.compatibility ≠ claim.compatibility)) = true ↔
      ¬ ∀ other ∈ held, other.mode = .shared ∧ other.compatibility = claim.compatibility := by
  simp only [ne_eq, List.any_eq_true, decide_eq_true_eq, not_forall, not_and_or, exists_prop]

theorem compatible_item_ok (normalized : Normalized registry) (others : List Allocation)
    (leaf : Name) (claim : Claim) (isLeaf : IsLeaf registry leaf) :
    compatibleItem registry others (leaf, claim) =
      .ok (decide (Admits (leafCapacity registry leaf) claim (claimsOn leaf others))) := by
  have known : (registry.get? leaf).isSome = true := by
    obtain ⟨entry, found, _⟩ := isLeaf
    simp [found]
  simp only [compatibleItem, known, if_true, capacity_of_leaf registry normalized leaf isLeaf, bind_ok, pure_ok]
  by_cases small : (leafCapacity registry leaf : Int) < claim.units
  · have refused : ¬ Admits (leafCapacity registry leaf) claim (claimsOn leaf others) := fun admitted => by
      have bound := admitted.1
      omega
    simp only [small, if_true, refused, decide_false]
  · rw [if_neg small]
    by_cases alone : claimsOn leaf others = []
    · have admitted : Admits (leafCapacity registry leaf) claim (claimsOn leaf others) :=
        ⟨by omega, .inl alone⟩
      simp only [alone, if_true] at admitted ⊢
      simp only [admitted, decide_true]
    · rw [if_neg alone]
      by_cases stranger : claim.mode = .exclusive ∨ ((claimsOn leaf others).any (fun other =>
          other.mode ≠ .shared ∨ other.compatibility ≠ claim.compatibility)) = true
      · have refused : ¬ Admits (leafCapacity registry leaf) claim (claimsOn leaf others) := by
          rintro ⟨_, nothing | ⟨mode, classes, _⟩⟩
          · exact alone nothing
          · rcases stranger with exclusive | found
            · exact Mode.noConfusion (mode.symm.trans exclusive)
            · exact (strangers_iff claim _).mp found classes
        rw [if_pos stranger]
        simp only [refused, decide_false]
      · rw [if_neg stranger]
        obtain ⟨notExclusive, noStranger⟩ := not_or.mp stranger
        have classes := not_not.mp (mt (strangers_iff claim _).mpr noStranger)
        have shared : claim.mode = .shared := by
          cases mode : claim.mode with
          | exclusive => exact absurd mode notExclusive
          | shared => rfl
        by_cases large : (leafCapacity registry leaf : Int) < claim.units + unitsHeld (claimsOn leaf others)
        · have refused : ¬ Admits (leafCapacity registry leaf) claim (claimsOn leaf others) := by
            rintro ⟨_, nothing | ⟨_, _, bounded⟩⟩
            · exact alone nothing
            · omega
          simp only [large, if_true, refused, decide_false]
        · have admitted : Admits (leafCapacity registry leaf) claim (claimsOn leaf others) :=
            ⟨by omega, .inr ⟨shared, classes, by omega⟩⟩
          simp only [large, if_false, admitted, decide_true]

theorem compatible_ok (normalized : Normalized registry) (allocation : Allocation)
    (leaves : LeavesOnly registry allocation) (others : List Allocation) :
    ∃ verdict, compatible registry allocation others = .ok verdict ∧
      (verdict = true ↔ Accepts (leafCapacity registry) allocation others) := by
  have items : ∀ item ∈ allocation.items, compatibleItem registry others item =
      .ok (decide (Admits (leafCapacity registry item.1) item.2 (claimsOn item.1 others))) := fun item listed =>
    compatible_item_ok registry normalized others item.1 item.2
      (leaves item.1 item.2 ((Dict.mem_items allocation item.1 item.2).mp listed))
  obtain ⟨verdict, done, exactly⟩ := allM_ok (compatibleItem registry others) allocation.items
    (fun item listed => ⟨_, items item listed⟩)
  refine ⟨verdict, done, exactly.trans ⟨fun all leaf claim found => ?_, fun accepts item listed => ?_⟩⟩
  · have listed := (Dict.mem_items allocation leaf claim).mpr found
    have passed := (items (leaf, claim) listed).symm.trans (all (leaf, claim) listed)
    exact of_decide_eq_true (Except.ok.inj passed)
  · rw [items item listed]
    exact congrArg _ (decide_eq_true (accepts item.1 item.2 ((Dict.mem_items _ _ _).mp listed)))

theorem compatible_true_iff (normalized : Normalized registry) (allocation : Allocation)
    (leaves : LeavesOnly registry allocation) (others : List Allocation) :
    compatible registry allocation others = .ok true ↔ Accepts (leafCapacity registry) allocation others := by
  obtain ⟨verdict, done, exactly⟩ := compatible_ok registry normalized allocation leaves others
  rw [done, Except.ok.injEq, exactly]

theorem single_leaves_only (leaf : Name) (claim : Claim) (isLeaf : IsLeaf registry leaf) :
    LeavesOnly registry (Dict.single leaf claim) := by
  intro other held found
  rw [Dict.get_single] at found
  split at found
  · rename_i same
    rwa [same]
  · cases found

-- The meaning of a complete assignment: one choice for every need, and claims
-- of one shared class added up where choices meet.
inductive Assigns (registry : Registry) : List Specification → Allocation → Allocation → Prop where
  | done (allocation : Allocation) : Assigns registry [] allocation allocation
  | choose (specification : Specification) (rest : List Specification) (choice : List Name)
      (start middle final : Allocation) (chosen : Chooses (selectorGraph registry) specification.name choice)
      (taken : takeAll specification.claim choice start = some middle)
      (later : Assigns registry rest middle final) : Assigns registry (specification :: rest) start final

def CompleteAssignment (registry : Registry) (needs : List Need) (allocation : Allocation) : Prop :=
  ∃ specifications, demands registry needs = .ok specifications ∧
    Assigns registry specifications Dict.empty allocation

variable (specifications : List Specification)

variable (start final : Allocation)

theorem assigns_within
    (assigns : Assigns registry specifications start final) : Within start final := by
  induction assigns with
  | done allocation => exact Within.refl allocation
  | choose _ _ choice start middle _ _ taken _ ih => exact (take_all_within _ choice start middle taken).trans ih

theorem choice_is_leaf (name : Name) (choice : List Name)
    (chosen : Chooses (selectorGraph registry) name choice) (leaf : Name) (listed : leaf ∈ choice) :
    IsLeaf registry leaf :=
  leaf_of_resource registry leaf name (chooses_leaf _ name choice chosen leaf listed)

theorem take_leaves_only (claim : Claim) (choice : List Name) (start final : Allocation)
    (taken : takeAll claim choice start = some final) (chosen : ∀ leaf ∈ choice, IsLeaf registry leaf)
    (leaves : LeavesOnly registry start) : LeavesOnly registry final := by
  intro leaf held found
  by_cases listed : leaf ∈ choice
  · exact chosen leaf listed
  · rw [take_all_get claim choice start final leaf taken listed] at found
    exact leaves leaf held found

theorem assigns_leaves_only
    (assigns : Assigns registry specifications start final) (leaves : LeavesOnly registry start) :
    LeavesOnly registry final := by
  induction assigns with
  | done => exact leaves
  | choose _ _ choice start middle _ chosen taken _ ih =>
      exact ih (take_leaves_only registry _ choice start middle taken (choice_is_leaf registry _ choice chosen) leaves)

theorem empty_leaves_only : LeavesOnly registry Dict.empty := by
  intro leaf claim found
  cases found

theorem complete_leaves_only (needs : List Need) (allocation : Allocation)
    (complete : CompleteAssignment registry needs allocation) : LeavesOnly registry allocation := by
  obtain ⟨specifications, _, assigns⟩ := complete
  exact assigns_leaves_only registry specifications _ allocation assigns (empty_leaves_only registry)

theorem assigns_keys
    (assigns : Assigns registry specifications start final) (leaf : Name) (held : leaf ∈ final.keys) :
    leaf ∈ start.keys ∨ ∃ specification ∈ specifications, LeafOf (selectorGraph registry) leaf specification.name := by
  induction assigns with
  | done => exact .inl held
  | choose specification rest choice start middle final chosen taken _ ih =>
      rcases ih held with before | ⟨other, listed, inside⟩
      · by_cases listed : leaf ∈ choice
        · exact .inr ⟨specification, List.mem_cons_self, chooses_leaf _ _ choice chosen leaf listed⟩
        · obtain ⟨claim, found⟩ := (Dict.mem_keys _ _).mp before
          rw [take_all_get _ choice start middle leaf taken listed] at found
          exact .inl ((Dict.mem_keys _ _).mpr ⟨claim, found⟩)
      · exact .inr ⟨other, List.mem_cons_of_mem _ listed, inside⟩

theorem merge_leaf_ok (normalized : Normalized registry) (specification : Specification)
    (candidate : Allocation) (leaf : Name) (isLeaf : IsLeaf registry leaf) :
    ∃ merged, mergeLeaf registry specification candidate leaf = .ok merged ∧ ∀ next, merged = some next ↔
      take specification.claim candidate leaf = some next ∧
        ∀ held, next.get? leaf = some held → held.units ≤ leafCapacity registry leaf := by
  rw [mergeLeaf, take]
  cases joined : specification.claim.join (candidate.get? leaf) with
  | none => exact ⟨none, rfl, by simp⟩
  | some claim =>
      simp only [capacity_of_leaf registry normalized leaf isLeaf, bind_ok, pure_ok, Option.map_some,
        Option.some.injEq]
      by_cases large : (leafCapacity registry leaf : Int) < claim.units
      · rw [if_pos large]
        refine ⟨none, rfl, fun next => ⟨fun impossible => (by cases impossible), ?_⟩⟩
        rintro ⟨same, bounded⟩
        subst same
        have bound := bounded claim (by simp)
        omega
      · rw [if_neg large]
        refine ⟨_, rfl, fun next => ?_⟩
        rw [Option.some.injEq]
        refine ⟨fun same => ⟨same, fun held found => ?_⟩, And.left⟩
        rw [← same, Dict.get_set, if_pos rfl, Option.some.injEq] at found
        subst found
        omega

theorem merge_leaves_ok (normalized : Normalized registry) (specification : Specification)
    (choice : List Name) (candidate : Allocation) (leaves : ∀ leaf ∈ choice, IsLeaf registry leaf)
    (distinct : choice.Nodup) :
    ∃ merged, mergeLeaves registry specification choice candidate = .ok merged ∧ ∀ final, merged = some final ↔
      takeAll specification.claim choice candidate = some final ∧
        ∀ leaf ∈ choice, ∀ held, final.get? leaf = some held → held.units ≤ leafCapacity registry leaf := by
  induction choice generalizing candidate with
  | nil => exact ⟨some candidate, rfl, by simp [takeAll]⟩
  | cons leaf rest ih =>
      obtain ⟨fresh, distinctRest⟩ := List.nodup_cons.mp distinct
      obtain ⟨merged, done, exactly⟩ :=
        merge_leaf_ok registry normalized specification candidate leaf (leaves leaf List.mem_cons_self)
      rw [mergeLeaves, done, bind_ok, takeAll]
      cases merged with
      | none =>
          refine ⟨none, rfl, fun final => ⟨fun impossible => (by cases impossible), ?_⟩⟩
          rintro ⟨taken, bounded⟩
          obtain ⟨next, first, later⟩ := Option.bind_eq_some_iff.mp taken
          refine (Option.some_ne_none next ((exactly next).mpr ⟨first, fun held found => ?_⟩).symm).elim
          rw [← take_all_get _ rest next final leaf later fresh] at found
          exact bounded leaf List.mem_cons_self held found
      | some next =>
          obtain ⟨first, bounded⟩ := (exactly next).mp rfl
          obtain ⟨final, finished, exactlyRest⟩ := ih next
            (fun other listed => leaves other (List.mem_cons_of_mem _ listed)) distinctRest
          refine ⟨final, finished, fun result => ?_⟩
          rw [exactlyRest, first, Option.bind_some]
          constructor
          · rintro ⟨taken, boundedRest⟩
            refine ⟨taken, fun other listed held found => ?_⟩
            rcases List.mem_cons.mp listed with rfl | inRest
            · rw [take_all_get _ rest next result other taken fresh] at found
              exact bounded held found
            · exact boundedRest other inRest held found
          · rintro ⟨taken, all⟩
            exact ⟨taken, fun other listed => all other (List.mem_cons_of_mem _ listed)⟩

theorem remaining_leaves_ok (grounded : Grounded registry)
    (specifications : List Specification)
    (known : ∀ specification ∈ specifications, ∃ entry, registry.get? specification.name = some entry) :
    ∃ leaves, remainingLeaves registry specifications = .ok leaves ∧ ∀ leaf, leaf ∈ leaves ↔
      ∃ specification ∈ specifications, LeafOf (selectorGraph registry) leaf specification.name := by
  induction specifications with
  | nil => exact ⟨[], rfl, by simp⟩
  | cons specification rest ih =>
      obtain ⟨entry, found⟩ := known specification List.mem_cons_self
      obtain ⟨later, done, exactlyLater⟩ := ih (fun other listed => known other (List.mem_cons_of_mem _ listed))
      obtain ⟨leaves, here, _, exactly⟩ := selector_leaves_ok registry grounded specification.name entry found
      refine ⟨later ++ leaves, by simp [remainingLeaves, done, here], fun leaf => ?_⟩
      rw [List.mem_append, exactlyLater, exactly, List.exists_mem_cons_iff, or_comm]

theorem meets_subset (required fewer more : List Name) (subset : fewer ⊆ more)
    (met : meets required fewer = true) : meets required more = true := by
  simp only [meets, Bool.or_eq_true, decide_eq_true_eq, List.any_eq_true] at met ⊢
  rcases met with nothing | ⟨leaf, listed, inside⟩
  · exact .inl nothing
  · exact .inr ⟨leaf, listed, subset inside⟩

theorem choice_unavailable_free (normalized : Normalized registry) (claim : Claim)
    (others : List Allocation) (start middle : Allocation) (choice : List Name)
    (leaves : ∀ leaf ∈ choice, IsLeaf registry leaf) (taken : takeAll claim choice start = some middle)
    (accepts : Accepts (leafCapacity registry) middle others) (leaf : Name) (listed : leaf ∈ choice) :
    compatible registry (Dict.single leaf claim) others = .ok true := by
  have isLeaf := leaves leaf listed
  rw [compatible_true_iff registry normalized _ (single_leaves_only registry leaf claim isLeaf)]
  obtain ⟨held, found, smaller⟩ := take_all_held claim choice start middle taken leaf listed
  refine accepts_within _ _ middle _ (fun other part same => ?_) accepts
  rw [Dict.get_single] at same
  split at same
  · rename_i here
    cases same
    exact ⟨held, by rwa [here], smaller⟩
  · cases same

def Avoids (allocation : Allocation) (excluded : List Name) : Prop := ∀ leaf ∈ allocation.keys, leaf ∉ excluded

theorem within_keys (part whole : Allocation) (within : Within part whole) (leaf : Name)
    (held : leaf ∈ part.keys) : leaf ∈ whole.keys := by
  obtain ⟨claim, found⟩ := (Dict.mem_keys _ _).mp held
  obtain ⟨larger, kept, _⟩ := within leaf claim found
  exact (Dict.mem_keys _ _).mpr ⟨larger, kept⟩

theorem try_choice_ok (normalized : Normalized registry) (others : List Allocation)
    (specification : Specification) (next : Allocation → Except Error (List Allocation))
    (result : Allocation → Allocation → Prop) (start : Allocation) (leaves : LeavesOnly registry start)
    (choice : List Name) (isLeaf : ∀ leaf ∈ choice, IsLeaf registry leaf) (distinct : choice.Nodup)
    (below : ∀ middle final, result middle final →
      Within middle final ∧ Accepts (leafCapacity registry) final others)
    (total : ∀ middle, takeAll specification.claim choice start = some middle →
      Accepts (leafCapacity registry) middle others →
      ∃ results, next middle = .ok results ∧ ∀ final, final ∈ results ↔ result middle final) :
    ∃ results, tryChoice registry others specification next start choice = .ok results ∧ ∀ final,
      final ∈ results ↔ ∃ middle, takeAll specification.claim choice start = some middle ∧ result middle final := by
  obtain ⟨merged, done, exactly⟩ := merge_leaves_ok registry normalized specification choice start isLeaf distinct
  have accepted : ∀ middle final, takeAll specification.claim choice start = some middle → result middle final →
      merged = some middle ∧ Accepts (leafCapacity registry) middle others := by
    intro middle final taken found
    obtain ⟨within, accepts⟩ := below middle final found
    have accepts := accepts_within _ middle final others within accepts
    refine ⟨(exactly middle).mpr ⟨taken, fun leaf _ held kept => (accepts leaf held kept).1⟩, accepts⟩
  rw [tryChoice, done, bind_ok]
  cases merged with
  | none =>
      refine ⟨[], rfl, fun final => ⟨fun listed => by simp at listed, fun ⟨middle, taken, found⟩ => ?_⟩⟩
      exact (Option.some_ne_none middle (accepted middle final taken found).1.symm).elim
  | some candidate =>
      have taken := ((exactly candidate).mp rfl).1
      have only := take_leaves_only registry specification.claim choice start candidate taken isLeaf leaves
      obtain ⟨verdict, checked, fits⟩ := compatible_ok registry normalized candidate only others
      simp only [checked, bind_ok, pure_ok]
      cases verdict with
      | false =>
          refine ⟨[], rfl, fun final => ⟨fun listed => by simp at listed, fun ⟨middle, again, found⟩ => ?_⟩⟩
          obtain ⟨same, accepts⟩ := accepted middle final again found
          cases same
          exact (Bool.false_ne_true (fits.mpr accepts)).elim
      | true =>
          obtain ⟨results, finished, exactlyNext⟩ := total candidate taken (fits.mp rfl)
          refine ⟨results, finished, fun final => (exactlyNext final).trans ?_⟩
          refine ⟨fun found => ⟨candidate, taken, found⟩, fun ⟨middle, again, found⟩ => ?_⟩
          cases taken.symm.trans again
          exact found

theorem search_ok (normalized : Normalized registry) (others : List Allocation)
    (excluded : List Name) (priority : Name → Int) (required : List Name) (specifications : List Specification)
    (known : ∀ specification ∈ specifications, ∃ entry, registry.get? specification.name = some entry)
    (start : Allocation) (leaves : LeavesOnly registry start)
    (accepts : Accepts (leafCapacity registry) start others) (avoids : Avoids start excluded) :
    ∃ results, search registry others excluded priority required specifications start = .ok results ∧
      ∀ final, final ∈ results ↔ Assigns registry specifications start final ∧
        Accepts (leafCapacity registry) final others ∧ Avoids final excluded ∧
        meets required final.keys = true := by
  induction specifications generalizing start with
  | nil =>
      refine ⟨_, rfl, fun final => ?_⟩
      constructor
      · intro listed
        split at listed
        · rename_i met
          rw [List.mem_singleton] at listed
          subst listed
          exact ⟨.done _, accepts, avoids, met⟩
        · simp at listed
      · rintro ⟨assigns, _, _, met⟩
        cases assigns
        simp [met]
  | cons specification rest ih =>
      obtain ⟨entry, found⟩ := known specification List.mem_cons_self
      have walk := normalized.walk specification.name entry found
      obtain ⟨remaining, remains, inRemaining⟩ :=
        remaining_leaves_ok registry normalized.toGrounded (specification :: rest) known
      obtain ⟨available, checked, possible⟩ := selector_claim_available_ok registry specification.claim others excluded
        (fun leaf other here resource => by
          obtain ⟨verdict, done, _⟩ := compatible_ok registry normalized _
            (single_leaves_only registry leaf specification.claim ⟨other, here, resource⟩) others
          exact ⟨verdict, done⟩)
        (depth registry) specification.name [] walk
      obtain ⟨inside, listedLeaves, _, isInside⟩ :=
        selector_leaves_ok registry normalized.toGrounded specification.name entry found
      obtain ⟨unavailable, filtered, isUnavailable⟩ := filter_ok
        (unavailableLeaf registry others specification.claim) inside (fun leaf listed => by
          obtain ⟨verdict, done, _⟩ := compatible_ok registry normalized _
            (single_leaves_only registry leaf specification.claim
              (leaf_of_resource registry leaf _ ((isInside leaf).mp listed))) others
          exact ⟨!verdict, by rw [unavailableLeaf, done]; rfl⟩)
      obtain ⟨options, alternated, isOption⟩ := alternatives_ok registry normalized.toGrounded priority
        (excluded ++ unavailable) specification.name entry found
      have branches := fun (choice : List Name) (listed : choice ∈ options) =>
        have chosen := ((isOption choice).mp listed).1
        try_choice_ok registry normalized others specification
          (search registry others excluded priority required rest)
          (fun middle final => Assigns registry rest middle final ∧ Accepts (leafCapacity registry) final others ∧
            Avoids final excluded ∧ meets required final.keys = true)
          start leaves choice (choice_is_leaf registry _ choice chosen) (chooses_nodup _ _ choice chosen)
          (fun middle final found => ⟨assigns_within registry rest middle final found.1, found.2.1⟩)
          (fun middle taken fits => ih (fun other inRest => known other (List.mem_cons_of_mem _ inRest)) middle
            (take_leaves_only registry _ choice start middle taken (choice_is_leaf registry _ choice chosen) leaves)
            fits (fun leaf held => by
              obtain ⟨claim, kept⟩ := (Dict.mem_keys _ _).mp held
              by_cases inChoice : leaf ∈ choice
              · exact fun gone => ((isOption choice).mp listed).2 leaf inChoice (List.mem_append_left _ gone)
              · rw [take_all_get _ choice start middle leaf taken inChoice] at kept
                exact avoids leaf ((Dict.mem_keys _ _).mpr ⟨claim, kept⟩)))
      obtain ⟨branchResults, visited, related⟩ := mapM_ok _ _ options branches
      -- Every leaf of a successful choice survives both filters of this frame.
      have free : ∀ choice middle final, Chooses (selectorGraph registry) specification.name choice →
          takeAll specification.claim choice start = some middle → Assigns registry rest middle final →
          Accepts (leafCapacity registry) final others → Avoids final excluded → ∀ leaf ∈ choice, leaf ∉ excluded ∧
            compatible registry (Dict.single leaf specification.claim) others = .ok true := by
        intro choice middle final chosen taken later fits clear leaf listed
        have within := assigns_within registry rest middle final later
        obtain ⟨held, kept, _⟩ := take_all_held _ choice start middle taken leaf listed
        refine ⟨clear leaf (within_keys middle final within leaf ((Dict.mem_keys _ _).mpr ⟨held, kept⟩)), ?_⟩
        exact choice_unavailable_free registry normalized specification.claim others start middle choice
          (choice_is_leaf registry _ choice chosen) taken (accepts_within _ middle final others within fits) leaf listed
      rw [search, remains, bind_ok]
      by_cases met : meets required (start.keys ++ remaining) = true
      · cases available with
        | false =>
            refine ⟨[], by simp [met, selectorClaimAvailable, checked], fun final => ?_⟩
            simp only [List.not_mem_nil, false_iff]
            rintro ⟨assigns, fits, clear, _⟩
            cases assigns with
            | choose _ _ choice _ middle _ chosen taken later =>
                have passes := free choice middle final chosen taken later fits clear
                obtain ⟨level, within⟩ := chosen
                have bounded := chooses_within_walkable registry _ level _ [] choice walk within
                exact Bool.false_ne_true (possible.mpr (possible_of_choice _ _ _ _ choice bounded passes))
        | true =>
            refine ⟨branchResults.flatten, by
              simp [met, selectorClaimAvailable, checked, listedLeaves, filtered, alternated, visited], fun final => ?_⟩
            rw [List.mem_flatten]
            constructor
            · rintro ⟨results, present, listed⟩
              obtain ⟨choice, inOptions, exactly⟩ := forall₂_mem_right _ _ _ related results present
              obtain ⟨middle, taken, later, rest⟩ := (exactly final).mp listed
              exact ⟨.choose specification _ choice start middle final ((isOption choice).mp inOptions).1
                taken later, rest⟩
            · rintro ⟨assigns, fits, clear, hits⟩
              cases assigns with
              | choose _ _ choice _ middle _ chosen taken later =>
                  have passes := free choice middle final chosen taken later fits clear
                  have inOptions : choice ∈ options := (isOption choice).mpr ⟨chosen, fun leaf listed => by
                    rw [List.mem_append, not_or]
                    refine ⟨(passes leaf listed).1, fun blocked => ?_⟩
                    have refused := ((isUnavailable leaf).mp blocked).2
                    rw [unavailableLeaf, (passes leaf listed).2] at refused
                    cases refused⟩
                  obtain ⟨results, present, exactly⟩ := forall₂_mem_left _ _ _ related choice inOptions
                  exact ⟨results, present, (exactly final).mpr ⟨middle, taken, later, fits, clear, hits⟩⟩
      · refine ⟨[], by simp [met], fun final => ?_⟩
        simp only [List.not_mem_nil, false_iff]
        rintro ⟨assigns, _, _, hits⟩
        refine met (meets_subset required final.keys _ (fun leaf held => ?_) hits)
        rw [List.mem_append, inRemaining]
        exact assigns_keys registry _ start final assigns leaf held

theorem empty_accepts (others : List Allocation) :
    Accepts (leafCapacity registry) Dict.empty others := by
  intro leaf claim found
  cases found

theorem demand_known (need : Need) (specification : Specification)
    (done : demand registry need = .ok specification) : ∃ entry, registry.get? specification.name = some entry := by
  simp only [demand, bind_ok_iff, refuse_ok_iff, exists_const, pure_ok, Except.ok.injEq] at done
  obtain ⟨_, name, _, _, _, _, _, _, _, _, known, rfl⟩ := done
  exact Option.ne_none_iff_exists'.mp known

theorem demands_known (needs : List Need) (specifications : List Specification)
    (done : demands registry needs = .ok specifications) :
    ∀ specification ∈ specifications, ∃ entry, registry.get? specification.name = some entry := by
  intro specification listed
  obtain ⟨need, _, found⟩ := forall₂_mem_right _ _ _ (mapM_ok_inv _ _ _ done) specification listed
  exact demand_known registry need specification found

theorem assignments_exact (normalized : Normalized registry) (needs : List Need)
    (specifications : List Specification) (demanded : demands registry needs = .ok specifications)
    (others : List Allocation) (excluded : List Name) (priority : Name → Int) (required : List Name) :
    ∃ results, assignments registry needs others excluded priority required = .ok results ∧
      ∀ allocation, allocation ∈ results ↔ CompleteAssignment registry needs allocation ∧
        Accepts (leafCapacity registry) allocation others ∧ Avoids allocation excluded ∧
        meets required allocation.keys = true := by
  obtain ⟨results, done, exactly⟩ := search_ok registry normalized others excluded priority required specifications
    (demands_known registry needs specifications demanded) Dict.empty (empty_leaves_only registry)
    (empty_accepts registry others) (by simp [Avoids])
  refine ⟨results, by simp [assignments, demanded, done], fun allocation => (exactly allocation).trans ?_⟩
  refine and_congr_left fun _ => ⟨fun assigns => ⟨specifications, demanded, assigns⟩, ?_⟩
  rintro ⟨others, again, assigns⟩
  cases demanded.symm.trans again
  exact assigns

end OrchestratorEngine.ResourceQueue
