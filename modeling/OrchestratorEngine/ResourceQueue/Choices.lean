import OrchestratorEngine.Foundation.Pooling
import OrchestratorEngine.Foundation.Selection
import OrchestratorEngine.ResourceQueue.Search

set_option autoImplicit false

namespace OrchestratorEngine.ResourceQueue

open Foundation

def claimsMade (leaf : Name) (specifications : List Specification) (sets : List (Finset Name)) : List Claim :=
  (specifications.zip sets).filterMap fun pair => if leaf ∈ pair.2 then some pair.1.claim else none

def Chosen (registry : Registry) (excluded : List Name) (specifications : List Specification)
    (sets : List (Finset Name)) : Prop :=
  List.Forall₂ (fun specification places =>
    Selects (selectorGraph registry) specification.name places ∧ ∀ leaf ∈ places, leaf ∉ excluded) specifications sets

def Satisfies (registry : Registry) (needs : List Need) (others : List Allocation) (excluded required : List Name)
    (allocation : Allocation) : Prop :=
  (∃ specifications sets, demands registry needs = .ok specifications ∧ Chosen registry excluded specifications sets ∧
    ∀ leaf, Pooled (claimsMade leaf specifications sets) (allocation.get? leaf)) ∧
  compatible registry allocation others = .ok true ∧
  (required = [] ∨ ∃ leaf ∈ required, leaf ∈ allocation.keys)

theorem claims_made_cons (leaf : Name) (specification : Specification) (rest : List Specification)
    (places : Finset Name) (sets : List (Finset Name)) :
    claimsMade leaf (specification :: rest) (places :: sets) =
      if leaf ∈ places then specification.claim :: claimsMade leaf rest sets else claimsMade leaf rest sets := by
  unfold claimsMade
  split <;> simp_all

variable (registry : Registry)

theorem bundles_distinct (normalized : Normalized registry) (name : Name) (members : List Name)
    (known : selectorGraph registry name = some (.all members)) : members.Nodup := by
  obtain ⟨entry, found, node⟩ := Option.map_eq_some_iff.mp known
  have selector : entry.kind ≠ some .resource := by
    intro resource
    rw [Entry.node_leaf entry resource] at node
    cases node
  have listed : members = entry.members.getD [] := by
    rw [← Entry.node_members entry selector, node]
    rfl
  rw [listed]
  exact ((normalized.normal name entry found).selector selector).2

theorem selects_choice (normalized : Normalized registry) (name : Name) (places : Finset Name) :
    Selects (selectorGraph registry) name places ↔
      ∃ choice, Chooses (selectorGraph registry) name choice ∧ choice.toFinset = places :=
  selects_iff (selectorGraph registry) (bundles_distinct registry normalized) name places

theorem assigns_joins (normalized : Normalized registry) (specifications : List Specification)
    (start final : Allocation) (assigns : Assigns registry specifications start final) :
    ∃ sets, List.Forall₂ (fun specification places => Selects (selectorGraph registry) specification.name places)
        specifications sets ∧
      (∀ leaf, joinAll (start.get? leaf) (claimsMade leaf specifications sets) = some (final.get? leaf)) ∧
      ∀ places ∈ sets, ∀ leaf ∈ places, leaf ∈ final.keys := by
  induction assigns with
  | done => exact ⟨[], .nil, fun _ => rfl, by simp⟩
  | choose specification rest choice start middle final chosen taken later ih =>
      obtain ⟨sets, selected, joined, inside⟩ := ih
      have once := chooses_nodup _ _ choice chosen
      refine ⟨choice.toFinset :: sets,
        .cons ((selects_choice registry normalized _ _).mpr ⟨choice, chosen, rfl⟩) selected,
        fun leaf => ?_, ?_⟩
      · obtain ⟨joins, keeps⟩ := take_all_iff specification.claim choice once start middle taken leaf
        rw [claims_made_cons]
        by_cases listed : leaf ∈ choice
        · rw [if_pos (List.mem_toFinset.mpr listed), joinAll, joins listed]
          obtain ⟨held, kept, _⟩ := take_all_held _ choice start middle taken leaf listed
          rw [kept, Option.bind_some, ← kept]
          exact joined leaf
        · rw [if_neg (fun member => listed (List.mem_toFinset.mp member)), ← keeps listed]
          exact joined leaf
      · intro places member leaf listed
        rcases List.mem_cons.mp member with rfl | old
        · obtain ⟨held, kept, _⟩ := take_all_held _ choice start middle taken leaf (List.mem_toFinset.mp listed)
          exact within_keys middle final (assigns_within registry rest middle final later) leaf
            ((Dict.mem_keys _ _).mpr ⟨held, kept⟩)
        · exact inside places old leaf listed

theorem joins_assign (normalized : Normalized registry) (specifications : List Specification)
    (sets : List (Finset Name)) (start : Allocation) (target : Name → Option Claim)
    (selected : List.Forall₂ (fun specification places => Selects (selectorGraph registry) specification.name places)
      specifications sets)
    (joined : ∀ leaf, joinAll (start.get? leaf) (claimsMade leaf specifications sets) = some (target leaf)) :
    ∃ final, Assigns registry specifications start final ∧ ∀ leaf, final.get? leaf = target leaf := by
  induction selected generalizing start with
  | nil => exact ⟨start, .done start, fun leaf => Option.some.inj (joined leaf)⟩
  | cons selects _ ih =>
      rename_i specification places rest sets _
      obtain ⟨choice, chosen, rfl⟩ := (selects_choice registry normalized _ _).mp selects
      have once := chooses_nodup _ _ choice chosen
      have here : ∀ leaf ∈ choice, ∃ held, specification.claim.join (start.get? leaf) = some held ∧
          joinAll (some held) (claimsMade leaf rest sets) = some (target leaf) := by
        intro leaf listed
        have whole := joined leaf
        rw [claims_made_cons, if_pos (List.mem_toFinset.mpr listed), joinAll] at whole
        exact Option.bind_eq_some_iff.mp whole
      obtain ⟨middle, taken⟩ := take_all_total specification.claim choice once start fun leaf listed => by
        obtain ⟨held, done, _⟩ := here leaf listed
        simp [done]
      obtain ⟨final, assigns, exactly⟩ := ih middle fun leaf => by
        obtain ⟨joins, keeps⟩ := take_all_iff specification.claim choice once start middle taken leaf
        by_cases listed : leaf ∈ choice
        · obtain ⟨held, done, later⟩ := here leaf listed
          rw [← joins listed, done]
          exact later
        · have whole := joined leaf
          rw [claims_made_cons, if_neg (fun member => listed (List.mem_toFinset.mp member))] at whole
          rw [keeps listed]
          exact whole
      exact ⟨final, .choose specification rest choice start middle final chosen taken assigns, exactly⟩

theorem accepts_same (capacity : Name → Nat) (first second : Allocation) (others : List Allocation)
    (same : Dict.Same first second) (accepts : Accepts capacity first others) : Accepts capacity second others :=
  fun leaf claim found => accepts leaf claim ((same leaf).trans found)

theorem meets_iff (required leaves : List Name) :
    meets required leaves = true ↔ required = [] ∨ ∃ leaf ∈ required, leaf ∈ leaves := by
  simp [meets]

theorem same_keys (first second : Allocation) (same : Dict.Same first second) (leaf : Name) :
    leaf ∈ first.keys ↔ leaf ∈ second.keys := by
  rw [Dict.mem_keys, Dict.mem_keys, same leaf]

theorem leaves_only_same (first second : Allocation) (same : Dict.Same first second)
    (leaves : LeavesOnly registry first) : LeavesOnly registry second :=
  fun leaf claim found => leaves leaf claim ((same leaf).trans found)

theorem claims_made_place (leaf : Name) (specifications : List Specification) (sets : List (Finset Name))
    (claim : Claim) (made : claim ∈ claimsMade leaf specifications sets) : ∃ places ∈ sets, leaf ∈ places := by
  obtain ⟨⟨specification, places⟩, paired, found⟩ := List.mem_filterMap.mp made
  refine ⟨places, (List.of_mem_zip paired).2, ?_⟩
  by_contra absent
  simp [absent] at found

theorem pooled_made (claims : List Claim) (total : Claim) (pooled : Pooled claims (some total)) :
    ∃ claim, claim ∈ claims := by
  rcases pooled with rfl | ⟨some_, _⟩
  · exact ⟨total, List.mem_singleton_self total⟩
  · exact List.exists_mem_of_ne_nil claims some_

theorem satisfies_iff (normalized : Normalized registry) (needs : List Need)
    (others : List Allocation) (excluded required : List Name) (allocation : Allocation) :
    Satisfies registry needs others excluded required allocation ↔
      ∃ found, Dict.Same found allocation ∧ CompleteAssignment registry needs found ∧
        Accepts (leafCapacity registry) found others ∧ Avoids found excluded ∧ meets required found.keys = true := by
  constructor
  · rintro ⟨⟨specifications, sets, demanded, chosen, pooled⟩, fits, hits⟩
    obtain ⟨found, assigns, same⟩ := joins_assign registry normalized specifications sets Dict.empty allocation.get?
      (chosen.imp fun _ _ both => both.1) (fun leaf => (pooled_iff _ _).mp (pooled leaf))
    have leaves := leaves_only_same registry found allocation same
      (assigns_leaves_only registry specifications _ found assigns (empty_leaves_only registry))
    have accepts := (compatible_true_iff registry normalized allocation leaves others).mp fits
    refine ⟨found, same, ⟨specifications, demanded, assigns⟩,
      accepts_same _ allocation found others (fun leaf => (same leaf).symm) accepts, ?_, ?_⟩
    · intro leaf held
      obtain ⟨total, kept⟩ := (Dict.mem_keys allocation leaf).mp ((same_keys found allocation same leaf).mp held)
      obtain ⟨claim, made⟩ := pooled_made _ total (kept ▸ pooled leaf)
      obtain ⟨places, listed, inside⟩ := claims_made_place leaf specifications sets claim made
      obtain ⟨_, _, both⟩ := forall₂_mem_right _ _ _ chosen places listed
      exact both.2 leaf inside
    · rw [meets_iff]
      simpa only [same_keys found allocation same] using hits
  · rintro ⟨found, same, ⟨specifications, demanded, assigns⟩, accepts, avoids, met⟩
    obtain ⟨sets, selected, joined, inside⟩ := assigns_joins registry normalized specifications _ found assigns
    have leaves := leaves_only_same registry found allocation same
      (assigns_leaves_only registry specifications _ found assigns (empty_leaves_only registry))
    refine ⟨⟨specifications, sets, demanded, ?_, fun leaf => ?_⟩, ?_, ?_⟩
    · refine (forall₂_and_right_mem selected).imp fun _ places both => ⟨both.1, fun leaf listed => ?_⟩
      exact avoids leaf (inside places both.2 leaf listed)
    · rw [pooled_iff, ← same leaf]
      exact joined leaf
    · rw [compatible_true_iff registry normalized allocation leaves others]
      exact accepts_same _ found allocation others same accepts
    · rw [meets_iff] at met
      simpa only [← same_keys found allocation same] using met

theorem assignments_sound_complete (raw registry : Registry) (accepted : normalizeRegistry raw = .ok registry)
    (needs : List Need) (specifications : List Specification) (valid : demands registry needs = .ok specifications)
    (others : List Allocation) (excluded : List Name) (priority : Name → Int) (required : List Name) :
    ∃ results, assignments registry needs others excluded priority required = .ok results ∧
      (∀ allocation, (∃ found ∈ results, Dict.Same found allocation) ↔
        Satisfies registry needs others excluded required allocation) ∧
      (results.head? = none ↔ ∀ allocation, ¬ Satisfies registry needs others excluded required allocation) := by
  have normalized := normalize_registry_normalized raw registry accepted
  obtain ⟨results, done, exactly⟩ :=
    assignments_exact registry normalized needs specifications valid others excluded priority required
  have yields : ∀ allocation, (∃ found ∈ results, Dict.Same found allocation) ↔
      Satisfies registry needs others excluded required allocation := by
    intro allocation
    rw [satisfies_iff registry normalized]
    refine exists_congr fun found => ?_
    rw [exactly found]
    exact and_comm
  refine ⟨results, done, yields, ?_⟩
  rw [List.head?_eq_none_iff, List.eq_nil_iff_forall_not_mem]
  constructor
  · intro nothing allocation satisfies
    obtain ⟨found, listed, _⟩ := (yields allocation).mpr satisfies
    exact nothing found listed
  · intro nothing found listed
    exact nothing found ((yields found).mp ⟨found, listed, Dict.Same.refl found⟩)

def pairedRaw : Registry :=
  ((Dict.single "left" { release := some .process }).set "right" { release := some .process }).set "pair"
    { kind := some .pool, members := some ["left", "right"] }

def pairedDevice (name : Name) : Entry :=
  ⟨some .resource, none, some name, some (.integer 1), some "1", some .process, none, none⟩

def paired : Registry :=
  ((Dict.single "left" (pairedDevice "left")).set "right" (pairedDevice "right")).set "pair"
    { kind := some .pool, members := some ["left", "right"] }

theorem paired_sound_complete :
    ∃ results, assignments paired [{ resource := some "pair" }] [] ["left"] (fun _ => 0) [] = .ok results ∧
      (∀ allocation, (∃ found ∈ results, Dict.Same found allocation) ↔
        Satisfies paired [{ resource := some "pair" }] [] ["left"] [] allocation) ∧
      (results.head? = none ↔ ∀ allocation, ¬ Satisfies paired [{ resource := some "pair" }] [] ["left"]
      [] allocation) :=
  assignments_sound_complete pairedRaw paired (by decide +kernel) _ [⟨"pair", .exclusive, 1, none⟩] (by decide +kernel)
    _ _ _ _

end OrchestratorEngine.ResourceQueue
