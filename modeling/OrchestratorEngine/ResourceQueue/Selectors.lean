import Mathlib.Data.List.Perm.Basic
import OrchestratorEngine.Foundation.Selector
import OrchestratorEngine.ResourceQueue.Registry

set_option autoImplicit false

namespace OrchestratorEngine.ResourceQueue

open Foundation

def Entry.node (entry : Entry) : Node Name :=
  match entry.kind with
  | some .resource => .leaf
  | some .aliased => .any (entry.members.getD [])
  | some .pool => .any (entry.members.getD [])
  | _ => .all (entry.members.getD [])

def selectorGraph (registry : Registry) (name : Name) : Option (Node Name) :=
  (registry.get? name).map Entry.node

-- A name can be walked when the recursion below it meets neither an unknown
-- name nor its own trail within the fuel.
def Walkable (registry : Registry) : Nat → Name → List Name → Prop
  | 0, _, _ => False
  | fuel + 1, name, trail => name ∉ trail ∧ ∃ entry, registry.get? name = some entry ∧
      (entry.kind ≠ some .resource →
        ∀ member ∈ entry.members.getD [], Walkable registry fuel member (trail ++ [name]))

variable (registry : Registry)

theorem walkable_enter (fuel : Nat) (name : Name) (trail : List Name)
    (walk : Walkable registry (fuel + 1) name trail) :
    ∃ entry, registry.get? name = some entry ∧ enter registry name trail = .ok entry ∧
      (entry.kind ≠ some .resource →
        ∀ member ∈ entry.members.getD [], Walkable registry fuel member (trail ++ [name])) := by
  obtain ⟨fresh, entry, known, members⟩ := walk
  exact ⟨entry, known, by simp [enter, fresh, known], members⟩

theorem enter_ok (name : Name) (trail : List Name) (entry : Entry)
    (entered : enter registry name trail = .ok entry) : name ∉ trail ∧ registry.get? name = some entry := by
  unfold enter at entered
  by_cases seen : name ∈ trail
  · simp [seen] at entered
  · cases known : registry.get? name with
    | none => simp [seen, known] at entered
    | some found => exact ⟨seen, by simpa [seen, known] using entered⟩

theorem selector_available_walkable (excluded : List Name) (fuel : Nat) (name : Name)
    (trail : List Name) (available : Bool)
    (done : selectorAvailableWithin registry excluded fuel name trail = .ok available) :
    Walkable registry fuel name trail := by
  induction fuel generalizing name trail available with
  | zero => simp [selectorAvailableWithin] at done
  | succ fuel ih =>
      rw [selectorAvailableWithin, bind_ok_iff] at done
      obtain ⟨entry, entered, rest⟩ := done
      obtain ⟨fresh, known⟩ := enter_ok registry name trail entry entered
      refine ⟨fresh, entry, known, fun selector member listed => ?_⟩
      rw [if_neg selector] at rest
      obtain ⟨flags, visited, _⟩ := (bind_ok_iff _ _ _).mp rest
      obtain ⟨flag, _, found⟩ := forall₂_mem_left _ _ _ (mapM_ok_inv _ _ _ visited) member listed
      exact ih member (trail ++ [name]) flag found

structure Grounded (registry : Registry) : Prop where
  walk : ∀ name entry, registry.get? name = some entry → Walkable registry (depth registry) name []

variable (entry : Entry)

theorem Entry.node_leaf (leaf : entry.kind = some .resource) : entry.node = .leaf := by
  simp [Entry.node, leaf]

theorem Entry.node_any (choice : entry.kind = some .aliased ∨ entry.kind = some .pool) :
    entry.node = .any (entry.members.getD []) := by
  rcases choice with kind | kind <;> simp [Entry.node, kind]

theorem Entry.node_all (leaf : entry.kind ≠ some .resource)
    (choice : ¬ (entry.kind = some .aliased ∨ entry.kind = some .pool)) :
    entry.node = .all (entry.members.getD []) := by
  unfold Entry.node
  split <;> simp_all

theorem Entry.node_members (leaf : entry.kind ≠ some .resource) :
    entry.node.members = entry.members.getD [] := by
  by_cases choice : entry.kind = some .aliased ∨ entry.kind = some .pool
  · rw [Entry.node_any entry choice]
    rfl
  · rw [Entry.node_all entry leaf choice]
    rfl

theorem Entry.node_leaf_iff : entry.node = .leaf ↔ entry.kind = some .resource := by
  constructor
  · intro isLeaf
    by_contra selector
    by_cases choice : entry.kind = some .aliased ∨ entry.kind = some .pool
    · simp [Entry.node_any entry choice] at isLeaf
    · simp [Entry.node_all entry selector choice] at isLeaf
  · exact Entry.node_leaf entry

theorem selector_graph_some (name : Name) (entry : Entry)
    (known : registry.get? name = some entry) : selectorGraph registry name = some entry.node := by
  simp [selectorGraph, known]

theorem leaf_of_resource (leaf name : Name)
    (inside : LeafOf (selectorGraph registry) leaf name) :
    ∃ entry, registry.get? leaf = some entry ∧ entry.kind = some .resource := by
  have known := leaf_of_known (selectorGraph registry) leaf name inside
  cases found : registry.get? leaf with
  | none => simp [selectorGraph, found] at known
  | some entry =>
      rw [selector_graph_some registry leaf entry found, Option.some.injEq] at known
      exact ⟨entry, rfl, (Entry.node_leaf_iff entry).mp known⟩

theorem selector_leaves_within_ok (fuel : Nat) (name : Name) (trail : List Name)
    (walk : Walkable registry fuel name trail) :
    ∃ leaves, selectorLeavesWithin registry fuel name trail = .ok leaves ∧ leaves.Nodup ∧
      ∀ leaf, leaf ∈ leaves ↔ LeafOf (selectorGraph registry) leaf name := by
  induction fuel generalizing name trail with
  | zero => exact False.elim walk
  | succ fuel ih =>
      obtain ⟨entry, known, entered, members⟩ := walkable_enter registry fuel name trail walk
      have unfolded := fun leaf => leaf_of_unfold (selectorGraph registry) leaf name entry.node
        (selector_graph_some registry name entry known)
      rw [selectorLeavesWithin, entered, bind_ok]
      by_cases resource : entry.kind = some .resource
      · rw [if_pos resource]
        refine ⟨[name], rfl, List.nodup_singleton name, fun leaf => ?_⟩
        rw [unfolded leaf, Entry.node_leaf entry resource]
        simp [Node.members]
      · rw [if_neg resource]
        obtain ⟨parts, visited, related⟩ := mapM_ok
          (fun member => selectorLeavesWithin registry fuel member (trail ++ [name]))
          (fun member leaves => ∀ leaf, leaf ∈ leaves ↔ LeafOf (selectorGraph registry) leaf member)
          (entry.members.getD []) (fun member listed => by
            obtain ⟨leaves, done, _, exactly⟩ := ih member (trail ++ [name]) (members resource member listed)
            exact ⟨leaves, done, exactly⟩)
        refine ⟨parts.flatten.dedup, by rw [visited]; rfl, List.nodup_dedup _, fun leaf => ?_⟩
        rw [List.mem_dedup, List.mem_flatten, unfolded leaf, Entry.node_members entry resource]
        constructor
        · rintro ⟨leaves, listed, inside⟩
          obtain ⟨member, present, exactly⟩ := forall₂_mem_right _ _ _ related leaves listed
          exact .inr ⟨member, present, (exactly leaf).mp inside⟩
        · rintro (⟨isLeaf, _⟩ | ⟨member, present, inside⟩)
          · exact absurd ((Entry.node_leaf_iff entry).mp isLeaf) resource
          · obtain ⟨leaves, listed, exactly⟩ := forall₂_mem_left _ _ _ related member present
            exact ⟨leaves, listed, (exactly leaf).mpr inside⟩

theorem selector_leaves_ok (grounded : Grounded registry) (name : Name) (entry : Entry)
    (known : registry.get? name = some entry) :
    ∃ leaves, selectorLeaves registry name = .ok leaves ∧ leaves.Nodup ∧
      ∀ leaf, leaf ∈ leaves ↔ LeafOf (selectorGraph registry) leaf name :=
  selector_leaves_within_ok registry (depth registry) name [] (grounded.walk name entry known)

theorem chooses_within_walkable (fuel level : Nat) (name : Name) (trail choice : List Name)
    (walk : Walkable registry fuel name trail)
    (chosen : ChoosesWithin (selectorGraph registry) level name choice) :
    ChoosesWithin (selectorGraph registry) fuel name choice := by
  induction fuel generalizing level name trail choice with
  | zero => exact False.elim walk
  | succ fuel ih =>
      cases level with
      | zero => exact False.elim chosen
      | succ level =>
          obtain ⟨entry, known, _, members⟩ := walkable_enter registry fuel name trail walk
          rw [ChoosesWithin, selector_graph_some registry name entry known] at chosen ⊢
          by_cases resource : entry.kind = some .resource
          · simpa only [Entry.node_leaf entry resource] using chosen
          · by_cases any : entry.kind = some .aliased ∨ entry.kind = some .pool
            · simp only [Entry.node_any entry any] at chosen ⊢
              obtain ⟨member, listed, inner⟩ := chosen
              exact ⟨member, listed, ih level member _ choice (members resource member listed) inner⟩
            · simp only [Entry.node_all entry resource any] at chosen ⊢
              obtain ⟨parts, inner, disjoint, same⟩ := chosen
              refine ⟨parts, ?_, disjoint, same⟩
              refine ((List.forall₂_and_left _ _).mpr ⟨fun member listed =>
                members resource member listed, inner⟩).imp ?_
              exact fun member part found => ih level member _ part found.1 found.2

theorem selector_available_ok (excluded : List Name) (fuel : Nat) (name : Name)
    (trail : List Name) (walk : Walkable registry fuel name trail) :
    ∃ available, selectorAvailableWithin registry excluded fuel name trail = .ok available ∧
      (available = true ↔ PossibleWithin (selectorGraph registry) (fun leaf => leaf ∉ excluded) fuel name) := by
  induction fuel generalizing name trail with
  | zero => exact False.elim walk
  | succ fuel ih =>
      obtain ⟨entry, known, entered, members⟩ := walkable_enter registry fuel name trail walk
      rw [selectorAvailableWithin, entered, bind_ok]
      simp only [PossibleWithin, selector_graph_some registry name entry known]
      by_cases resource : entry.kind = some .resource
      · rw [if_pos resource, Entry.node_leaf entry resource]
        exact ⟨_, rfl, decide_eq_true_iff⟩
      · rw [if_neg resource]
        obtain ⟨flags, visited, related⟩ := mapM_ok _ _ (entry.members.getD [])
          (fun member listed => ih member (trail ++ [name]) (members resource member listed))
        rw [visited, bind_ok]
        by_cases any : entry.kind = some .aliased ∨ entry.kind = some .pool
        · rw [if_pos any, Entry.node_any entry any]
          refine ⟨_, rfl, ?_⟩
          rw [List.any_eq_true]
          constructor
          · rintro ⟨flag, present, yes⟩
            obtain ⟨member, listed, exactly⟩ := forall₂_mem_right _ _ _ related flag present
            exact ⟨member, listed, exactly.mp yes⟩
          · rintro ⟨member, listed, possible⟩
            obtain ⟨flag, present, exactly⟩ := forall₂_mem_left _ _ _ related member listed
            exact ⟨flag, present, exactly.mpr possible⟩
        · rw [if_neg any, Entry.node_all entry resource any]
          refine ⟨_, rfl, ?_⟩
          rw [List.all_eq_true]
          constructor
          · intro all member listed
            obtain ⟨flag, present, exactly⟩ := forall₂_mem_left _ _ _ related member listed
            exact exactly.mp (all flag present)
          · intro all flag present
            obtain ⟨member, listed, exactly⟩ := forall₂_mem_right _ _ _ related flag present
            exact exactly.mpr (all member listed)

theorem selector_claim_available_ok (claim : Claim) (others : List Allocation)
    (excluded : List Name) (total : ∀ leaf entry, registry.get? leaf = some entry → entry.kind = some .resource →
      ∃ verdict, compatible registry (Dict.single leaf claim) others = .ok verdict)
    (fuel : Nat) (name : Name) (trail : List Name) (walk : Walkable registry fuel name trail) :
    ∃ available, selectorClaimAvailableWithin registry claim others excluded fuel name trail = .ok available ∧
      (available = true ↔ PossibleWithin (selectorGraph registry) (fun leaf => leaf ∉ excluded ∧
        compatible registry (Dict.single leaf claim) others = .ok true) fuel name) := by
  induction fuel generalizing name trail with
  | zero => exact False.elim walk
  | succ fuel ih =>
      obtain ⟨entry, known, entered, members⟩ := walkable_enter registry fuel name trail walk
      rw [selectorClaimAvailableWithin, entered, bind_ok]
      simp only [PossibleWithin, selector_graph_some registry name entry known]
      by_cases resource : entry.kind = some .resource
      · rw [if_pos resource, Entry.node_leaf entry resource]
        by_cases gone : name ∈ excluded
        · exact ⟨false, by simp [gone], by simp [gone]⟩
        · obtain ⟨verdict, done⟩ := total name entry known resource
          exact ⟨verdict, by simp [gone, done], by simp [gone, done]⟩
      · rw [if_neg resource]
        have visited := fun member listed => ih member (trail ++ [name]) (members resource member listed)
        have defined : ∀ member ∈ entry.members.getD [], ∃ verdict, selectorClaimAvailableWithin registry claim
            others excluded fuel member (trail ++ [name]) = .ok verdict := fun member listed =>
          (visited member listed).imp fun _ found => found.1
        have passed : ∀ member ∈ entry.members.getD [], (selectorClaimAvailableWithin registry claim others
            excluded fuel member (trail ++ [name]) = .ok true ↔ PossibleWithin (selectorGraph registry)
              (fun leaf => leaf ∉ excluded ∧ compatible registry (Dict.single leaf claim) others = .ok true)
              fuel member) := fun member listed => by
          obtain ⟨verdict, done, exactly⟩ := visited member listed
          rw [done, Except.ok.injEq, exactly]
        by_cases any : entry.kind = some .aliased ∨ entry.kind = some .pool
        · rw [if_pos any, Entry.node_any entry any]
          obtain ⟨verdict, done, exactly⟩ := anyM_ok _ _ defined
          refine ⟨verdict, done, exactly.trans ?_⟩
          exact exists_congr fun member => and_congr_right (passed member)
        · rw [if_neg any, Entry.node_all entry resource any]
          obtain ⟨verdict, done, exactly⟩ := allM_ok _ _ defined
          refine ⟨verdict, done, exactly.trans ?_⟩
          exact forall_congr' fun member => forall_congr' (passed member)

theorem member_key_ok (grounded : Grounded registry) (priority : Name → Int)
    (member : Name) (entry : Entry) (known : registry.get? member = some entry) :
    ∃ key, memberKey registry priority member = .ok key ∧ key.2 = member := by
  obtain ⟨leaves, done, _⟩ := selector_leaves_ok registry grounded member entry known
  exact ⟨_, by rw [memberKey, done]; rfl, rfl⟩

theorem sorted_members_ok (grounded : Grounded registry) (priority : Name → Int)
    (members : List Name) (known : ∀ member ∈ members, ∃ entry, registry.get? member = some entry) :
    ∃ sorted, sortedMembers registry priority members = .ok sorted ∧ sorted.Perm members := by
  obtain ⟨keyed, visited, related⟩ := mapM_ok (memberKey registry priority) (fun member key => key.2 = member)
    members (fun member listed => by
      obtain ⟨entry, found⟩ := known member listed
      exact member_key_ok registry grounded priority member entry found)
  refine ⟨(keyed.insertionSort keyOrder).map Prod.snd, by rw [sortedMembers, visited]; rfl, ?_⟩
  have names : keyed.map Prod.snd = members := by
    have flipped : List.Forall₂ Eq members (keyed.map Prod.snd) :=
      List.forall₂_map_right_iff.mpr (related.imp fun _ _ same => same.symm)
    exact (List.forall₂_eq_eq_eq ▸ flipped : members = keyed.map Prod.snd).symm
  rw [← names]
  exact (List.perm_insertionSort keyOrder keyed).map Prod.snd

theorem mem_combine (options : List (List (List Name))) (selected : List Name) (distinct : selected.Nodup)
    (each : ∀ choices ∈ options, ∀ option ∈ choices, option.Nodup) (choice : List Name) :
    choice ∈ combine options selected ↔ ∃ parts, List.Forall₂ (fun choices part => part ∈ choices) options parts ∧
      (selected ++ parts.flatten).Nodup ∧ choice = (selected ++ parts.flatten).insertionSort (· ≤ ·) := by
  induction options generalizing selected with
  | nil => simp [combine, distinct]
  | cons choices rest ih =>
      have restEach : ∀ later ∈ rest, ∀ option ∈ later, option.Nodup := fun later listed =>
        each later (List.mem_cons_of_mem _ listed)
      rw [combine, List.mem_flatMap]
      constructor
      · rintro ⟨option, listed, found⟩
        by_cases overlap : (option.any fun leaf => decide (leaf ∈ selected)) = true
        · simp [overlap] at found
        · have disjoint : selected.Disjoint option := fun leaf inSelected inOption =>
            overlap (List.any_eq_true.mpr ⟨leaf, inOption, decide_eq_true inSelected⟩)
          have grown : (selected ++ option).Nodup :=
            List.nodup_append'.mpr ⟨distinct, each choices List.mem_cons_self option listed, disjoint⟩
          rw [if_neg overlap, ih (selected ++ option) grown restEach] at found
          obtain ⟨parts, related, nodup, same⟩ := found
          refine ⟨option :: parts, .cons listed related, ?_⟩
          rw [List.flatten_cons, ← List.append_assoc]
          exact ⟨nodup, same⟩
      · rintro ⟨parts, related, nodup, same⟩
        cases related with
        | cons listed related =>
            rename_i option parts
            rw [List.flatten_cons, ← List.append_assoc] at nodup same
            have grown : (selected ++ option).Nodup := (List.nodup_append'.mp nodup).1
            refine ⟨option, listed, ?_⟩
            have apart : ¬ (option.any fun leaf => decide (leaf ∈ selected)) = true := by
              rw [List.any_eq_true]
              rintro ⟨leaf, inOption, inSelected⟩
              exact (List.nodup_append'.mp grown).2.2 (of_decide_eq_true inSelected) inOption
            rw [if_neg apart, ih (selected ++ option) grown restEach]
            exact ⟨parts, related, nodup, same⟩

theorem walkable_known (fuel : Nat) (name : Name) (trail : List Name)
    (walk : Walkable registry fuel name trail) : ∃ entry, registry.get? name = some entry := by
  cases fuel with
  | zero => exact False.elim walk
  | succ fuel =>
      obtain ⟨entry, known, _⟩ := walkable_enter registry fuel name trail walk
      exact ⟨entry, known⟩

theorem alternatives_within_ok (grounded : Grounded registry) (priority : Name → Int)
    (excluded : List Name) (fuel : Nat) (name : Name) (trail : List Name)
    (walk : Walkable registry fuel name trail) :
    ∃ options, alternativesWithin registry priority excluded fuel name trail = .ok options ∧
      ∀ choice, choice ∈ options ↔
        ChoosesWithin (selectorGraph registry) fuel name choice ∧ ∀ leaf ∈ choice, leaf ∉ excluded := by
  induction fuel generalizing name trail with
  | zero => exact False.elim walk
  | succ fuel ih =>
      obtain ⟨entry, known, entered, members⟩ := walkable_enter registry fuel name trail walk
      obtain ⟨available, checked, exactly⟩ := selector_available_ok registry excluded (fuel + 1) name trail walk
      have graph := selector_graph_some registry name entry known
      rw [alternativesWithin, entered, bind_ok]
      by_cases resource : entry.kind = some .resource
      · rw [if_pos resource]
        refine ⟨_, rfl, fun choice => ?_⟩
        rw [ChoosesWithin, graph, Entry.node_leaf entry resource]
        by_cases gone : name ∈ excluded
        · simp only [gone, if_true, List.not_mem_nil, false_iff]
          rintro ⟨rfl, allowed⟩
          exact allowed name List.mem_cons_self gone
        · simp only [gone, if_false, List.mem_singleton]
          exact ⟨fun same => ⟨same, by simp [same, gone]⟩, And.left⟩
      · rw [if_neg resource, checked, bind_ok]
        cases available with
        | false =>
            refine ⟨[], rfl, fun choice => ?_⟩
            simp only [List.not_mem_nil, false_iff, not_and]
            intro chosen allowed
            have possible := possible_of_choice _ _ (fuel + 1) name choice chosen allowed
            exact Bool.false_ne_true (exactly.mpr possible)
        | true =>
            obtain ⟨visited, sorted, perm⟩ := sorted_members_ok registry grounded priority (entry.members.getD [])
              (fun member listed => walkable_known registry fuel member _ (members resource member listed))
            obtain ⟨options, done, related⟩ := mapM_ok _ _ visited (fun member listed =>
              ih member (trail ++ [name]) (members resource member (perm.mem_iff.mp listed)))
            simp only [Bool.not_true, Bool.false_eq_true, if_false, sorted, bind_ok, done]
            by_cases any : entry.kind = some .aliased ∨ entry.kind = some .pool
            · rw [if_pos any]
              refine ⟨_, rfl, fun choice => ?_⟩
              rw [List.mem_eraseDups, List.mem_flatten, ChoosesWithin, graph, Entry.node_any entry any]
              constructor
              · rintro ⟨choices, listed, found⟩
                obtain ⟨member, present, each⟩ := forall₂_mem_right _ _ _ related choices listed
                obtain ⟨chosen, allowed⟩ := (each choice).mp found
                exact ⟨⟨member, perm.mem_iff.mp present, chosen⟩, allowed⟩
              · rintro ⟨⟨member, present, chosen⟩, allowed⟩
                obtain ⟨choices, listed, each⟩ :=
                  forall₂_mem_left _ _ _ related member (perm.mem_iff.mpr present)
                exact ⟨choices, listed, (each choice).mpr ⟨chosen, allowed⟩⟩
            · rw [if_neg any]
              refine ⟨_, rfl, fun choice => ?_⟩
              have each : ∀ choices ∈ options, ∀ option ∈ choices, option.Nodup := by
                intro choices listed option found
                obtain ⟨member, _, exactly⟩ := forall₂_mem_right _ _ _ related choices listed
                exact chooses_within_nodup _ fuel member option ((exactly option).mp found).1
              rw [List.mem_eraseDups, mem_combine options [] List.nodup_nil each, ChoosesWithin, graph,
                Entry.node_all entry resource any]
              simp only [List.nil_append]
              constructor
              · rintro ⟨parts, picked, disjoint, rfl⟩
                have chosen : List.Forall₂ (fun member part => ChoosesWithin (selectorGraph registry) fuel member part ∧
                    ∀ leaf ∈ part, leaf ∉ excluded) visited parts := by
                  refine (forall₂_compose _ _ _ _ _ related picked).imp ?_
                  rintro member part ⟨choices, exactly, found⟩
                  exact (exactly part).mp found
                have allowed : ∀ leaf ∈ parts.flatten.insertionSort (· ≤ ·), leaf ∉ excluded := by
                  intro leaf inside
                  have flat : leaf ∈ parts.flatten := (List.perm_insertionSort _ _).mem_iff.mp inside
                  obtain ⟨_, _, part, found, inPart⟩ := mem_flatten_forall₂ _ _ _ chosen leaf flat
                  exact found.2 leaf inPart
                obtain ⟨others, reordered, nodup, same⟩ := bundle_perm _ _ _ perm parts
                  (chosen.imp fun _ _ found => found.1) disjoint
                exact ⟨⟨others, reordered, nodup, same⟩, allowed⟩
              · rintro ⟨⟨parts, chosen, disjoint, rfl⟩, allowed⟩
                obtain ⟨others, reordered, nodup, same⟩ := bundle_perm _ _ _ perm.symm parts chosen disjoint
                refine ⟨others, ?_, nodup, same⟩
                have flipped : List.Forall₂ (fun choices member => ∀ choice, choice ∈ choices ↔
                    ChoosesWithin (selectorGraph registry) fuel member choice ∧ ∀ leaf ∈ choice, leaf ∉ excluded)
                    options visited := related.flip
                refine ((forall₂_compose _ _ _ _ _ flipped (forall₂_and_right_mem reordered)).imp ?_)
                rintro choices part ⟨member, exactly, found, present⟩
                refine (exactly part).mpr ⟨found, fun leaf inside => allowed leaf ?_⟩
                rw [same]
                exact bundle_part others part present leaf inside

theorem alternatives_ok (grounded : Grounded registry) (priority : Name → Int)
    (excluded : List Name) (name : Name) (entry : Entry) (known : registry.get? name = some entry) :
    ∃ options, alternatives registry name priority excluded = .ok options ∧ ∀ choice, choice ∈ options ↔
      Chooses (selectorGraph registry) name choice ∧ ∀ leaf ∈ choice, leaf ∉ excluded := by
  have walk := grounded.walk name entry known
  obtain ⟨options, done, exactly⟩ := alternatives_within_ok registry grounded priority excluded _ name [] walk
  refine ⟨options, done, fun choice => (exactly choice).trans (and_congr_left fun _ => ?_)⟩
  exact ⟨fun chosen => ⟨_, chosen⟩, fun ⟨level, chosen⟩ => chooses_within_walkable _ _ level _ _ _ walk chosen⟩

theorem alternatives_within_walkable (priority : Name → Int) (excluded : List Name)
    (fuel : Nat) (name : Name) (trail : List Name) (options : List (List Name))
    (done : alternativesWithin registry priority excluded fuel name trail = .ok options) :
    Walkable registry fuel name trail := by
  cases fuel with
  | zero => simp [alternativesWithin] at done
  | succ fuel =>
      rw [alternativesWithin, bind_ok_iff] at done
      obtain ⟨entry, entered, rest⟩ := done
      by_cases resource : entry.kind = some .resource
      · obtain ⟨fresh, known⟩ := enter_ok registry name trail entry entered
        exact ⟨fresh, entry, known, fun selector => absurd resource selector⟩
      · rw [if_neg resource, bind_ok_iff] at rest
        obtain ⟨available, checked, _⟩ := rest
        exact selector_available_walkable registry excluded (fuel + 1) name trail available checked

-- What normalization promises about one entry. A leaf has a positive capacity,
-- an identity and an incarnation; a selector has distinct members.
structure Entry.Normal (entry : Entry) : Prop where
  leaf : entry.kind = some .resource → ∃ capacity : Nat, entry.capacity = some (.integer capacity) ∧ 1 ≤ capacity
  incarnation : entry.kind = some .resource → ∃ incarnation, entry.incarnation = some incarnation
  selector : entry.kind ≠ some .resource → entry.members.getD [] ≠ [] ∧ (entry.members.getD []).Nodup

structure Normalized (registry : Registry) : Prop extends Grounded registry where
  normal : ∀ name entry, registry.get? name = some entry → entry.Normal

theorem normalize_resource_normal (name : Name) (entry : Entry) (physical : List Name)
    (next : Entry × List Name) (done : normalizeResource name entry physical = .ok next) : next.1.Normal := by
  simp only [normalizeResource, positive_iff, bind_ok_iff, refuse_ok_iff, exists_const, pure_ok,
    Except.ok.injEq] at done
  obtain ⟨key, _, _, capacity, ⟨_, large⟩, incarnation, _, _, _, rfl⟩ := done
  refine ⟨fun _ => ⟨capacity, rfl, large⟩, fun _ => ⟨incarnation, rfl⟩, fun selector => absurd rfl selector⟩

theorem normalize_selector_normal (kind : Kind) (selector : kind ≠ .resource) (entry changed : Entry)
    (done : normalizeSelector kind entry = .ok changed) : changed.Normal := by
  simp only [normalizeSelector, bind_ok_iff, refuse_ok_iff, exists_const, pure_ok, Except.ok.injEq, not_or,
    not_not] at done
  obtain ⟨proper, _, rfl⟩ := done
  have notLeaf : some kind ≠ some Kind.resource := fun leaf => selector (Option.some.inj leaf)
  exact ⟨fun leaf => absurd leaf notLeaf, fun leaf => absurd leaf notLeaf, fun _ => proper⟩

theorem normalize_entry_ok (result : Registry) (physical : List Name) (item : Name × Entry)
    (next : Registry × List Name) (done : normalizeEntry (result, physical) item = .ok next) :
    ∃ entry, entry.Normal ∧ next.1 = result.set item.1 entry := by
  obtain ⟨name, entry⟩ := item
  simp only [normalizeEntry, identifier, bind_ok_iff, refuse_ok_iff, exists_const, pure_ok, Except.ok.injEq] at done
  obtain ⟨_, ⟨_, rfl⟩, done⟩ := done
  cases kind : entry.kind.getD .resource with
  | resource =>
      rw [kind] at done
      obtain ⟨changed, normalized, finish⟩ := (bind_ok_iff _ _ _).mp done
      cases finish
      exact ⟨changed.1, normalize_resource_normal _ _ _ _ normalized, rfl⟩
  | other text => simp [kind] at done
  | aliased =>
      rw [kind] at done
      obtain ⟨changed, normalized, finish⟩ := (bind_ok_iff _ _ _).mp done
      cases finish
      exact ⟨changed, normalize_selector_normal .aliased (by decide) _ _ normalized, rfl⟩
  | pool =>
      rw [kind] at done
      obtain ⟨changed, normalized, finish⟩ := (bind_ok_iff _ _ _).mp done
      cases finish
      exact ⟨changed, normalize_selector_normal .pool (by decide) _ _ normalized, rfl⟩
  | bundle =>
      rw [kind] at done
      obtain ⟨changed, normalized, finish⟩ := (bind_ok_iff _ _ _).mp done
      cases finish
      exact ⟨changed, normalize_selector_normal .bundle (by decide) _ _ normalized, rfl⟩

theorem normalize_registry_normalized (raw registry : Registry) (done : normalizeRegistry raw = .ok registry) :
    Normalized registry := by
  simp only [normalizeRegistry, bind_ok_iff, pure_ok, Except.ok.injEq] at done
  obtain ⟨⟨result, physical⟩, folded, checked, complete, rfl⟩ := done
  refine ⟨⟨fun name entry known => ?_⟩, ?_⟩
  · have listed : name ∈ result.keys := (Dict.mem_keys result name).mpr ⟨entry, known⟩
    obtain ⟨_, _, found⟩ := forall₂_mem_left _ _ _ (mapM_ok_inv _ _ _ complete) name listed
    obtain ⟨options, alternative, _⟩ := (bind_ok_iff _ _ _).mp found
    exact alternatives_within_walkable _ _ _ _ _ _ options alternative
  · refine foldlM_ok_inv normalizeEntry (fun state => ∀ name entry, state.1.get? name = some entry → entry.Normal)
      raw.items (Dict.empty, []) (result, physical) (by simp) ?_ folded
    rintro ⟨before, seen⟩ item _ next kept step name entry known
    obtain ⟨changed, normal, same⟩ := normalize_entry_ok before seen item next step
    rw [same, Dict.get_set] at known
    split at known
    · cases known
      exact normal
    · exact kept name entry known

end OrchestratorEngine.ResourceQueue
