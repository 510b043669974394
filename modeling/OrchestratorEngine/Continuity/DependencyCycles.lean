import OrchestratorEngine.Continuity.SelfCheck
import OrchestratorEngine.Foundation.DirectedCycles

set_option autoImplicit false

namespace OrchestratorEngine.Continuity

open Foundation

abbrev WaitGraph := List (String × List String)

section Rotations

theorem mem_rotations_iff (cycle other : List String) (some_ : cycle ≠ []) : other ∈ rotations cycle ↔
    cycle ~r other := by
  unfold rotations
  rw [List.mem_map]
  constructor
  · rintro ⟨index, bound, rfl⟩
    exact ⟨index, List.rotate_eq_drop_append_take (List.mem_range.mp bound).le⟩
  · intro rotation
    obtain ⟨index, bound, rfl⟩ := List.isRotated_iff_mod.mp rotation
    rcases Nat.lt_or_eq_of_le bound with below | whole
    · exact ⟨index, List.mem_range.mpr below, (List.rotate_eq_drop_append_take bound).symm⟩
    · refine ⟨0, List.mem_range.mpr (List.length_pos_iff.mpr some_), ?_⟩
      rw [whole, List.rotate_length, List.drop_zero, List.take_zero, List.append_nil]

theorem least_rotation (cycle : List String) (some_ : cycle ≠ []) : cycle ~r leastRotation cycle ∧
    ∀ other, cycle ~r other → leastRotation cycle ≤ other := by
  unfold leastRotation
  have sorted := List.pairwise_insertionSort (· ≤ ·) (rotations cycle)
  cases shape : (rotations cycle).insertionSort (· ≤ ·) with
  | nil =>
      have empty : cycle ∈ (rotations cycle).insertionSort (· ≤ ·) :=
        (List.mem_insertionSort _).mpr ((mem_rotations_iff cycle cycle some_).mpr (.refl cycle))
      rw [shape] at empty
      cases empty
  | cons least others =>
      rw [shape] at sorted
      have member : least ∈ (rotations cycle).insertionSort (· ≤ ·) := shape ▸ List.mem_cons_self
      refine ⟨(mem_rotations_iff cycle least some_).mp ((List.mem_insertionSort _).mp member), fun other rotation => ?_⟩
      have listed : other ∈ least :: others :=
        shape ▸ (List.mem_insertionSort _).mpr ((mem_rotations_iff cycle other some_).mpr rotation)
      rcases List.mem_cons.mp listed with same | later
      · rw [same]
        exact le_refl least
      · exact (List.pairwise_cons.mp sorted).1 other later

end Rotations

section Graphs

variable {graph : WaitGraph}

def GraphEdge (graph : WaitGraph) (first second : String) : Prop :=
  ∃ dependencies, graph.lookup first = some dependencies ∧ second ∈ dependencies ∧ (graph.lookup second).isSome = true

def Backed (graph : WaitGraph) (cycles : List (List String)) (node : String) : Prop :=
  ∃ cycle ∈ cycles, ∀ other ∈ cycle, Mutual (GraphEdge graph) node other

variable {cycles : List (List String)}

theorem Backed.grown (more : List (List String)) {node : String}
    (backed : Backed graph cycles node) : Backed graph (cycles ++ more) node := by
  obtain ⟨cycle, listed, mutual_⟩ := backed
  exact ⟨cycle, List.mem_append_left _ listed, mutual_⟩

-- What the frame of a node still has to look at, and what it has seen: a closed
-- node, the node of the frame above it, or a node of its own component.
structure FrameSeen (graph : WaitGraph) (closed : List String) (cycles : List (List String)) (child : Option String)
    (node : String) (rest dependencies : List String) : Prop where
  found : graph.lookup node = some dependencies
  within : ∀ dependency ∈ rest, dependency ∈ dependencies
  seen : ∀ dependency ∈ dependencies, (graph.lookup dependency).isSome = true →
    dependency ∈ rest ∨ dependency ∈ closed ∨ child = some dependency ∨ Backed graph cycles node

def Stacked (graph : WaitGraph) (closed : List String) (cycles : List (List String)) :
    Option String → List (String × List String) → Prop
  | _, [] => True
  | child, (node, rest) :: below => (∃ dependencies, FrameSeen graph closed cycles child node rest dependencies) ∧
      (∀ above ∈ child, GraphEdge graph node above) ∧ Stacked graph closed cycles (some node) below

structure Walking (graph : WaitGraph) (walk : Walk) : Prop where
  path : walk.path = (walk.frames.map Prod.fst).reverse
  opened : ∀ node, node ∈ walk.opened ↔ node ∈ walk.closed ∨ node ∈ walk.frames.map Prod.fst
  distinct : (walk.frames.map Prod.fst ++ walk.closed).Nodup
  stacked : Stacked graph walk.closed walk.cycles none walk.frames
  finished : Finished (GraphEdge graph) (Backed graph walk.cycles) walk.closed
  cycles : ∀ cycle ∈ walk.cycles, SimpleCycle (GraphEdge graph) cycle ∧ ∀ other, cycle ~r other → cycle ≤ other

theorem FrameSeen.moved {closed also : List String} {cycles more : List (List String)} {child next : Option String}
    {node : String} {rest dependencies : List String}
    (framed : FrameSeen graph closed cycles child node rest dependencies)
    (closedKept : ∀ other ∈ closed, other ∈ also) (childKept : ∀ other ∈ child, other ∈ also ∨ next = some other) :
    FrameSeen graph also (cycles ++ more) next node rest dependencies where
  found := framed.found
  within := framed.within
  seen dependency listed known := by
    rcases framed.seen dependency listed known with waits | shut | above | backed
    · exact .inl waits
    · exact .inr (.inl (closedKept dependency shut))
    · rcases childKept dependency above with shut | above
      · exact .inr (.inl shut)
      · exact .inr (.inr (.inl above))
    · exact .inr (.inr (.inr (backed.grown more)))

theorem Stacked.moved {closed also : List String} (more : List (List String))
    (closedKept : ∀ other ∈ closed, other ∈ also) {child : Option String} {frames : List (String × List String)}
    (stacked : Stacked graph closed cycles child frames) : Stacked graph also (cycles ++ more) child frames := by
  induction frames generalizing child with
  | nil => trivial
  | cons frame below ih =>
      obtain ⟨⟨dependencies, framed⟩, above, rest⟩ := stacked
      exact ⟨⟨dependencies, framed.moved closedKept fun _ same => .inr same⟩, above, ih rest⟩

theorem Stacked.popped {closed : List String} {node : String}
    {frames : List (String × List String)} (stacked : Stacked graph closed cycles (some node) frames) :
    Stacked graph (node :: closed) cycles none frames := by
  cases frames with
  | nil => trivial
  | cons frame below =>
      obtain ⟨⟨dependencies, framed⟩, above, rest⟩ := stacked
      refine ⟨⟨dependencies, ?_⟩, nofun, ?_⟩
      · have moved : FrameSeen graph (node :: closed) (cycles ++ []) none frame.1 frame.2 dependencies :=
          framed.moved (fun _ shut => List.mem_cons_of_mem _ shut) fun other same => by
            cases same
            exact .inl List.mem_cons_self
        rwa [List.append_nil] at moved
      · have moved : Stacked graph (node :: closed) (cycles ++ []) (some frame.1) below :=
          rest.moved [] fun _ shut => List.mem_cons_of_mem _ shut
        rwa [List.append_nil] at moved

theorem Stacked.chain {closed : List String} {child : Option String}
    {frames : List (String × List String)} (stacked : Stacked graph closed cycles child frames) :
    (frames.map Prod.fst).IsChain fun upper lower => GraphEdge graph lower upper := by
  induction frames generalizing child with
  | nil => exact List.isChain_nil
  | cons frame below ih =>
      obtain ⟨-, -, rest⟩ := stacked
      cases below with
      | nil => exact List.isChain_singleton _
      | cons next below => exact List.isChain_cons_cons.mpr ⟨rest.2.1 frame.1 rfl, ih rest⟩

end Graphs

section Steps

variable {graph : WaitGraph} {walk : Walk}

theorem drop_while_listed (node : String) (path : List String) (listed : node ∈ path) :
    ∃ front rest, path = front ++ node :: rest ∧ path.dropWhile (fun other => decide (other ≠ node))
    = node :: rest := by
  induction path with
  | nil => cases listed
  | cons first later ih =>
      by_cases here : first = node
      · subst here
        exact ⟨[], later, rfl, by simp⟩
      · obtain ⟨front, rest, split, dropped⟩ := ih ((List.mem_cons.mp listed).resolve_left (Ne.symm here))
        refine ⟨first :: front, rest, by rw [split]; rfl, ?_⟩
        rw [List.dropWhile_cons_of_pos (by simpa using here)]
        exact dropped

theorem back_cycle (walking : Walking graph walk) {node dependency : String} {others : List String}
    {frames : List (String × List String)} (top : walk.frames = (node, others) :: frames)
    (edge : GraphEdge graph node dependency) (onPath : dependency ∈ walk.frames.map Prod.fst) :
    SimpleCycle (GraphEdge graph) (walk.path.dropWhile fun other => decide (other ≠ dependency)) ∧
      node ∈ walk.path.dropWhile fun other => decide (other ≠ dependency) := by
  have listed : dependency ∈ walk.path := by rwa [walking.path, List.mem_reverse]
  obtain ⟨front, rest, split, dropped⟩ := drop_while_listed dependency walk.path listed
  have chain : walk.path.IsChain (GraphEdge graph) := by
    rw [walking.path, List.isChain_reverse]
    exact walking.stacked.chain
  have distinct : walk.path.Nodup := by
    rw [walking.path, List.nodup_reverse]
    exact walking.distinct.sublist (List.sublist_append_left _ _)
  have last : walk.path.getLast? = some node := by
    rw [walking.path, top, List.getLast?_reverse]
    rfl
  rw [split] at chain distinct last
  rw [List.getLast?_append_of_ne_nil _ (List.cons_ne_nil _ _)] at last
  rw [dropped]
  refine ⟨simple_cycle_cons dependency rest (List.nodup_append.mp distinct).2.1 (List.isChain_append.mp chain).2.1 ?_,
    List.mem_of_getLast? last⟩
  intro end_ found
  cases last.symm.trans found
  exact edge

theorem recorded_cycle {cycle : List String} (simple : SimpleCycle (GraphEdge graph) cycle) :
    SimpleCycle (GraphEdge graph) (leastRotation cycle) ∧
      (∀ other, leastRotation cycle ~r other → leastRotation cycle ≤ other) ∧
      ∀ node ∈ cycle, ∀ other ∈ leastRotation cycle, Mutual (GraphEdge graph) node other := by
  obtain ⟨rotation, least⟩ := least_rotation cycle simple.1
  refine ⟨simple.rotated rotation, fun other onward => least other (rotation.trans onward),
    fun node listed other member => ?_⟩
  exact simple.mutual_of node listed other (rotation.mem_iff.mpr member)

variable {node dependency : String} {others : List String} {frames : List (String × List String)}

theorem popped_walking (walking : Walking graph walk) (top : walk.frames = (node, []) :: frames) :
    Walking graph { walk with frames, path := walk.path.dropLast, closed := node :: walk.closed } := by
  have stacked := walking.stacked
  have opened := walking.opened
  have distinct := walking.distinct
  have path := walking.path
  rw [top] at stacked opened distinct path
  obtain ⟨⟨dependencies, framed⟩, -, below⟩ := stacked
  refine ⟨?_, fun other => ?_, List.perm_middle.nodup_iff.mpr distinct, below.popped,
    ⟨?_, walking.finished⟩, walking.cycles⟩
  · rw [List.map_cons, List.reverse_cons] at path
    dsimp only
    rw [path, List.dropLast_concat]
  · dsimp only
    rw [opened, List.map_cons, List.mem_cons, List.mem_cons, or_left_comm, or_assoc]
  · rintro next ⟨found, given, listed, known⟩
    cases framed.found.symm.trans given
    rcases framed.seen next listed known with waits | shut | above | backed
    · cases waits
    · exact .inl shut
    · cases above
    · exact .inr backed

theorem looked_walking (walking : Walking graph walk) (top : walk.frames = (node, dependency :: others) :: frames)
    (more : List (List String))
    (settled : (graph.lookup dependency).isSome = true → dependency ∈ walk.closed ∨
    Backed graph (walk.cycles ++ more) node)
    (sound : ∀ cycle ∈ more, SimpleCycle (GraphEdge graph) cycle ∧ ∀ other, cycle ~r other → cycle ≤ other) :
    Walking graph { walk with frames := (node, others) :: frames, cycles := walk.cycles ++ more } := by
  have stacked := walking.stacked
  have opened := walking.opened
  have distinct := walking.distinct
  have path := walking.path
  rw [top] at stacked opened distinct path
  obtain ⟨⟨dependencies, framed⟩, -, below⟩ := stacked
  have moved : FrameSeen graph walk.closed (walk.cycles ++ more) none node (dependency :: others) dependencies :=
    framed.moved (fun _ shut => shut) fun _ above => .inr above
  refine ⟨path, opened, distinct, ⟨⟨dependencies, moved.found, ?_, ?_⟩, nofun, below.moved more fun _ shut => shut⟩,
    walking.finished.weaken fun _ backed => backed.grown more, ?_⟩
  · exact fun other listed => moved.within other (List.mem_cons_of_mem _ listed)
  · intro other listed known
    rcases moved.seen other listed known with waits | seen
    · rcases List.mem_cons.mp waits with rfl | later
      · rcases settled known with shut | backed
        · exact .inr (.inl shut)
        · exact .inr (.inr (.inr backed))
      · exact .inl later
    · exact .inr seen
  · exact fun cycle listed => (List.mem_append.mp listed).elim (walking.cycles cycle) (sound cycle)

theorem opened_walking {dependencies : List String} (walking : Walking graph walk)
    (top : walk.frames = (node, dependency :: others) :: frames) (found : graph.lookup dependency = some dependencies)
    (fresh : dependency ∉ walk.opened) :
    Walking graph { walk with
      opened := dependency :: walk.opened
      path := walk.path ++ [dependency]
      frames := (dependency, dependencies) :: (node, others) :: frames } := by
  have stacked := walking.stacked
  have opened := walking.opened
  have distinct := walking.distinct
  have path := walking.path
  rw [top] at stacked opened distinct path
  obtain ⟨⟨all, framed⟩, -, below⟩ := stacked
  refine ⟨?_, fun other => ?_, ?_, ⟨⟨dependencies, found, fun _ listed => listed, fun _ listed _ => .inl listed⟩, nofun,
    ⟨⟨all, framed.found, ?_, ?_⟩, ?_, below⟩⟩, walking.finished, walking.cycles⟩
  · dsimp only
    rw [path]
    simp
  · dsimp only
    rw [List.mem_cons, opened]
    simp only [List.map_cons, List.mem_cons]
    rw [or_left_comm]
  · rw [opened] at fresh
    rw [List.map_cons, List.cons_append, List.nodup_cons]
    refine ⟨fun listed => fresh ?_, distinct⟩
    exact (List.mem_append.mp listed).symm
  · exact fun other listed => framed.within other (List.mem_cons_of_mem _ listed)
  · intro other listed known
    rcases framed.seen other listed known with waits | shut | above | backed
    · rcases List.mem_cons.mp waits with rfl | later
      · exact .inr (.inr (.inl rfl))
      · exact .inl later
    · exact .inr (.inl shut)
    · cases above
    · exact .inr (.inr (.inr backed))
  · intro above same
    cases same
    exact ⟨all, framed.found, framed.within dependency List.mem_cons_self, by rw [found]; rfl⟩

theorem next_walking (walking : Walking graph walk) : Walking graph (walk.next graph) := by
  unfold Walk.next
  split
  · exact walking
  · rename_i node frames top
    exact popped_walking walking top
  · rename_i node dependency others frames top
    have plain : walk.cycles ++ [] = walk.cycles := List.append_nil _
    dsimp only
    split
    · rename_i unknown
      have looked := looked_walking walking top [] (fun known => by rw [unknown] at known; cases known) nofun
      rwa [plain] at looked
    · rename_i dependencies found
      split
      · rename_i shut
        have looked := looked_walking walking top [] (fun _ => .inl shut) nofun
        rwa [plain] at looked
      · rename_i live
        split
        · rename_i known
          have onPath : dependency ∈ walk.frames.map Prod.fst :=
            ((walking.opened dependency).mp known).resolve_left live
          have edge : GraphEdge graph node dependency := by
            have stacked := walking.stacked
            rw [top] at stacked
            obtain ⟨⟨all, framed⟩, -, -⟩ := stacked
            exact ⟨all, framed.found, framed.within dependency List.mem_cons_self, by rw [found]; rfl⟩
          obtain ⟨simple, member⟩ := back_cycle walking top edge onPath
          obtain ⟨rotated, least, mutual_⟩ := recorded_cycle simple
          refine looked_walking walking top _ (fun _ => .inr ?_) ?_
          · exact ⟨_, List.mem_append_right _ (List.mem_singleton_self _), mutual_ node member⟩
          · intro cycle listed
            rw [List.mem_singleton.mp listed]
            exact ⟨rotated, least⟩
        · rename_i fresh
          exact opened_walking walking top found fresh

end Steps

section Termination

variable {graph : WaitGraph} {walk : Walk}

def edgesLeft (frames : List (String × List String)) : Nat := (frames.map fun frame => frame.2.length + 1).sum

def weight (opened : List String) (entry : String × List String) : Nat :=
  if entry.1 ∈ opened then 0 else entry.2.length + 1

def unvisited (graph : WaitGraph) (opened : List String) : Nat := (graph.map (weight opened)).sum

def cost (graph : WaitGraph) (walk : Walk) : Nat := edgesLeft walk.frames + unvisited graph walk.opened

theorem lookup_iff (distinct : (graph.map Prod.fst).Nodup) (node : String) (dependencies : List String) :
    graph.lookup node = some dependencies ↔ (node, dependencies) ∈ graph := by
  induction graph with
  | nil => simp
  | cons entry rest ih =>
      obtain ⟨other, kept⟩ := entry
      obtain ⟨fresh, later⟩ := List.nodup_cons.mp distinct
      rw [List.lookup_cons, List.mem_cons, Prod.mk.injEq]
      by_cases same : node = other
      · subst same
        have absent : (node, dependencies) ∉ rest := fun listed => fresh (List.mem_map.mpr ⟨_, listed, rfl⟩)
        simp [absent, eq_comm]
      · have apart : (node == other) = false := beq_eq_false_iff_ne.mpr same
        rw [apart, ih later]
        simp [same]

theorem lookup_known (node : String) : (graph.lookup node).isSome = true ↔ node ∈ graph.map Prod.fst := by
  induction graph with
  | nil => simp
  | cons entry rest ih =>
      obtain ⟨other, kept⟩ := entry
      rw [List.lookup_cons, List.map_cons, List.mem_cons]
      by_cases same : node = other
      · simp [same]
      · have apart : (node == other) = false := beq_eq_false_iff_ne.mpr same
        rw [apart, ih]
        simp [same]

theorem lookup_mem {node : String} {dependencies : List String} (found : graph.lookup node = some dependencies) :
    (node, dependencies) ∈ graph := by
  induction graph with
  | nil => cases found
  | cons entry rest ih =>
      obtain ⟨other, kept⟩ := entry
      rw [List.lookup_cons] at found
      split at found
      · rename_i same
        cases found
        rw [beq_iff_eq.mp same]
        exact List.mem_cons_self
      · exact List.mem_cons_of_mem _ (ih found)

theorem weight_less (opened : List String) (node : String) (entry : String × List String) :
    weight (node :: opened) entry ≤ weight opened entry := by
  unfold weight
  by_cases known : entry.1 ∈ opened
  · simp [known]
  · rw [if_neg known]
    split
    · exact Nat.zero_le _
    · exact le_refl _

theorem unvisited_less (graph : WaitGraph) (opened : List String) (node : String) :
    unvisited graph (node :: opened) ≤ unvisited graph opened := by
  induction graph with
  | nil => exact le_refl _
  | cons entry rest ih => exact Nat.add_le_add (weight_less opened node entry) ih

theorem unvisited_opened {opened : List String} {node : String} {dependencies : List String}
    (listed : (node, dependencies) ∈ graph) (fresh : node ∉ opened) :
    unvisited graph (node :: opened) + (dependencies.length + 1) ≤ unvisited graph opened := by
  induction graph with
  | nil => cases listed
  | cons entry rest ih =>
      simp only [unvisited, List.map_cons, List.sum_cons] at ih ⊢
      rcases List.mem_cons.mp listed with rfl | later
      · have before : weight opened (node, dependencies) = dependencies.length + 1 := if_neg fresh
        have after : weight (node :: opened) (node, dependencies) = 0 := if_pos List.mem_cons_self
        have less : (rest.map (weight (node :: opened))).sum ≤ (rest.map (weight opened)).sum :=
          unvisited_less rest opened node
        omega
      · have less := weight_less opened node entry
        have known := ih later
        omega

theorem next_cost (going : walk.frames ≠ []) :
    cost graph (walk.next graph) < cost graph walk := by
  unfold Walk.next
  split
  · rename_i ended
    exact absurd ended going
  · rename_i node frames top
    simp only [cost, top, edgesLeft, List.map_cons, List.sum_cons, List.length_nil]
    omega
  · rename_i node dependency others frames top
    have fewer : edgesLeft ((node, others) :: frames) < edgesLeft walk.frames := by
      simp only [top, edgesLeft, List.map_cons, List.sum_cons, List.length_cons]
      omega
    dsimp only
    split
    · exact Nat.add_lt_add_right fewer _
    · rename_i dependencies found
      split
      · exact Nat.add_lt_add_right fewer _
      · split
        · exact Nat.add_lt_add_right fewer _
        · rename_i fresh
          have opened := unvisited_opened (lookup_mem found) fresh
          have framed : edgesLeft ((dependency, dependencies) :: (node, others) :: frames) =
              dependencies.length + 1 + edgesLeft ((node, others) :: frames) := rfl
          simp only [cost]
          omega

theorem run_walking (steps : Nat) (walking : Walking graph walk) : Walking graph ((Walk.next graph)^[steps] walk) := by
  induction steps generalizing walk with
  | zero => exact walking
  | succ steps ih => exact ih (next_walking walking)

theorem run_ends (steps : Nat) (bound : cost graph walk ≤ steps) :
    ((Walk.next graph)^[steps] walk).frames = [] := by
  induction steps generalizing walk with
  | zero =>
      cases ended : walk.frames with
      | nil => exact ended
      | cons frame frames =>
          simp only [cost, ended, edgesLeft, List.map_cons, List.sum_cons] at bound
          omega
  | succ steps ih =>
      by_cases ended : walk.frames = []
      · have still : walk.next graph = walk := by
          unfold Walk.next
          rw [ended]
        rw [Function.iterate_fixed still, ended]
      · have closer : cost graph (walk.next graph) < cost graph walk := next_cost ended
        exact ih (by omega)

theorem next_keeps (graph : WaitGraph) (walk : Walk) : (∀ node ∈ walk.opened, node ∈ (walk.next graph).opened) ∧
    ∀ node ∈ walk.closed, node ∈ (walk.next graph).closed := by
  unfold Walk.next
  split
  · exact ⟨fun _ listed => listed, fun _ listed => listed⟩
  · exact ⟨fun _ listed => listed, fun _ listed => List.mem_cons_of_mem _ listed⟩
  · dsimp only
    split
    · exact ⟨fun _ listed => listed, fun _ listed => listed⟩
    · split
      · exact ⟨fun _ listed => listed, fun _ listed => listed⟩
      · split
        · exact ⟨fun _ listed => listed, fun _ listed => listed⟩
        · exact ⟨fun _ listed => List.mem_cons_of_mem _ listed, fun _ listed => listed⟩

theorem run_keeps (graph : WaitGraph) (steps : Nat) (walk : Walk) :
    (∀ node ∈ walk.opened, node ∈ ((Walk.next graph)^[steps] walk).opened) ∧
    ∀ node ∈ walk.closed, node ∈ ((Walk.next graph)^[steps] walk).closed := by
  induction steps generalizing walk with
  | zero => exact ⟨fun _ listed => listed, fun _ listed => listed⟩
  | succ steps ih =>
      obtain ⟨opened, closed⟩ := next_keeps graph walk
      obtain ⟨laterOpened, laterClosed⟩ := ih (walk.next graph)
      exact ⟨fun node listed => laterOpened node (opened node listed), fun node listed =>
        laterClosed node (closed node listed)⟩

end Termination

section Roots

variable {graph : WaitGraph} {walk : Walk}

structure Resting (graph : WaitGraph) (walk : Walk) : Prop where
  walking : Walking graph walk
  idle : walk.frames = []

theorem Resting.opened_iff (resting : Resting graph walk) (node : String) :
    node ∈ walk.opened ↔ node ∈ walk.closed := by
  rw [resting.walking.opened, resting.idle]
  simp

theorem started_walking (distinct : (graph.map Prod.fst).Nodup) (resting : Resting graph walk)
    {root : String × List String} (listed : root ∈ graph) (fresh : root.1 ∉ walk.closed) :
    Walking graph { walk with opened := root.1 :: walk.opened, path := [root.1], frames := [root] } := by
  refine ⟨rfl, fun node => ?_, ?_, ⟨⟨root.2, ?_, fun _ member => member, fun _ member _ => .inl member⟩,
    nofun, trivial⟩,
    resting.walking.finished, resting.walking.cycles⟩
  · dsimp only
    rw [List.mem_cons, resting.opened_iff, List.map_singleton, List.mem_singleton, or_comm]
  · have known := resting.walking.distinct
    rw [resting.idle] at known
    exact List.nodup_cons.mpr ⟨fresh, known⟩
  · exact (lookup_iff distinct root.1 root.2).mpr listed

theorem unvisited_bound (graph : WaitGraph) (opened : List String) : unvisited graph opened ≤ walkBound graph := by
  induction graph with
  | nil => exact le_refl _
  | cons entry rest ih =>
      have less : weight opened entry ≤ entry.2.length + 1 := by
        unfold weight
        split
        · exact Nat.zero_le _
        · exact le_refl _
      exact Nat.add_le_add less ih

theorem walk_from_resting (distinct : (graph.map Prod.fst).Nodup) (resting : Resting graph walk)
    {root : String × List String} (listed : root ∈ graph) : Resting graph (walkFrom graph walk root) ∧
      root.1 ∈ (walkFrom graph walk root).closed ∧ ∀ node ∈ walk.closed, node ∈ (walkFrom graph walk root).closed := by
  unfold walkFrom
  split
  · rename_i shut
    exact ⟨resting, shut, fun _ kept => kept⟩
  · rename_i fresh
    have started := started_walking distinct resting listed fresh
    have unopened : root.1 ∉ walk.opened := fun opened => fresh ((resting.opened_iff root.1).mp opened)
    have bound : cost graph { walk with opened := root.1 :: walk.opened, path := [root.1], frames := [root] } ≤
        walkBound graph := by
      have left : edgesLeft [root] = root.2.length + 1 := rfl
      have opened : unvisited graph (root.1 :: walk.opened) + (root.2.length + 1) ≤ unvisited graph walk.opened :=
        unvisited_opened listed unopened
      have whole := unvisited_bound graph walk.opened
      simp only [cost]
      omega
    have ended := run_ends (walkBound graph) bound
    have keeps := run_keeps graph (walkBound graph)
      { walk with opened := root.1 :: walk.opened, path := [root.1], frames := [root] }
    have rested : Resting graph ((Walk.next graph)^[walkBound graph]
        { walk with opened := root.1 :: walk.opened, path := [root.1], frames := [root] }) :=
      ⟨run_walking _ started, ended⟩
    exact ⟨rested, (rested.opened_iff root.1).mp (keeps.1 root.1 List.mem_cons_self), keeps.2⟩

theorem walk_roots (distinct : (graph.map Prod.fst).Nodup) (roots : WaitGraph) (within : ∀ root ∈ roots, root ∈ graph)
    (resting : Resting graph walk) : Resting graph (roots.foldl (walkFrom graph) walk) ∧
      (∀ root ∈ roots, root.1 ∈ (roots.foldl (walkFrom graph) walk).closed) ∧
      ∀ node ∈ walk.closed, node ∈ (roots.foldl (walkFrom graph) walk).closed := by
  induction roots generalizing walk with
  | nil => exact ⟨resting, nofun, fun _ kept => kept⟩
  | cons root rest ih =>
      obtain ⟨rested, shut, kept⟩ := walk_from_resting distinct resting (within root List.mem_cons_self)
      obtain ⟨final, closed, onward⟩ := ih (fun other listed => within other (List.mem_cons_of_mem _ listed)) rested
      refine ⟨final, ?_, fun node listed => onward node (kept node listed)⟩
      intro other listed
      rcases List.mem_cons.mp listed with rfl | later
      · exact onward other.1 shut
      · exact closed other later

theorem start_resting (graph : WaitGraph) : Resting graph ⟨[], [], [], [], []⟩ :=
  ⟨⟨rfl, fun _ => by simp, List.nodup_nil, trivial, trivial, nofun⟩, rfl⟩

def wholeWalk (graph : WaitGraph) : Walk :=
  (graph.insertionSort fun first second => first.1 ≤ second.1).foldl (walkFrom graph) ⟨[], [], [], [], []⟩

theorem whole_walk_resting (distinct : (graph.map Prod.fst).Nodup) : Resting graph (wholeWalk graph) ∧
    ∀ entry ∈ graph, entry.1 ∈ (wholeWalk graph).closed := by
  obtain ⟨resting, closed, -⟩ := walk_roots distinct (graph.insertionSort fun first second => first.1 ≤ second.1)
    (fun root listed => (List.mem_insertionSort _).mp listed) (start_resting graph)
  exact ⟨resting, fun entry listed => closed entry ((List.mem_insertionSort _).mpr listed)⟩

end Roots

def Depends (store : Store) (first second : String) : Prop :=
  (∃ row ∈ waitingCheckpoints store, row.obligationId = first ∧ (⟨.obligation, second⟩ : SourceKey) ∈ row.sources) ∧
    ∃ row ∈ waitingCheckpoints store, row.obligationId = second

theorem wait_graph_keys (store : Store) :
    (waitGraph store).map Prod.fst = (waitingCheckpoints store).map AssignmentCheckpoint.obligationId := by
  unfold waitGraph
  rw [List.map_map]
  rfl

theorem graph_edge_iff (store : Store) (distinct : ((waitGraph store).map Prod.fst).Nodup) (first second : String) :
    GraphEdge (waitGraph store) first second ↔ Depends store first second := by
  unfold GraphEdge Depends
  have known : ((waitGraph store).lookup second).isSome = true ↔
      ∃ row ∈ waitingCheckpoints store, row.obligationId = second := by
    rw [lookup_known, wait_graph_keys, List.mem_map]
  rw [known]
  constructor
  · rintro ⟨dependencies, found, listed, present⟩
    refine ⟨?_, present⟩
    obtain ⟨row, member, same⟩ := List.mem_map.mp ((lookup_iff distinct _ _).mp found)
    cases same
    rw [List.mem_insertionSort, List.mem_dedup, List.mem_map] at listed
    obtain ⟨source, kept, rfl⟩ := listed
    obtain ⟨within, kind⟩ := List.mem_filter.mp kept
    refine ⟨row, member, rfl, ?_⟩
    rw [← of_decide_eq_true kind]
    exact within
  · rintro ⟨⟨row, member, rfl, within⟩, present⟩
    refine ⟨_, (lookup_iff distinct _ _).mpr (List.mem_map_of_mem member), ?_, present⟩
    rw [List.mem_insertionSort, List.mem_dedup, List.mem_map]
    exact ⟨_, List.mem_filter.mpr ⟨within, rfl⟩, rfl⟩

theorem dependency_cycles_found (store : Store)
    (keyed : (store.assignmentCheckpoints.map AssignmentCheckpoint.obligationId).Nodup) :
    (assignmentDependencyCycles store ≠ [] ↔ ∃ node, Relation.TransGen (Depends store) node node) ∧
      (∀ cycle ∈ assignmentDependencyCycles store, SimpleCycle (Depends store) cycle ∧
        ∀ other, cycle ~r other → cycle ≤ other) ∧
      (assignmentDependencyCycles store).Nodup ∧
      ∀ node, Relation.TransGen (Depends store) node node →
        ∃ cycle ∈ assignmentDependencyCycles store, ∀ other ∈ cycle, Mutual (Depends store) node other := by
  have distinct : ((waitGraph store).map Prod.fst).Nodup := by
    rw [wait_graph_keys]
    exact keyed.sublist (List.Sublist.map _ List.filter_sublist)
  have same : GraphEdge (waitGraph store) = Depends store :=
    funext fun first => funext fun second => propext (graph_edge_iff store distinct first second)
  obtain ⟨⟨walking, idle⟩, closed⟩ := whole_walk_resting distinct
  rw [← same]
  have listed : ∀ cycle, cycle ∈ assignmentDependencyCycles store ↔ cycle ∈ (wholeWalk (waitGraph store)).cycles := by
    intro cycle
    unfold assignmentDependencyCycles
    rw [List.mem_insertionSort, List.mem_dedup]
    rfl
  have sound : ∀ cycle ∈ assignmentDependencyCycles store, SimpleCycle (GraphEdge (waitGraph store)) cycle ∧
      ∀ other, cycle ~r other → cycle ≤ other := fun cycle found => walking.cycles cycle ((listed cycle).mp found)
  have complete : ∀ node, Relation.TransGen (GraphEdge (waitGraph store)) node node →
      ∃ cycle ∈ assignmentDependencyCycles store, ∀ other ∈ cycle, Mutual (GraphEdge (waitGraph store)) node other := by
    intro node loop
    have whole : ∀ first second, GraphEdge (waitGraph store) first second →
      first ∈ (wholeWalk (waitGraph store)).closed := by
      rintro first second ⟨dependencies, found, -, -⟩
      exact closed (first, dependencies) (lookup_mem found)
    have shut := walking.distinct
    rw [idle] at shut
    obtain ⟨other, mutual_, cycle, found, within⟩ := walking.finished.excuses shut whole loop
    exact ⟨cycle, (listed cycle).mpr found, fun member inside => mutual_.trans (within member inside)⟩
  refine ⟨⟨fun some_ => ?_, ?_⟩, sound, ?_, complete⟩
  · obtain ⟨cycle, found⟩ := List.exists_mem_of_ne_nil _ some_
    obtain ⟨node, inside⟩ := List.exists_mem_of_ne_nil _ (sound cycle found).1.1
    exact ⟨node, (sound cycle found).1.trans_gen node inside⟩
  · rintro ⟨node, loop⟩
    obtain ⟨cycle, found, -⟩ := complete node loop
    exact List.ne_nil_of_mem found
  · exact (List.perm_insertionSort _ _).nodup_iff.mpr (List.nodup_dedup _)

def deadlocked : Store :=
  let waitsFor (first second : String) : AssignmentCheckpoint :=
    ⟨first, 1, 1, .waiting, some .all, [⟨.obligation, second⟩], []⟩
  { assignmentCheckpoints := [waitsFor "a" "b", waitsFor "b" "a"] }

theorem deadlock_found : (deadlocked.assignmentCheckpoints.map AssignmentCheckpoint.obligationId).Nodup ∧
    ∃ cycle ∈ assignmentDependencyCycles deadlocked, ∀ other ∈ cycle, Mutual (Depends deadlocked) "a" other := by
  have keyed : (deadlocked.assignmentCheckpoints.map AssignmentCheckpoint.obligationId).Nodup := by decide
  refine ⟨keyed, (dependency_cycles_found deadlocked keyed).2.2.2 "a" ?_⟩
  have first : Depends deadlocked "a" "b" := by
    refine ⟨⟨_, List.mem_cons_self, rfl, List.mem_singleton_self _⟩, ?_⟩
    exact ⟨_, List.mem_cons_of_mem _ List.mem_cons_self, rfl⟩
  have second : Depends deadlocked "b" "a" :=
    ⟨⟨_, List.mem_cons_of_mem _ List.mem_cons_self, rfl, List.mem_singleton_self _⟩, ⟨_, List.mem_cons_self, rfl⟩⟩
  exact (Relation.TransGen.single first).tail second

end OrchestratorEngine.Continuity
