import OrchestratorEngine.WorkerLease.ProcessGroups

set_option autoImplicit false

namespace OrchestratorEngine.WorkerLease.ProcessGroups

variable (system : System)

variable (row : Process)

theorem leader_known (listed : row ∈ system.rows) : row.leader ∈ system.spent :=
  system.known row listed row.leader List.mem_cons_self

theorem row_unique (first second : Process) (listed : first ∈ system.rows)
    (present : second ∈ system.rows) (same : first.pid = second.pid) : first = second :=
  List.inj_on_of_nodup_map system.distinct listed present same

theorem find_some (listed : row ∈ system.rows) : system.find row.pid = some row := by
  unfold System.find
  cases found : system.rows.find? fun other => decide (other.pid = row.pid) with
  | none => exact absurd (List.find?_eq_none.mp found row listed) (by simp)
  | some other =>
      have same : other.pid = row.pid := by simpa using List.find?_some found
      rw [row_unique system other row (List.mem_of_find?_eq_some found) listed same]

structure Continues (old new : Process) : Prop where
  pid : new.pid = old.pid
  start : new.start = old.start
  group : new.group = old.group
  ended : old.executing = false → new.executing = false
  exited : old.state ∈ nonExecutingProcessStates → new.state ∈ nonExecutingProcessStates

theorem Continues.refl : Continues row row := ⟨rfl, rfl, rfl, id, id⟩

theorem Continues.trans {first second third : Process} (lower : Continues first second)
    (upper : Continues second third) :
    Continues first third :=
  ⟨upper.pid.trans lower.pid, upper.start.trans lower.start, upper.group.trans lower.group,
    fun ended => upper.ended (lower.ended ended), fun exited => upper.exited (lower.exited exited)⟩

theorem Continues.leader {old new : Process} (continues : Continues old new) : new.leader = old.leader := by
  simp only [Process.leader, continues.pid, continues.start]

theorem executing_false :
    row.executing = false ↔ row.state ∈ nonExecutingProcessStates ∧ row.threads = [] := by
  simp [Process.executing]

theorem changes_continue (row new : Process) (entries : List Member) (changes : Changes row new entries) :
    Continues row new := by
  cases changes with
  | turn letter running still =>
      exact ⟨rfl, rfl, rfl, fun ended => absurd ((executing_false row).mp ended).1 running, fun exited =>
        absurd exited running⟩
  | exit letter running ended =>
      exact ⟨rfl, rfl, rfl, fun ended => absurd ((executing_false row).mp ended).1 running, fun exited =>
        absurd exited running⟩
  | spawn thread running => exact ⟨rfl, rfl, rfl, fun ended => absurd (ended.symm.trans running) (by simp), id⟩
  | turnThread old new listed tid start =>
      refine ⟨rfl, rfl, rfl, fun ended => ?_, id⟩
      rw [((executing_false row).mp ended).2] at listed
      cases listed
  | exitThread old listed =>
      refine ⟨rfl, rfl, rfl, fun ended => ?_, id⟩
      rw [((executing_false row).mp ended).2] at listed
      cases listed

theorem step_back (before after : System) (step : Step before after) (row : Process) (present : row ∈ after.rows) :
    (∃ old ∈ before.rows, Continues old row) ∨ row.leader ∉ before.spent := by
  cases step with
  | idle same => exact .inl ⟨row, same ▸ present, Continues.refl row⟩
  | change old new entries listed changes fresh rows spent =>
      rw [rows] at present
      obtain ⟨other, stored, rfl⟩ := List.mem_map.mp present
      by_cases here : other.pid = old.pid
      · rw [if_pos here]
        exact .inl ⟨old, listed, changes_continue old new entries changes⟩
      · rw [if_neg here]
        exact .inl ⟨other, stored, Continues.refl other⟩
  | fork old child listed running group starts alone fresh rows spent =>
      rw [rows] at present
      rcases List.mem_append.mp present with stored | last
      · exact .inl ⟨row, stored, Continues.refl row⟩
      · rw [List.mem_singleton.mp last]
        exact .inr fresh
  | reap old listed ended rows spent =>
      rw [rows] at present
      exact .inl ⟨row, (List.mem_filter.mp present).1, Continues.refl row⟩

theorem step_spent (before after : System) (step : Step before after) (entry : Member) (used : entry ∈ before.spent) :
    entry ∈ after.spent := by
  cases step with
  | idle same => exact same ▸ used
  | change old new entries listed changes fresh rows spent =>
      rw [spent]
      exact List.mem_append_right _ used
  | fork old child listed running group starts alone fresh rows spent =>
      rw [spent]
      exact List.mem_cons_of_mem _ used
  | reap old listed ended rows spent =>
      rw [spent]
      exact used

section Observed

variable (observation : Observation)

theorem world_spent (early late : Nat) (order : early ≤ late) (entry : Member)
    (used : entry ∈ (observation.world early).spent) : entry ∈ (observation.world late).spent := by
  induction late, order using Nat.le_induction with
  | base => exact used
  | succ late _ ih => exact step_spent _ _ (observation.steps late) entry ih

theorem world_back (early late : Nat) (order : early ≤ late) (row : Process)
    (present : row ∈ (observation.world late).rows) :
    (∃ old ∈ (observation.world early).rows, Continues old row) ∨ row.leader ∉ (observation.world early).spent := by
  induction late, order using Nat.le_induction generalizing row with
  | base => exact .inl ⟨row, present, Continues.refl row⟩
  | succ late order ih =>
      rcases step_back _ _ (observation.steps late) row present with ⟨middle, stored, last⟩ | fresh
      · rcases ih middle stored with ⟨old, kept, first⟩ | fresh
        · exact .inl ⟨old, kept, first.trans last⟩
        · exact .inr (last.leader.symm ▸ fresh)
      · exact .inr fun used => fresh (world_spent observation early late order _ used)

theorem world_between (early middle late : Nat) (lower : early ≤ middle) (upper : middle ≤ late) (old row : Process)
    (stored : old ∈ (observation.world early).rows) (present : row ∈ (observation.world late).rows)
    (pid : old.pid = row.pid) (start : old.start = row.start) :
    ∃ found ∈ (observation.world middle).rows, Continues old found ∧ Continues found row := by
  have leader : row.leader = old.leader := by simp only [Process.leader, pid, start]
  have used : ∀ moment, early ≤ moment → old.leader ∈ (observation.world moment).spent := fun moment order =>
    world_spent observation early moment order _ (leader_known _ old stored)
  rcases world_back observation middle late upper row present with ⟨found, kept, last⟩ | fresh
  · rcases world_back observation early middle lower found kept with ⟨first, there, continues⟩ | fresh
    · have same : first = old := row_unique _ first old there stored
        (continues.pid.symm.trans (last.pid.symm.trans pid.symm))
      exact ⟨found, kept, same ▸ continues, last⟩
    · exact absurd (used early (Nat.le_refl _)) (last.leader.symm.trans leader ▸ fresh)
  · exact absurd (used middle lower) (leader ▸ fresh)

def Recorded (pgid low high : Nat) (member : Member) : Prop :=
  ∃ access, low ≤ access ∧ access < high ∧ ∃ stat, observation.stat access member.1 member.2.1 = some stat ∧
    stat.processGroup = pgid ∧ stat.state ∈ nonExecutingProcessStates ∧ stat.startTicks = member.2.2

theorem Recorded.widen {observation : Observation} {pgid low high lower higher : Nat} {member : Member}
    (recorded : Recorded observation pgid low high member) (before : lower ≤ low) (after : high ≤ higher) :
    Recorded observation pgid lower higher member := by
  obtain ⟨access, above, below, rest⟩ := recorded
  exact ⟨access, Nat.le_trans before above, Nat.lt_of_lt_of_le below after, rest⟩

structure Clean (pgid : Nat) (before after : Progress) : Prop where
  access : before.access ≤ after.access
  sure : before.uncertain = false
  kept : ∀ member ∈ before.members, member ∈ after.members
  recorded : ∀ member ∈ after.members,
    member ∈ before.members ∨ Recorded observation pgid before.access after.access member

theorem Clean.trans {observation : Observation} {pgid : Nat} {first second third : Progress}
    (lower : Clean observation pgid first second) (upper : Clean observation pgid second third) :
    Clean observation pgid first third := by
  refine ⟨Nat.le_trans lower.access upper.access, lower.sure, fun member listed => upper.kept _ (lower.kept _ listed),
    fun member listed => ?_⟩
  rcases upper.recorded member listed with earlier | recorded
  · exact (lower.recorded member earlier).imp_right fun recorded => recorded.widen (Nat.le_refl _) upper.access
  · exact .inr (recorded.widen lower.access (Nat.le_refl _))

variable (pgid : Nat)

theorem clean_advance (progress : Progress) (sure : progress.uncertain = false) :
    Clean observation pgid progress progress.advance :=
  ⟨Nat.le_succ _, sure, fun _ listed => listed, fun _ listed => .inl listed⟩

-- The accesses that a snapshot makes for the entries it has listed, one after the other, each of them a success.
def TasksRead (pgid pid : Nat) : List Nat → Nat → Nat → Prop
  | [], low, high => high = low
  | tid :: rest, low, high =>
      (∃ stat, observation.stat low pid tid = some stat ∧ stat.processGroup = pgid ∧
        stat.state ∈ nonExecutingProcessStates) ∧ TasksRead pgid pid rest (low + 1) high

def EntriesRead (pgid : Nat) : List Nat → Nat → Nat → Prop
  | [], low, high => high = low
  | pid :: rest, low, high => ∃ leader, observation.stat low pid pid = some leader ∧
      if leader.processGroup ≠ pgid then EntriesRead pgid rest (low + 1) high
      else ∃ tids middle, tids ≠ [] ∧ observation.tasks (low + 1) pid = some tids ∧
        TasksRead observation pgid pid tids (low + 2) middle ∧ EntriesRead pgid rest middle high

theorem read_tasks_clean (pgid pid : Nat) (tids : List Nat) (progress : Progress)
    (quiet : (readTasks observation pgid pid tids progress).alive = false)
    (sure : (readTasks observation pgid pid tids progress).uncertain = false) :
    Clean observation pgid progress (readTasks observation pgid pid tids progress) ∧
      TasksRead observation pgid pid tids progress.access (readTasks observation pgid pid tids progress).access ∧
      ∀ tid ∈ tids, ∃ ticks, (pid, tid, ticks) ∈ (readTasks observation pgid pid tids progress).members ∧
        Recorded observation pgid progress.access (readTasks observation pgid pid tids progress).access
        (pid, tid, ticks) := by
  induction tids generalizing progress with
  | nil =>
      exact ⟨⟨Nat.le_refl _, sure, fun _ listed => listed, fun _ listed => .inl listed⟩, rfl,
        fun _ member => by cases member⟩
  | cons tid rest ih =>
      rw [readTasks] at quiet sure ⊢
      cases read : observation.stat progress.access pid tid with
      | none =>
          rw [read] at quiet sure
          exact absurd (ih _ quiet sure).1.sure (by simp [Progress.unsure])
      | some stat =>
          simp only [read] at quiet sure ⊢
          by_cases group : stat.processGroup ≠ pgid
          · rw [if_pos group] at quiet sure
            exact absurd (ih _ quiet sure).1.sure (by simp [Progress.unsure])
          · rw [if_neg group] at quiet sure ⊢
            by_cases running : stat.state ∉ nonExecutingProcessStates
            · rw [if_pos running] at quiet
              cases quiet
            · rw [if_neg running] at quiet sure ⊢
              obtain ⟨clean, reads, others⟩ := ih _ quiet sure
              have here : Recorded observation pgid progress.access (progress.access + 1) (pid, tid, stat.startTicks) :=
                ⟨progress.access, Nat.le_refl _, Nat.lt_succ_self _, stat, read, not_not.mp group,
                not_not.mp running, rfl⟩
              have first : Clean observation pgid progress (progress.record (pid, tid, stat.startTicks)) := by
                refine ⟨Nat.le_succ _, clean.sure, fun _ listed => List.mem_cons_of_mem _ listed,
                  fun member listed => ?_⟩
                rcases List.mem_cons.mp listed with rfl | earlier
                · exact .inr here
                · exact .inl earlier
              refine ⟨first.trans clean, ⟨⟨stat, read, not_not.mp group, not_not.mp running⟩, reads⟩,
                fun other member => ?_⟩
              rcases List.mem_cons.mp member with rfl | later
              · exact ⟨stat.startTicks, clean.kept _ List.mem_cons_self, here.widen (Nat.le_refl _) clean.access⟩
              · obtain ⟨ticks, listed, recorded⟩ := others other later
                exact ⟨ticks, listed, recorded.widen (Nat.le_succ _) (Nat.le_refl _)⟩

-- What a snapshot knows about a listed process: it belongs to another group, or
-- each of its threads was listed and then read without doubt.
structure Examined (pgid low : Nat) (after : Progress) (pid access : Nat) : Prop where
  above : low ≤ access
  below : access < after.access
  read : ∃ leader, observation.stat access pid pid = some leader ∧ (leader.processGroup = pgid →
    ∃ tids, tids ≠ [] ∧ observation.tasks (access + 1) pid = some tids ∧ access + 1 < after.access ∧
      ∀ tid ∈ tids, ∃ ticks, (pid, tid, ticks) ∈ after.members ∧
        Recorded observation pgid (access + 2) after.access (pid, tid, ticks))

theorem Examined.later {observation : Observation} {pgid low lower pid access : Nat} {middle after : Progress}
    (examined : Examined observation pgid low middle pid access) (before : lower ≤ low)
    (clean : Clean observation pgid middle after) : Examined observation pgid lower after pid access := by
  obtain ⟨leader, read, rest⟩ := examined.read
  refine ⟨Nat.le_trans before examined.above, Nat.lt_of_lt_of_le examined.below clean.access, leader,
    read, fun same => ?_⟩
  obtain ⟨tids, nonempty, listed, inside, each⟩ := rest same
  refine ⟨tids, nonempty, listed, Nat.lt_of_lt_of_le inside clean.access, fun tid member => ?_⟩
  obtain ⟨ticks, recorded, seen⟩ := each tid member
  exact ⟨ticks, clean.kept _ recorded, seen.widen (Nat.le_refl _) clean.access⟩

theorem read_entries_clean (pids : List Nat) (progress : Progress)
    (quiet : (readEntries observation pgid pids progress).alive = false)
    (sure : (readEntries observation pgid pids progress).uncertain = false) :
    Clean observation pgid progress (readEntries observation pgid pids progress) ∧
      EntriesRead observation pgid pids progress.access (readEntries observation pgid pids progress).access ∧
      ∀ pid ∈ pids, ∃ access,
        Examined observation pgid progress.access (readEntries observation pgid pids progress) pid access := by
  induction pids generalizing progress with
  | nil =>
      exact ⟨⟨Nat.le_refl _, sure, fun _ listed => listed, fun _ listed => .inl listed⟩, rfl,
        fun _ member => by cases member⟩
  | cons pid rest ih =>
      rw [readEntries] at quiet sure ⊢
      cases read : observation.stat progress.access pid pid with
      | none =>
          rw [read] at quiet sure
          exact absurd (ih _ quiet sure).1.sure (by simp [Progress.unsure])
      | some leader =>
          simp only [read] at quiet sure ⊢
          by_cases group : leader.processGroup ≠ pgid
          · rw [if_pos group] at quiet sure ⊢
            obtain ⟨clean, reads, others⟩ := ih _ quiet sure
            have first := clean_advance observation pgid progress clean.sure
            have chained : EntriesRead observation pgid (pid :: rest) progress.access
                (readEntries observation pgid rest progress.advance).access := by
              refine ⟨leader, read, ?_⟩
              rw [if_pos group]
              exact reads
            refine ⟨first.trans clean, chained, fun other member => ?_⟩
            rcases List.mem_cons.mp member with rfl | later
            · exact ⟨progress.access, Nat.le_refl _, clean.access, leader, read, fun same => absurd same group⟩
            · obtain ⟨access, examined⟩ := others other later
              exact ⟨access, Nat.le_trans first.access examined.above, examined.below, examined.read⟩
          · rw [if_neg group] at quiet sure ⊢
            cases tasks : observation.tasks progress.advance.access pid with
            | none =>
                rw [tasks] at quiet sure
                exact absurd (ih _ quiet sure).1.sure (by simp [Progress.unsure])
            | some tids =>
                cases tids with
                | nil =>
                    rw [tasks] at quiet sure
                    exact absurd (ih _ quiet sure).1.sure (by simp [Progress.unsure])
                | cons tid tids =>
                    simp only [tasks] at quiet sure ⊢
                    by_cases running :
                        (readTasks observation pgid pid (tid :: tids) progress.advance.advance).alive = true
                    · rw [if_pos running] at quiet
                      exact absurd (quiet.symm.trans running) (by simp)
                    · rw [if_neg running] at quiet sure ⊢
                      obtain ⟨clean, reads, others⟩ := ih _ quiet sure
                      obtain ⟨inner, taken, each⟩ := read_tasks_clean observation pgid pid (tid :: tids)
                        progress.advance.advance
                        (Bool.eq_false_iff.mpr running) clean.sure
                      have outer : Clean observation pgid progress
                          (readTasks observation pgid pid (tid :: tids) progress.advance.advance) :=
                        ((clean_advance observation pgid progress inner.sure).trans
                          (clean_advance observation pgid progress.advance inner.sure)).trans inner
                      have reached : progress.access + 2 ≤
                          (readTasks observation pgid pid (tid :: tids) progress.advance.advance).access := inner.access
                      have chained : EntriesRead observation pgid (pid :: rest) progress.access
                        (readEntries observation pgid rest
                          (readTasks observation pgid pid (tid :: tids) progress.advance.advance)).access := by
                        refine ⟨leader, read, ?_⟩
                        rw [if_neg group]
                        exact ⟨tid :: tids, _, List.cons_ne_nil tid tids, tasks, taken, reads⟩
                      refine ⟨outer.trans clean, chained, fun other member => ?_⟩
                      rcases List.mem_cons.mp member with rfl | later
                      · refine ⟨progress.access, Examined.later ⟨Nat.le_refl _, by omega, leader, read, fun _ =>
                          ⟨tid :: tids, by simp, tasks, by omega, each⟩⟩ (Nat.le_refl _) clean⟩
                      · obtain ⟨access, examined⟩ := others other later
                        exact ⟨access, Nat.le_trans outer.access examined.above, examined.below, examined.read⟩

structure Quiet (pgid low : Nat) (progress : Progress) (pids : List Nat) : Prop where
  listing : observation.processes low = some pids
  order : low < progress.access
  reads : EntriesRead observation pgid pids (low + 1) progress.access
  examined : ∀ pid ∈ pids, ∃ access, Examined observation pgid (low + 1) progress pid access
  recorded : ∀ member ∈ progress.members, Recorded observation pgid (low + 1) progress.access member

theorem snapshot_gone (pgid low : Nat) (gone : (linuxProcessGroupSnapshot observation pgid low).1 = .gone) :
    ∃ pids, Quiet observation pgid low (linuxProcessGroupSnapshot observation pgid low).2 pids := by
  unfold linuxProcessGroupSnapshot at gone ⊢
  cases listing : observation.processes low with
  | none =>
      rw [listing] at gone
      cases gone
  | some pids =>
      simp only [listing] at gone ⊢
      split at gone
      · cases gone
      · rename_i quiet
        split at gone
        · cases gone
        · rename_i sure
          obtain ⟨clean, reads, each⟩ := read_entries_clean observation pgid pids ⟨low + 1, [], false, false⟩
            (Bool.eq_false_iff.mpr quiet) (Bool.eq_false_iff.mpr sure)
          exact ⟨pids, listing, Nat.lt_of_lt_of_le (Nat.lt_succ_self low) clean.access, reads, each,
            fun member listed =>
            (clean.recorded member listed).resolve_left List.not_mem_nil⟩

structure Confirmed (pgid : Nat) (first second : Progress) : Prop where
  early : ∃ pids, Quiet observation pgid 0 first pids
  late : ∃ pids, Quiet observation pgid first.access second pids
  same : ∀ member, member ∈ first.members ↔ member ∈ second.members

theorem execution_gone (gone : (linuxProcessGroupExecutionState observation pgid).1 = .gone) :
    ∃ second, Confirmed observation pgid (linuxProcessGroupSnapshot observation pgid 0).2 second ∧
      (linuxProcessGroupExecutionState observation pgid).2 = second.access := by
  unfold linuxProcessGroupExecutionState at gone ⊢
  generalize first : linuxProcessGroupSnapshot observation pgid 0 = snapshot at gone ⊢
  obtain ⟨firstState, progress⟩ := snapshot
  simp only at gone ⊢
  by_cases early : firstState = .gone
  · rw [if_neg (not_not.mpr early)] at gone ⊢
    generalize second : linuxProcessGroupSnapshot observation pgid progress.access = again at gone ⊢
    obtain ⟨secondState, final⟩ := again
    simp only at gone ⊢
    by_cases late : secondState = .gone
    · rw [if_neg (not_not.mpr late)] at gone ⊢
      by_cases same : progress.members.toFinset ≠ final.members.toFinset
      · rw [if_pos same] at gone
        cases gone
      · rw [if_neg same]
        have opened := snapshot_gone observation pgid 0 (by rw [first]; exact early)
        have closed := snapshot_gone observation pgid progress.access (by rw [second]; exact late)
        rw [first] at opened
        rw [second] at closed
        refine ⟨final, ⟨opened, closed, fun member => ?_⟩, rfl⟩
        rw [← List.mem_toFinset, ← List.mem_toFinset, not_not.mp same]
    · rw [if_pos late] at gone
      exact absurd gone late
  · rw [if_pos early] at gone
    exact absurd gone early

theorem listed_ended (first second : Progress) (confirmed : Confirmed observation pgid first second)
    (old row : Process) (stored : old ∈ (observation.system first.access).rows)
    (present : row ∈ (observation.system second.access).rows) (pid : old.pid = row.pid) (start : old.start = row.start)
    (group : row.group = pgid) : row.executing = false := by
  obtain ⟨_, opened⟩ := confirmed.early
  obtain ⟨pids, quiet⟩ := confirmed.late
  have between : ∀ access, first.access ≤ access → access ≤ second.access →
      ∃ found ∈ (observation.system access).rows, Continues old found ∧ Continues found row := fun access lower upper =>
    world_between observation _ _ _ (observation.order lower) (observation.order upper) old row stored present pid start
  have listed : row.pid ∈ pids := by
    have listing := quiet.listing
    unfold Observation.processes at listing
    split at listing
    · cases listing
    · rw [← Option.some.inj listing, (observation.arranged _ _).mem_iff, ← pid]
      exact List.mem_map_of_mem stored
  obtain ⟨access, above, below, leader, read, rest⟩ := quiet.examined row.pid listed
  -- the leader is read, and it is the one of this process
  obtain ⟨seen, there, _, toEnd⟩ := between access (by omega) (Nat.le_of_lt below)
  have inside : leader.processGroup = pgid := by
    unfold Observation.stat at read
    split at read
    · cases read
    · rw [toEnd.pid, find_some _ seen there] at read
      simp only [Option.bind_eq_bind, Option.bind_some, if_true, Option.pure_def, Option.some.injEq] at read
      rw [← read, ← group, toEnd.group]
  obtain ⟨tids, _, tasks, reached, each⟩ := rest inside
  obtain ⟨found, kept, _, last⟩ := between (access + 1) (by omega) (Nat.le_of_lt reached)
  have shown : ∀ tid, tid ∈ found.tids → tid ∈ tids := fun tid member => by
    unfold Observation.tasks at tasks
    split at tasks
    · cases tasks
    · rw [last.pid, find_some _ found kept, Option.map_some, Option.some.injEq] at tasks
      rw [← tasks]
      exact ((observation.arranged _ _).mem_iff).mpr member
  refine last.ended ((executing_false found).mpr ⟨?_, ?_⟩)
  · -- the first snapshot had recorded its leader as ended
    obtain ⟨ticks, recorded, again⟩ := each row.pid (shown _ (last.pid ▸ List.mem_cons_self))
    obtain ⟨late, lower, upper, stat, taken, _, _, same⟩ := again
    have ticks' : ticks = row.start := by
      obtain ⟨current, held, _, toRow⟩ := between late (by omega) (Nat.le_of_lt upper)
      unfold Observation.stat at taken
      split at taken
      · cases taken
      · rw [toRow.pid, find_some _ current held] at taken
        simp only [Option.bind_eq_bind, Option.bind_some, if_true, Option.pure_def, Option.some.injEq] at taken
        have read : stat.startTicks = ticks := same
        rw [← read, ← taken]
        exact toRow.start.symm
    obtain ⟨early, _, before, stat, taken, _, ended, ticks''⟩ := opened.recorded _ ((confirmed.same _).mpr recorded)
    unfold Observation.stat at taken
    split at taken
    · cases taken
    · cases located : (observation.system early).find row.pid with
      | none => simp [located] at taken
      | some former =>
          simp only [located, Option.bind_eq_bind, Option.bind_some, if_true, Option.pure_def,
            Option.some.injEq] at taken
          unfold System.find at located
          have formerPid : former.pid = row.pid := by simpa using List.find?_some located
          have formerStart : former.start = row.start := by
            rw [← taken] at ticks''
            exact ticks''.trans ticks'
          obtain ⟨_, held, continues, _⟩ := world_between observation _ _ _
            (observation.order (Nat.le_of_lt (Nat.lt_of_lt_of_le
            before (Nat.le_trans (by omega) (Nat.le_succ access)))))
            (observation.order (Nat.le_of_lt reached)) former row
            (List.mem_of_find?_eq_some located) present formerPid formerStart
          have match_ := row_unique _ _ found held kept (continues.pid.trans (formerPid.trans last.pid))
          rw [← taken] at ended
          exact match_ ▸ continues.exited ended
  · -- another thread would have been read alive, or not at all
    cases threads : found.threads with
    | nil => rfl
    | cons thread others =>
        exfalso
        have member : thread.tid ∈ found.tids := by simp [Process.tids, threads]
        have other : thread.tid ≠ row.pid := by
          have apart := (observation.system (access + 1)).separate found kept
          rw [Process.tids, threads, List.map_cons, List.nodup_cons, List.mem_cons, not_or] at apart
          rw [last.pid]
          exact Ne.symm apart.1.1
        obtain ⟨ticks, _, late, lower, upper, stat, taken, _, ended, _⟩ := each thread.tid (shown _ member)
        obtain ⟨current, held, _, toRow⟩ := between late (by omega) (Nat.le_of_lt upper)
        unfold Observation.stat at taken
        split at taken
        · cases taken
        · rw [toRow.pid, find_some _ current held] at taken
          simp only [Option.bind_eq_bind, Option.bind_some] at taken
          cases located : current.threads.find? fun thread' => decide (thread'.tid = thread.tid) with
          | none => simp [located] at taken
          | some alive =>
              simp only [located, Option.bind_some, Option.pure_def, Option.some.injEq] at taken
              rw [← taken] at ended
              exact alive.executing ended

def Born (earlier : System) (row : Process) : Prop := ∀ old ∈ earlier.rows, old.pid = row.pid → old.start ≠ row.start

def Forks (pgid : Nat) (before after : System) : Prop := ∃ row ∈ after.rows, row.group = pgid ∧ Born before row

def Executes (system : System) (pgid : Nat) : Prop := ∃ row ∈ system.rows, row.group = pgid ∧ row.executing = true

def returned (pgid : Nat) : System := observation.system (linuxProcessGroupExecutionState observation pgid).2

theorem unforked_listed (pgid early late : Nat) (order : early ≤ late)
    (unforked : ∀ moment, early ≤ moment → moment < late →
      ¬ Forks pgid (observation.world moment) (observation.world (moment + 1)))
    (row : Process) (present : row ∈ (observation.world late).rows) (group : row.group = pgid) :
    ¬ Born (observation.world early) row := by
  induction late, order using Nat.le_induction generalizing row with
  | base => exact fun born => born row present rfl rfl
  | succ late order ih =>
      rcases step_back _ _ (observation.steps late) row present with ⟨old, stored, continues⟩ | fresh
      · have earlier := ih (fun moment above below => unforked moment above (Nat.lt_succ_of_lt below)) old stored
          (continues.group.symm.trans group)
        exact fun born => earlier fun first listed pid start =>
          born first listed (pid.trans continues.pid.symm) (start.trans continues.start.symm)
      · refine absurd ⟨row, present, group, fun old stored pid start => fresh ?_⟩
          (unforked late order (Nat.lt_succ_self late))
        have same : row.leader = old.leader := by simp only [Process.leader, pid, start]
        exact same ▸ leader_known _ old stored

theorem listed_quiet (gone : (linuxProcessGroupExecutionState observation pgid).1 = .gone) (row : Process)
    (present : row ∈ (returned observation pgid).rows) (group : row.group = pgid)
    (listed : ¬ Born (observation.system (secondListing observation pgid)) row) : row.executing = false := by
  obtain ⟨second, confirmed, access⟩ := execution_gone observation pgid gone
  simp only [Born, not_forall, not_not] at listed
  obtain ⟨old, stored, pid, start⟩ := listed
  rw [returned, access] at present
  exact listed_ended observation pgid _ second confirmed old row stored present pid start group

theorem group_gone_iff (pgid : Nat) :
    ((linuxProcessGroupExecutionState observation pgid).1 = .gone →
      (¬ Executes (returned observation pgid) pgid ↔ ∀ row ∈ (returned observation pgid).rows, row.group = pgid →
        Born (observation.system (secondListing observation pgid)) row → row.executing = false)) ∧
    ((∀ moment, observation.moments (secondListing observation pgid) ≤ moment →
        moment < observation.moments (linuxProcessGroupExecutionState observation pgid).2 →
          ¬ Forks pgid (observation.world moment) (observation.world (moment + 1))) →
      (linuxProcessGroupExecutionState observation pgid).1 = .gone → ¬ Executes (returned observation pgid) pgid) ∧
    ((linuxProcessGroupExecutionState observation pgid).1 = .gone →
      ∃ second, Confirmed observation pgid (linuxProcessGroupSnapshot observation pgid 0).2 second ∧
        (linuxProcessGroupExecutionState observation pgid).2 = second.access) := by
  refine ⟨fun gone => ⟨fun quiet row present group _ => ?_, fun late => ?_⟩, fun unforked gone => ?_,
    execution_gone observation pgid⟩
  · by_contra running
    exact quiet ⟨row, present, group, Bool.eq_true_of_not_eq_false running⟩
  · rintro ⟨row, present, group, running⟩
    by_cases born : Born (observation.system (secondListing observation pgid)) row
    · exact absurd ((late row present group born).symm.trans running) (by simp)
    · exact absurd ((listed_quiet observation pgid gone row present group born).symm.trans running) (by simp)
  · rintro ⟨row, present, group, running⟩
    obtain ⟨second, confirmed, access⟩ := execution_gone observation pgid gone
    have order : secondListing observation pgid ≤ (linuxProcessGroupExecutionState observation pgid).2 := by
      obtain ⟨_, quiet⟩ := confirmed.late
      rw [access]
      exact Nat.le_of_lt quiet.order
    have listed := unforked_listed observation pgid _ _ (observation.order order) unforked row present group
    exact absurd ((listed_quiet observation pgid gone row present group listed).symm.trans running) (by simp)

end Observed

def worker : Process := ⟨101, 77, 5, 'R', []⟩

def helper : Thread := ⟨102, 6, 'R', by decide⟩

def offspring : Process := ⟨103, 77, 7, 'R', []⟩

def started : System := ⟨[worker], [worker.leader], by decide, by decide, by decide⟩

def spawned : System :=
  ⟨[{ worker with threads := [helper] }], [(101, 102, 6), worker.leader], by decide, by decide, by decide⟩

def headless : System :=
  ⟨[{ worker with state := 'Z', threads := [helper] }], [(101, 102, 6), worker.leader], by decide, by decide, by decide⟩

def forked : System :=
  ⟨[{ worker with state := 'Z', threads := [helper] }, offspring], [offspring.leader, (101, 102, 6), worker.leader],
    by decide, by decide, by decide⟩

def orphaned : System :=
  ⟨[{ worker with state := 'Z' }, offspring], [offspring.leader, (101, 102, 6), worker.leader],
    by decide, by decide, by decide⟩

def hiddenWorld : Nat → System
  | 0 => started
  | 1 => spawned
  | 2 => headless
  | 3 => forked
  | _ => orphaned

-- After its threads are listed, the leader starts a thread and exits; once the
-- table is listed again, the thread forks and exits before its process is read.
def hidden : Observation where
  world := hiddenWorld
  steps := fun moment => match moment with
    | 0 => .change worker { worker with threads := [helper] } _ (by decide) (.spawn helper (by decide)) (by decide) rfl rfl
    | 1 => .change { worker with threads := [helper] } { worker with state := 'Z', threads := [helper] } [] (by decide)
        (.exit 'Z' (by decide) (by decide)) (by decide) rfl rfl
    | 2 => .fork { worker with state := 'Z', threads := [helper] } offspring (by decide) (by decide) rfl (by decide) rfl
        (by decide) rfl rfl
    | 3 => .change { worker with state := 'Z', threads := [helper] } { worker with state := 'Z' } [] (by decide)
        (.exitThread helper (by decide)) (by decide) rfl rfl
    | _ + 4 => .idle rfl
  moments := fun access => if access < 3 then 0 else if access < 5 then 2 else 4
  order := by
    intro first second before
    dsimp only
    split_ifs <;> omega
  denied := fun _ => false
  arrange := fun _ names => names
  arranged := fun _ names => List.Perm.refl names

theorem hidden_fork_reported_gone :
    (linuxProcessGroupExecutionState hidden 77).1 = .gone ∧ Executes (returned hidden 77) 77 := by
  have result : linuxProcessGroupExecutionState hidden 77 = (.gone, 8) := by decide +kernel
  refine ⟨by rw [result], offspring, ?_, rfl, rfl⟩
  rw [returned, result]
  decide

end OrchestratorEngine.WorkerLease.ProcessGroups
