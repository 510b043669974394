import Mathlib
import OrchestratorEngine.ResourceQueue.Conservation
import OrchestratorEngine.ResourceQueue.Durations

set_option autoImplicit false

namespace OrchestratorEngine.ResourceQueue

open Foundation

structure Begun (host : Host) (low high : Nat) (row : Stage) : Prop where
  waiting : row.state = .waiting
  seconds : row.waitSeconds = Dict.empty
  moment : ∃ draw, low ≤ draw ∧ draw < high ∧ row.transitionAt = some (host.clock draw)

theorem Begun.widen {host : Host} {low high lower higher : Nat} {row : Stage} (begun : Begun host low high row)
    (before : lower ≤ low) (after : high ≤ higher) : Begun host lower higher row := by
  obtain ⟨draw, above, below, moved⟩ := begun.moment
  exact ⟨begun.waiting, begun.seconds, draw, Nat.le_trans before above, Nat.lt_of_lt_of_le below after, moved⟩

variable (host : Host)

theorem insert_stage_begun (project : Name) (request : Id) (ledger : Ledger) (definition : Definition)
    (numbered : Numbered host ledger) (row : Stage)
    (present : row ∈ (Ledger.insertStage host project request ledger definition).stages) :
    row ∈ ledger.stages ∨
      Begun host ledger.draws (Ledger.insertStage host project request ledger definition).draws row := by
  have absent : row? Stage.id (host.uuid ledger.draws) ledger.stages = none := by
    cases found : row? Stage.id (host.uuid ledger.draws) ledger.stages with
    | none => rfl
    | some old =>
        obtain ⟨listed, same⟩ := row_mem Stage.id _ ledger.stages old found
        obtain ⟨draw, early, drawn⟩ := numbered.drawn old listed
        have clash := host.distinct (drawn.symm.trans same)
        omega
  unfold Ledger.insertStage Ledger.save at present ⊢
  simp only [Ledger.newId, Ledger.nextSequence, Ledger.now, absent] at present ⊢
  rcases (mem_put _ _ _ _).mp present with rfl | ⟨kept, _⟩
  · exact .inr ⟨rfl, rfl, ledger.draws + 2, by omega, by omega, rfl⟩
  · exact .inl kept

theorem insert_stages_begun (project : Name) (request : Id) (definitions : List Definition)
    (ledger : Ledger) (numbered : Numbered host ledger) (row : Stage)
    (present : row ∈ (definitions.foldl (Ledger.insertStage host project request) ledger).stages) :
    row ∈ ledger.stages ∨ Begun host ledger.draws
      (definitions.foldl (Ledger.insertStage host project request) ledger).draws row := by
  induction definitions generalizing ledger with
  | nil => exact .inl present
  | cons definition rest ih =>
      rw [List.foldl_cons] at present ⊢
      obtain ⟨_, grows, _, next⟩ := insert_stage_grows host project request ledger definition numbered
      obtain ⟨_, more, _, _⟩ := insert_stages_grows host project request rest _ next
      rcases ih _ next present with earlier | begun
      · rcases insert_stage_begun host project request ledger definition numbered row earlier with old | begun
        · exact .inl old
        · exact .inr (begun.widen (Nat.le_refl _) more.draws)
      · exact .inr (begun.widen grows.draws (Nat.le_refl _))

theorem insert_request_begun (project external : Name) (plan : Plan) (subscriber : Option Subscriber)
    (ledger : Ledger) (numbered : Numbered host ledger) (row : Stage)
    (present : row ∈ (ledger.insertRequest host project external plan subscriber).1.stages) :
    row ∈ ledger.stages ∨
      Begun host ledger.draws (ledger.insertRequest host project external plan subscriber).1.draws row := by
  unfold Ledger.insertRequest at present ⊢
  simp only [Ledger.newId, Ledger.now] at present ⊢
  generalize start : ({ ledger with
    requests := ledger.requests ++
      [⟨host.uuid ledger.draws, project, external, plan, subscriber.toList, host.clock (ledger.draws + 1)⟩]
    history := ledger.history ++
      subscriber.toList.map (fun subscriber => ⟨host.uuid ledger.draws, subscriber.id, 1, subscriber, true⟩)
    draws := ledger.draws + 1 + 1 } : Ledger) = opened at present ⊢
  have ready : Numbered host opened := by
    subst start
    refine ⟨numbered.ids, fun stage listed => ?_, numbered.order, numbered.bound⟩
    obtain ⟨draw, early, drawn⟩ := numbered.drawn stage listed
    exact ⟨draw, Nat.lt_of_lt_of_le early (Nat.le_add_right _ 2), drawn⟩
  rcases insert_stages_begun host project (host.uuid ledger.draws) plan.stages opened ready row present with old | begun
  · subst start
    exact .inl old
  · refine .inr (begun.widen ?_ (Nat.le_refl _))
    rw [← start]
    exact Nat.le_add_right _ 2

theorem perform_begun (before after : Ledger) (call : Call) (answer : Answer)
    (consistent : Consistent host before) (done : perform host before call = .ok (after, answer)) (row : Stage)
    (present : row ∈ after.stages) : row.id ∈ stageIds before ∨ Begun host before.draws after.draws row := by
  have performed := perform_performed host before after call answer consistent done
  have kept : row ∈ before.stages → row.id ∈ stageIds before := fun listed => List.mem_map_of_mem listed
  cases performed with
  | submitted project external plan subscriber _ id submits =>
      obtain ⟨⟨next, id⟩, submitted, rest⟩ := (bind_ok_iff _ _ _).mp done
      cases rest
      simp only [Ledger.submit, bind_ok_iff, refuse_ok_iff, exists_const, not_not] at submitted
      obtain ⟨_, _, _, _, _, _, _, _, _, _, _, _, rest⟩ := submitted
      split at rest
      · simp only [bind_ok_iff, refuse_ok_iff, exists_const, not_not, pure_ok, Except.ok.injEq] at rest
        obtain ⟨_, result⟩ := rest
        cases result
        exact .inl (kept present)
      · obtain ⟨_, _, rest⟩ := (bind_ok_iff _ _ _).mp rest
        cases rest
        exact (insert_request_begun host project external plan subscriber before consistent.toNumbered
          row present).imp_left
          kept
  | configured raw registry _ _ configures =>
      rw [configures.result] at present
      exact .inl (kept present)
  | scheduled unavailable _ _ _ _ scheduled => exact .inl (scheduled.advances.ids ▸ List.mem_map_of_mem present)
  | subscribed _ _ _ _ _ resubscribes =>
      rw [resubscribes.stages] at present
      exact .inl (kept present)
  | moved _ _ _ _ _ moves =>
      obtain ⟨old, stored, move⟩ := forall₂_mem_right _ _ _ moves row present
      have same : row.id = old.id := fixed_id _ _ move.1
      exact .inl (same ▸ List.mem_map_of_mem stored)

-- What a client of the store sees over a whole run: the ledger before the first
-- call and after each one.
def history (host : Host) (calls : List Call) : List Ledger := calls.scanl (commit host) Ledger.create

def savedRows (ledgers : List Ledger) (id : Id) : List Stage :=
  ledgers.filterMap fun ledger => row? Stage.id id ledger.stages

-- A stage is first saved with the transition that its first row records, and it
-- leaves waiting with the transition that its first later row records.
def firstSaved (ledgers : List Ledger) (id : Id) : Option Time :=
  (savedRows ledgers id).head?.bind Stage.transitionAt

def leftWaiting (ledgers : List Ledger) (id : Id) : Option Time :=
  ((savedRows ledgers id).find? fun row => decide (row.state ≠ .waiting)).bind Stage.transitionAt

theorem history_snoc (calls : List Call) (call : Call) :
    history host (calls ++ [call]) = history host calls ++ [run host (calls ++ [call])] := by
  rw [history, history, List.scanl_append, run_append]
  simp [run]

theorem saved_rows_snoc (ledgers : List Ledger) (ledger : Ledger) (row : Stage) (unique : (stageIds ledger).Nodup)
    (present : row ∈ ledger.stages) : savedRows (ledgers ++ [ledger]) row.id = savedRows ledgers row.id ++ [row] := by
  have found : row? Stage.id row.id ledger.stages = some row := row_of_mem Stage.id ledger.stages unique row present
  simp [savedRows, found]

structure Timed (host : Host) (rows : List Stage) (draws begun ended : Nat) (stage : Stage) : Prop where
  order : begun ≤ ended
  drawn : ended < draws
  first : rows.head?.bind Stage.transitionAt = some (host.clock begun)
  total : waited stage.waitSeconds = some (host.clock ended - host.clock begun)
  waits : stage.state = .waiting → stage.transitionAt = some (host.clock ended) ∧
    rows.find? (fun row => decide (row.state ≠ .waiting)) = none
  left : stage.state ≠ .waiting → ∃ row, rows.find? (fun row => decide (row.state ≠ .waiting)) = some row ∧
    row.transitionAt = some (host.clock ended)

theorem head_snoc (rows : List Stage) (row : Stage) (moment : Time)
    (first : rows.head?.bind Stage.transitionAt = some moment) :
    (rows ++ [row]).head?.bind Stage.transitionAt = some moment := by
  cases rows with
  | nil => cases first
  | cons head tail => exact first

theorem Timed.step {host : Host} (steady : Monotone host.clock) {rows : List Stage} {low high begun ended : Nat}
    {old new : Stage} (timed : Timed host rows low begun ended old)
    (elapses : Elapses host low high old.account new.account) :
    ∃ later, Timed host (rows ++ [new]) high begun later new := by
  have head := head_snoc rows new _ timed.first
  -- a stage that has left waiting keeps the sum and the first row that shows it
  have shut : old.state ≠ .waiting → new.state ≠ .waiting → new.waitSeconds = old.waitSeconds → low ≤ high →
      Timed host (rows ++ [new]) high begun ended new := fun gone away seconds order => by
    obtain ⟨row, found, moved⟩ := timed.left gone
    refine ⟨timed.order, Nat.lt_of_lt_of_le timed.drawn order, head, seconds ▸ timed.total, fun waiting =>
      absurd waiting away,
      fun _ => ⟨row, ?_, moved⟩⟩
    rw [List.find?_append, found, Option.some_or]
  cases elapses with
  | settled order gone away seconds => exact ⟨ended, shut gone away seconds order⟩
  | accrued accrues =>
      by_cases gone : old.state ≠ .waiting
      · have same := accrues.closed gone
        have state : new.state = old.state := congrArg Account.state same
        exact ⟨ended, shut gone (state ▸ gone) (congrArg Account.seconds same) accrues.order⟩
      · have waiting := not_not.mp gone
        obtain ⟨moved, unseen⟩ := timed.waits waiting
        rcases accrues.charged waiting with same | ⟨draw, above, below, moment, sum⟩
        · have state : new.state = old.state := congrArg Account.state same
          have transition : new.transitionAt = old.transitionAt := congrArg Account.transition same
          have seconds : new.waitSeconds = old.waitSeconds := congrArg Account.seconds same
          refine ⟨ended, timed.order, Nat.lt_of_lt_of_le timed.drawn accrues.order, head, seconds ▸ timed.total,
            fun _ => ⟨transition.trans moved, ?_⟩, fun away => absurd (state.trans waiting) away⟩
          rw [List.find?_append, unseen, Option.none_or]
          simp [state, waiting]
        · have total := sum _ _ timed.total moved (steady (Nat.le_of_lt timed.drawn))
          refine ⟨draw, Nat.le_trans timed.order (Nat.le_trans (Nat.le_of_lt timed.drawn) above), below, head, ?_,
            fun still => ⟨moment, ?_⟩, fun away => ⟨new, ?_, moment⟩⟩
          · refine total.trans ?_
            congr 1
            grind
          · rw [List.find?_append, unseen, Option.none_or]
            simp [still]
          · rw [List.find?_append, unseen, Option.none_or]
            simp [away]

theorem Begun.timed {host : Host} {low high : Nat} {row : Stage} (begun : Begun host low high row) :
    ∃ draw, Timed host [row] high draw draw row := by
  obtain ⟨draw, _, below, moved⟩ := begun.moment
  refine ⟨draw, Nat.le_refl _, below, moved, ?_, fun _ => ⟨moved, ?_⟩, fun away => absurd begun.waiting away⟩
  · rw [begun.seconds, Int.sub_self]
    rfl
  · simp [begun.waiting]

theorem commit_elapse (steady : Monotone host.clock) (ledger : Ledger) (call : Call)
    (consistent : Consistent host ledger) : Elapse host ledger (commit host ledger call) ∧
      ∀ row ∈ (commit host ledger call).stages,
        row.id ∈ stageIds ledger ∨ Begun host ledger.draws (commit host ledger call).draws row := by
  rcases commit_cases host ledger call consistent with same | ⟨answer, done, _⟩
  · rw [same]
    exact ⟨(Accrue.of_same host ledger ledger (Nat.le_refl _) fun _ stored => stored).elapse,
      fun row present => .inl (List.mem_map_of_mem present)⟩
  · exact ⟨perform_elapse host steady ledger _ call answer consistent done,
      perform_begun host ledger _ call answer consistent done⟩

structure Chronicle (host : Host) (calls : List Call) : Prop where
  timed : ∀ stage ∈ (run host calls).stages, ∃ begun ended,
    Timed host (savedRows (history host calls) stage.id) (run host calls).draws begun ended stage
  seen : ∀ ledger ∈ history host calls, ∀ row ∈ ledger.stages, row.id ∈ stageIds (run host calls)

theorem unseen_rows (calls : List Call) (chronicle : Chronicle host calls) (id : Id)
    (absent : id ∉ stageIds (run host calls)) : savedRows (history host calls) id = [] := by
  refine List.filterMap_eq_nil_iff.mpr fun ledger listed => ?_
  cases found : row? Stage.id id ledger.stages with
  | none => rfl
  | some row =>
      obtain ⟨stored, same⟩ := row_mem Stage.id id ledger.stages row found
      exact absurd (same ▸ chronicle.seen ledger listed row stored) absent

theorem chronicle_step (steady : Monotone host.clock) (calls : List Call) (call : Call)
    (chronicle : Chronicle host calls) : Chronicle host (calls ++ [call]) := by
  have consistent := run_consistent host calls
  have next := run_consistent host (calls ++ [call])
  have result : run host (calls ++ [call]) = commit host (run host calls) call := run_append host calls [call]
  obtain ⟨elapse, origin⟩ := commit_elapse host steady (run host calls) call consistent
  rw [← result] at elapse origin
  have persists : ∀ id ∈ stageIds (run host calls), id ∈ stageIds (run host (calls ++ [call])) := by
    intro id listed
    obtain ⟨old, stored, rfl⟩ := List.mem_map.mp listed
    obtain ⟨new, present, same, _⟩ := elapse old stored
    exact same ▸ List.mem_map_of_mem present
  refine ⟨fun stage present => ?_, fun ledger listed row stored => ?_⟩
  · rw [history_snoc, saved_rows_snoc _ _ stage next.ids present]
    by_cases known : stage.id ∈ stageIds (run host calls)
    · obtain ⟨old, stored, key⟩ := List.mem_map.mp known
      obtain ⟨new, present', same, elapses⟩ := elapse old stored
      have match_ : new = stage := row_unique Stage.id _ next.ids new stage present' present (same.trans key)
      subst match_
      obtain ⟨begun, ended, timed⟩ := chronicle.timed old stored
      obtain ⟨later, timed⟩ := timed.step steady elapses
      exact ⟨begun, later, same.symm ▸ timed⟩
    · obtain ⟨draw, timed⟩ := ((origin stage present).resolve_left known).timed
      rw [unseen_rows host calls chronicle stage.id known]
      exact ⟨draw, draw, timed⟩
  · rw [history_snoc] at listed
    rcases List.mem_append.mp listed with earlier | last
    · exact persists row.id (chronicle.seen ledger earlier row stored)
    · rw [List.mem_singleton.mp last] at stored
      exact List.mem_map_of_mem stored

theorem run_chronicle (steady : Monotone host.clock) (calls : List Call) : Chronicle host calls := by
  induction calls using List.reverseRecOn with
  | nil => exact ⟨fun stage present => absurd present List.not_mem_nil, fun ledger listed row stored => by
      rw [List.mem_singleton.mp listed] at stored
      exact absurd stored List.not_mem_nil⟩
  | append_singleton calls call ih => exact chronicle_step host steady calls call ih

theorem run_settled (steady : Monotone host.clock) (calls late : List Call) (stage : Stage)
    (listed : stage ∈ (run host calls).stages) (gone : stage.state ≠ .waiting) :
    ∃ row ∈ (run host (calls ++ late)).stages, row.id = stage.id ∧ row.state ≠ .waiting ∧
      row.waitSeconds = stage.waitSeconds := by
  induction late using List.reverseRecOn with
  | nil => exact ⟨stage, by rwa [List.append_nil], rfl, gone, rfl⟩
  | append_singleton late call ih =>
      obtain ⟨row, stored, key, away, seconds⟩ := ih
      obtain ⟨elapse, _⟩ := commit_elapse host steady (run host (calls ++ late)) call (run_consistent host _)
      rw [← List.append_assoc, run_append host (calls ++ late) [call]]
      obtain ⟨new, present, same, elapses⟩ := elapse row stored
      refine ⟨new, present, same.trans key, ?_⟩
      cases elapses with
      | settled _ _ away' seconds' => exact ⟨away', seconds'.trans seconds⟩
      | accrued accrues =>
          have kept := accrues.closed away
          have state : new.state = row.state := congrArg Account.state kept
          exact ⟨state ▸ away, (congrArg Account.seconds kept).trans seconds⟩

theorem wait_seconds_conserve_time (host : Host) (steady : Monotone host.clock) (calls : List Call) (stage : Stage)
    (listed : stage ∈ (run host calls).stages) :
    (∃ begun ended, begun ≤ ended ∧
      firstSaved (history host calls) stage.id = some (host.clock begun) ∧
      (if stage.state = .waiting then stage.transitionAt else leftWaiting (history host calls) stage.id) =
        some (host.clock ended) ∧
      waited stage.waitSeconds = some (host.clock ended - host.clock begun)) ∧
    (stage.state ≠ .waiting → ∀ late, ∃ row ∈ (run host (calls ++ late)).stages, row.id = stage.id ∧
      row.waitSeconds = stage.waitSeconds) := by
  obtain ⟨begun, ended, timed⟩ := (run_chronicle host steady calls).timed stage listed
  refine ⟨⟨begun, ended, timed.order, timed.first, ?_, timed.total⟩, fun gone late => ?_⟩
  · split
    · exact (timed.waits ‹_›).1
    · obtain ⟨row, found, moved⟩ := timed.left ‹_›
      rw [leftWaiting, found]
      exact moved
  · obtain ⟨row, present, key, _, seconds⟩ := run_settled host steady calls late stage listed gone
    exact ⟨row, present, key, seconds⟩

def unhosted : List Call := contended ++ [.schedule ["lab"], .schedule []]

theorem unhosted_conserve_time :
    ∃ stage ∈ (run countingHost unhosted).stages, stage.state = .granted ∧ stage.waitSeconds.keys.length = 2 ∧
      ∃ begun ended, firstSaved (history countingHost unhosted) stage.id = some (countingHost.clock begun) ∧
        leftWaiting (history countingHost unhosted) stage.id = some (countingHost.clock ended) ∧
        waited stage.waitSeconds = some (countingHost.clock ended - countingHost.clock begun) := by
  have steady : Monotone countingHost.clock := fun _ _ before => Int.ofNat_le.mpr before
  have granted : ((run countingHost unhosted).stages.any fun stage =>
      decide (stage.state = .granted) && decide (stage.waitSeconds.keys.length = 2)) = true := by decide +kernel
  obtain ⟨stage, listed, both⟩ := List.any_eq_true.mp granted
  rw [Bool.and_eq_true, decide_eq_true_eq, decide_eq_true_eq] at both
  obtain ⟨⟨begun, ended, _, first, left, total⟩, _⟩ := wait_seconds_conserve_time countingHost steady
    unhosted stage listed
  rw [if_neg (by simp [both.1])] at left
  exact ⟨stage, listed, both.1, both.2, begun, ended, first, left, total⟩

end OrchestratorEngine.ResourceQueue
