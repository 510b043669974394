import OrchestratorEngine.ResourceQueue.Moves

set_option autoImplicit false

namespace OrchestratorEngine.ResourceQueue

open Foundation

-- Every stage has an identifier of its own, drawn before, and the rows stand in
-- the order of their sequence numbers.
structure Numbered (host : Host) (ledger : Ledger) : Prop where
  ids : (stageIds ledger).Nodup
  drawn : ∀ stage ∈ ledger.stages, ∃ draw, draw < ledger.draws ∧ stage.id = host.uuid draw
  order : (ledger.stages.map Stage.seq).Pairwise (· < ·)
  bound : ∀ stage ∈ ledger.stages, stage.seq ≤ ledger.sequence

structure Fresh (host : Host) (before after : Ledger) (project : Name) (request : Id) (definition : Definition)
    (row : Stage) : Prop where
  name : row.name = definition.id
  request : row.request = request
  project : row.project = project
  needs : row.needs = definition.needs.getD []
  follows : row.after = definition.after.getD []
  core : row.core = ⟨.waiting, 0, Dict.empty, none, none, definition.outcome, false, none⟩
  drawn : ∃ draw, before.draws ≤ draw ∧ draw < after.draws ∧ row.id = host.uuid draw

structure Grows (before after : Ledger) (fresh : List Stage) : Prop where
  stages : after.stages = before.stages ++ fresh
  registry : after.registry = before.registry
  requests : after.requests = before.requests
  history : after.history = before.history
  outbox : after.outbox = before.outbox
  released : after.released = before.released
  draws : before.draws ≤ after.draws
  sequence : before.sequence ≤ after.sequence

variable (host : Host)

theorem insert_stage_grows (project : Name) (request : Id) (ledger : Ledger) (definition : Definition)
    (numbered : Numbered host ledger) :
    ∃ row, Grows ledger (Ledger.insertStage host project request ledger definition) [row] ∧
      Fresh host ledger (Ledger.insertStage host project request ledger definition) project request definition row ∧
      Numbered host (Ledger.insertStage host project request ledger definition) := by
  have absent : host.uuid ledger.draws ∉ ledger.stages.map Stage.id := by
    intro listed
    obtain ⟨stage, member, same⟩ := List.mem_map.mp listed
    obtain ⟨draw, early, drawn⟩ := numbered.drawn stage member
    have clash := host.distinct (drawn.symm.trans same)
    omega
  have none_ : row? Stage.id (host.uuid ledger.draws) ledger.stages = none := by
    cases found : row? Stage.id (host.uuid ledger.draws) ledger.stages with
    | none => rfl
    | some row =>
        obtain ⟨member, same⟩ := row_mem Stage.id _ ledger.stages row found
        exact absurd (List.mem_map.mpr ⟨row, member, same⟩) absent
  let row : Stage := {
    toRecord := definition.toRecord
    id := host.uuid ledger.draws
    name := definition.id
    request := request
    project := project
    needs := definition.needs.getD []
    after := definition.after.getD []
    commands := definition.commands
    state := .waiting
    seq := ledger.sequence + 1
    reason := some .dependencyWait
    createdAt := host.clock (ledger.draws + 1)
    epoch := 0
    allocation := Dict.empty
    waitSeconds := Dict.empty
    transitionAt := some (host.clock (ledger.draws + 2)) }
  have result : Ledger.insertStage host project request ledger definition =
      { ledger with
        sequence := ledger.sequence + 1
        stages := ledger.stages ++ [row]
        draws := ledger.draws + 3 } := by
    unfold Ledger.insertStage Ledger.save
    simp only [Ledger.newId, Ledger.nextSequence, Ledger.now, none_]
    rw [put_fresh Stage.id _ ledger.stages absent]
  rw [result]
  refine ⟨row, ⟨rfl, rfl, rfl, rfl, rfl, rfl, Nat.le_add_right _ _, Nat.le_succ _⟩,
    ⟨rfl, rfl, rfl, rfl, rfl, rfl, ledger.draws, Nat.le_refl _, by simp, rfl⟩, ?_⟩
  refine ⟨?_, fun stage listed => ?_, ?_, fun stage listed => ?_⟩
  · rw [stageIds, List.map_append]
    refine List.nodup_append.mpr ⟨numbered.ids, List.nodup_singleton _, ?_⟩
    intro id first other last same
    rw [List.map_singleton, List.mem_singleton] at last
    have here : id = host.uuid ledger.draws := same.trans last
    exact absent (here ▸ first)
  · rcases List.mem_append.mp listed with old | new
    · obtain ⟨draw, early, drawn⟩ := numbered.drawn stage old
      exact ⟨draw, Nat.lt_of_lt_of_le early (Nat.le_add_right _ _), drawn⟩
    · rw [List.mem_singleton.mp new]
      exact ⟨ledger.draws, by simp, rfl⟩
  · rw [List.map_append]
    refine List.pairwise_append.mpr ⟨numbered.order, List.pairwise_singleton _ _, fun seq old other new => ?_⟩
    obtain ⟨stage, listed, rfl⟩ := List.mem_map.mp old
    rw [List.map_singleton, List.mem_singleton] at new
    exact new ▸ Nat.lt_succ_of_le (numbered.bound stage listed)
  · rcases List.mem_append.mp listed with old | new
    · exact Nat.le_succ_of_le (numbered.bound stage old)
    · rw [List.mem_singleton.mp new]

theorem Grows.trans {first second third : Ledger} {early late : List Stage} (lower : Grows first second early)
    (upper : Grows second third late) : Grows first third (early ++ late) :=
  ⟨by rw [upper.stages, lower.stages, List.append_assoc], upper.registry.trans lower.registry,
    upper.requests.trans lower.requests, upper.history.trans lower.history, upper.outbox.trans lower.outbox,
    upper.released.trans lower.released, Nat.le_trans lower.draws upper.draws,
    Nat.le_trans lower.sequence upper.sequence⟩

theorem Fresh.widen {host : Host} {first second third fourth : Ledger} {project : Name} {request : Id}
    {definition : Definition} {row : Stage} (fresh : Fresh host second third project request definition row)
    (before : first.draws ≤ second.draws) (after : third.draws ≤ fourth.draws) :
    Fresh host first fourth project request definition row := by
  obtain ⟨draw, low, high, drawn⟩ := fresh.drawn
  exact ⟨fresh.name, fresh.request, fresh.project, fresh.needs, fresh.follows, fresh.core, draw,
    Nat.le_trans before low, Nat.lt_of_lt_of_le high after, drawn⟩

theorem insert_stages_grows (project : Name) (request : Id) (definitions : List Definition)
    (ledger : Ledger) (numbered : Numbered host ledger) :
    ∃ rows, Grows ledger (definitions.foldl (Ledger.insertStage host project request) ledger) rows ∧
      List.Forall₂ (Fresh host ledger (definitions.foldl (Ledger.insertStage host project request) ledger)
      project request)
        definitions rows ∧
      Numbered host (definitions.foldl (Ledger.insertStage host project request) ledger) := by
  induction definitions generalizing ledger with
  | nil =>
      exact ⟨[], ⟨by simp, rfl, rfl, rfl, rfl, rfl, Nat.le_refl _, Nat.le_refl _⟩, .nil, numbered⟩
  | cons definition rest ih =>
      obtain ⟨row, grows, fresh, next⟩ := insert_stage_grows host project request ledger definition numbered
      rw [List.foldl_cons]
      generalize Ledger.insertStage host project request ledger definition = middle at grows fresh next ⊢
      obtain ⟨rows, more, others, final⟩ := ih middle next
      exact ⟨row :: rows, grows.trans more, .cons (fresh.widen (Nat.le_refl _) more.draws)
        (others.imp fun _ _ one => one.widen grows.draws (Nat.le_refl _)), final⟩

structure Inserted (host : Host) (project external : Name) (plan : Plan) (subscriber : Option Subscriber)
    (before after : Ledger) (id : Id) (rows : List Stage) : Prop where
  stages : after.stages = before.stages ++ rows
  rows : List.Forall₂ (Fresh host before after project id) plan.stages rows
  requests : ∃ moment, after.requests = before.requests ++ [⟨id, project, external, plan, subscriber.toList, moment⟩]
  history : after.history = before.history ++
    subscriber.toList.map (fun subscriber => ⟨id, subscriber.id, 1, subscriber, true⟩)
  outbox : after.outbox = before.outbox
  registry : after.registry = before.registry
  released : after.released = before.released
  drawn : id = host.uuid before.draws
  draws : before.draws < after.draws
  sequence : before.sequence ≤ after.sequence
  numbered : Numbered host after

theorem insert_request_ok (project external : Name) (plan : Plan) (subscriber : Option Subscriber)
    (ledger : Ledger) (numbered : Numbered host ledger) :
    ∃ rows, Inserted host project external plan subscriber ledger
      (ledger.insertRequest host project external plan subscriber).1
      (ledger.insertRequest host project external plan subscriber).2 rows := by
  unfold Ledger.insertRequest
  simp only [Ledger.newId, Ledger.now]
  generalize start : ({ ledger with
    requests := ledger.requests ++
      [⟨host.uuid ledger.draws, project, external, plan, subscriber.toList, host.clock (ledger.draws + 1)⟩]
    history := ledger.history ++
      subscriber.toList.map (fun subscriber => ⟨host.uuid ledger.draws, subscriber.id, 1, subscriber, true⟩)
    draws := ledger.draws + 1 + 1 } : Ledger) = opened
  have ready : Numbered host opened := by
    subst start
    refine ⟨numbered.ids, fun stage listed => ?_, numbered.order, numbered.bound⟩
    obtain ⟨draw, early, drawn⟩ := numbered.drawn stage listed
    exact ⟨draw, Nat.lt_of_lt_of_le early (Nat.le_add_right _ 2), drawn⟩
  obtain ⟨rows, grows, fresh, final⟩ :=
    insert_stages_grows host project (host.uuid ledger.draws) plan.stages opened ready
  have later : ledger.draws < opened.draws := by
    subst start
    exact Nat.lt_add_of_pos_right (Nat.succ_pos 1)
  refine ⟨rows, ?_, fresh.imp fun _ _ one => one.widen (Nat.le_of_lt later) (Nat.le_refl _), ?_, ?_, ?_, ?_, ?_, rfl,
    Nat.lt_of_lt_of_le later grows.draws, ?_, final⟩
  · rw [grows.stages, ← start]
  · rw [grows.requests, ← start]
    exact ⟨_, rfl⟩
  · rw [grows.history, ← start]
  · rw [grows.outbox, ← start]
  · rw [grows.registry, ← start]
  · rw [grows.released, ← start]
  · have counted : ledger.sequence ≤ opened.sequence := by rw [← start]
    exact Nat.le_trans counted grows.sequence

theorem find_request_some (ledger : Ledger) (project external : Name) (request : Request)
    (found : ledger.findRequest project external = some request) :
    request ∈ ledger.requests ∧ request.project = project ∧ request.external = external := by
  have passed := List.find?_some found
  exact ⟨List.mem_of_find?_eq_some found, of_decide_eq_true passed⟩

inductive Submits (host : Host) (project external : Name) (plan : Plan) (subscriber : Option Subscriber)
    (before : Ledger) : Ledger → Id → Prop where
  | replayed (request : Request) (found : before.findRequest project external = some request)
      (same : request.plan = plan) : Submits host project external plan subscriber before before request.id
  | inserted (after : Ledger) (id : Id) (rows : List Stage) (absent : before.findRequest project external = none)
      (nonempty : plan.stages ≠ [])
      (names : (plan.stages.map (fun definition => definition.id)).Nodup)
      (checked : ∀ definition ∈ plan.stages, ∃ found, firstAssignment before.registry (definition.needs.getD []) [] []
        (fun _ => 0) [] = .ok (some found))
      (result : Inserted host project external plan subscriber before after id rows) :
      Submits host project external plan subscriber before after id

theorem require_definition_ok (registry : Registry) (names : List Name) (definition : Definition) (done : Unit)
    (checked : Ledger.requireDefinition registry names definition = .ok done) :
    ∃ found, firstAssignment registry (definition.needs.getD []) [] [] (fun _ => 0) [] = .ok (some found) := by
  simp only [Ledger.requireDefinition, bind_ok_iff, refuse_ok_iff, exists_const] at checked
  obtain ⟨_, found, done, some_⟩ := checked
  obtain ⟨first, head⟩ := Option.ne_none_iff_exists'.mp some_
  exact ⟨first, by simp [firstAssignment, done, head]⟩

theorem identifier_ok (value name : Name) (done : identifier value = .ok name) : name = value := by
  simp only [identifier, bind_ok_iff, refuse_ok_iff, exists_const, pure_ok, Except.ok.injEq] at done
  exact done.2.symm

theorem submit_ok (project external : Name) (plan : Plan) (subscriber : Option Subscriber)
    (before after : Ledger) (id : Id) (numbered : Numbered host before)
    (done : before.submit host project external plan subscriber = .ok (after, id)) :
    Submits host project external plan subscriber before after id := by
  simp only [Ledger.submit, bind_ok_iff, refuse_ok_iff, exists_const, not_not] at done
  obtain ⟨_, _, _, _, _, _, nonempty, names, named, distinct, _, _, rest⟩ := done
  have same : names = plan.stages.map (fun definition => definition.id) := by
    have related := (mapM_ok_inv _ _ _ named).imp fun definition name one =>
      (identifier_ok definition.id name one).symm
    have equal := List.forall₂_map_left_iff.mpr related
    rw [List.forall₂_eq_eq_eq] at equal
    exact equal.symm
  cases found : before.findRequest project external with
  | some request =>
      rw [found] at rest
      simp only [bind_ok_iff, refuse_ok_iff, exists_const, not_not, pure_ok, Except.ok.injEq] at rest
      obtain ⟨same, result⟩ := rest
      cases result
      exact .replayed request found same
  | none =>
      rw [found] at rest
      obtain ⟨_, checked, rest⟩ := (bind_ok_iff _ _ _).mp rest
      obtain ⟨rows, inserted⟩ := insert_request_ok host project external plan subscriber before numbered
      cases rest
      refine .inserted _ _ rows found nonempty (same ▸ distinct) (fun definition listed => ?_) inserted
      obtain ⟨_, _, one⟩ := forall₂_mem_left _ _ _ (mapM_ok_inv _ _ _ checked) definition listed
      exact require_definition_ok before.registry names definition _ one

end OrchestratorEngine.ResourceQueue
