import OrchestratorEngine.ResourceQueue.Invariant

set_option autoImplicit false

namespace OrchestratorEngine.ResourceQueue

open Foundation WorkerLease

inductive Performed (host : Host) (before : Ledger) : Call → Ledger → Answer → Prop where
  | configured (raw registry : Registry) (after : Ledger) (accepted : normalizeRegistry raw = .ok registry)
      (configures : Configures before after registry) : Performed host before (.configure raw) after .done
  | submitted (project external : Name) (plan : Plan) (subscriber : Option Subscriber) (after : Ledger) (id : Id)
      (submits : Submits host project external plan subscriber before after id) :
      Performed host before (.submit project external plan subscriber) after (.submitted id)
  | scheduled (unavailable : List Name) (opened : List Stage) (placements : List Placement) (after : Ledger)
      (granted : List Stage) (scheduled : Scheduled unavailable before opened placements after granted) :
      Performed host before (.schedule unavailable) after (.granted granted)
  | subscribed (request : Id) (plan : Plan) (subscriber : Subscriber) (remove : Bool) (after : Ledger)
      (resubscribes : Resubscribes before after) :
      Performed host before (.subscribe request plan subscriber remove) after .done
  | moved (call : Call) (after : Ledger) (answer : Answer) (other : ∀ unavailable, call ≠ .schedule unavailable)
      (keeps : Keeps before after) (moves : List.Forall₂ (Moves call) before.stages after.stages) :
      Performed host before call after answer

variable (host : Host)

theorem schedule_scheduled (unavailable : List Name) (before after : Ledger) (granted : List Stage)
    (consistent : Consistent host before) (done : before.schedule host unavailable = .ok (after, granted)) :
    ∃ opened placements, Scheduled unavailable before opened placements after granted :=
  schedule_ok host unavailable before after granted consistent.ids consistent.normalized consistent.demandable
    (fun stage listed _ => consistent.whole stage listed) done

theorem perform_performed (before after : Ledger) (call : Call) (answer : Answer)
    (consistent : Consistent host before) (done : perform host before call = .ok (after, answer)) :
    Performed host before call after answer := by
  cases call with
  | configure raw =>
      obtain ⟨next, configured, rest⟩ := (bind_ok_iff _ _ _).mp done
      cases rest
      obtain ⟨registry, accepted, configures⟩ := configure_configures raw before after configured
      exact .configured raw registry after accepted configures
  | submit project external plan subscriber =>
      obtain ⟨⟨next, id⟩, submitted, rest⟩ := (bind_ok_iff _ _ _).mp done
      cases rest
      exact .submitted project external plan subscriber after id
        (submit_ok host project external plan subscriber before after id consistent.toNumbered submitted)
  | schedule unavailable =>
      obtain ⟨⟨next, granted⟩, scheduled, rest⟩ := (bind_ok_iff _ _ _).mp done
      cases rest
      obtain ⟨opened, placements, result⟩ := schedule_scheduled host unavailable before after granted
        consistent scheduled
      exact .scheduled unavailable opened placements after granted result
  | attach id epoch identity =>
      obtain ⟨next, attached, rest⟩ := (bind_ok_iff _ _ _).mp done
      cases rest
      obtain ⟨keeps, moves⟩ := attach_moves host id epoch identity before after consistent.ids attached
      exact .moved _ after _ (by simp) keeps moves
  | annotate id epoch fields =>
      obtain ⟨next, annotated, rest⟩ := (bind_ok_iff _ _ _).mp done
      cases rest
      obtain ⟨keeps, moves⟩ := annotate_moves host id epoch fields before after consistent.ids annotated
      exact .moved _ after _ (by simp) keeps moves
  | admitStage id token =>
      obtain ⟨⟨next, stage⟩, admitted, rest⟩ := (bind_ok_iff _ _ _).mp done
      cases rest
      obtain ⟨keeps, moves, _⟩ := admit_moves host id token before after stage consistent.ids admitted
      exact .moved _ after _ (by simp) keeps moves
  | cancel request =>
      obtain ⟨next, cancelled, rest⟩ := (bind_ok_iff _ _ _).mp done
      cases rest
      obtain ⟨keeps, moves⟩ := cancel_moves host request before after consistent.ids cancelled
      exact .moved _ after _ (by simp) keeps moves
  | subscribe request plan subscriber remove =>
      obtain ⟨next, subscribed, rest⟩ := (bind_ok_iff _ _ _).mp done
      cases rest
      exact .subscribed request plan subscriber remove after
        (subscribe_resubscribes host request plan subscriber remove before after consistent.requestIds subscribed)
  | abortUnadmitted id epoch token identity =>
      obtain ⟨⟨next, released⟩, aborted, rest⟩ := (bind_ok_iff _ _ _).mp done
      cases rest
      rcases abort_unadmitted_moves host id epoch token identity before after released consistent.ids aborted with
        ⟨_, rfl⟩ | ⟨_, keeps, moves, _⟩
      · exact .moved _ after _ (by simp) ⟨rfl, rfl, Nat.le_refl _, Nat.le_refl _⟩
          (List.forall₂_same.mpr fun stage _ => Moves.refl _ stage)
      · exact .moved _ after _ (by simp) keeps moves
  | finish id epoch outcome released evidence =>
      obtain ⟨next, finished, rest⟩ := (bind_ok_iff _ _ _).mp done
      cases rest
      obtain ⟨keeps, moves⟩ := finish_moves host id epoch outcome released evidence before after consistent.ids finished
      exact .moved _ after _ (by simp) keeps moves
  | recover id epoch released evidence =>
      obtain ⟨next, recovered, rest⟩ := (bind_ok_iff _ _ _).mp done
      cases rest
      obtain ⟨keeps, moves⟩ := recover_moves host id epoch released evidence before after consistent.ids recovered
      exact .moved _ after _ (by simp) keeps moves

theorem performed_consistent (before after : Ledger) (call : Call) (answer : Answer)
    (consistent : Consistent host before) (performed : Performed host before call after answer) :
    Consistent host after := by
  cases performed with
  | configured raw registry _ _ configures =>
      exact configures_consistent host before after registry consistent configures
  | submitted project external plan subscriber _ id submits =>
      exact submits_consistent host project external plan subscriber before after id consistent submits
  | scheduled unavailable opened placements _ granted scheduled =>
      exact scheduled_consistent host unavailable before after opened placements granted consistent scheduled
  | subscribed _ _ _ _ _ resubscribes => exact resubscribes_consistent host before after consistent resubscribes
  | moved _ _ _ other keeps moves => exact moved_consistent host call before after consistent keeps moves other

theorem commit_cases (ledger : Ledger) (call : Call) (consistent : Consistent host ledger) :
    commit host ledger call = ledger ∨ ∃ answer, perform host ledger call = .ok (commit host ledger call, answer) ∧
      Performed host ledger call (commit host ledger call) answer := by
  unfold commit
  cases done : perform host ledger call with
  | error failure => exact .inl rfl
  | ok result =>
      obtain ⟨next, answer⟩ := result
      exact .inr ⟨answer, rfl, perform_performed host ledger next call answer consistent done⟩

theorem runs_keep (kept : Ledger → Prop)
    (step : ∀ before call after answer, Consistent host before → kept before → Consistent host after →
      perform host before call = .ok (after, answer) → Performed host before call after answer → kept after)
    (calls : List Call) (start : Ledger) (consistent : Consistent host start) (initial : kept start) :
    Consistent host (calls.foldl (commit host) start) ∧ kept (calls.foldl (commit host) start) := by
  induction calls generalizing start with
  | nil => exact ⟨consistent, initial⟩
  | cons call rest ih =>
      rcases commit_cases host start call consistent with same | ⟨answer, done, performed⟩
      · rw [List.foldl_cons, same]
        exact ih start consistent initial
      · have next := performed_consistent host start _ call answer consistent performed
        exact ih _ next (step start call _ answer consistent initial next done performed)

theorem run_consistent (calls : List Call) : Consistent host (run host calls) :=
  (runs_keep host (fun _ => True) (fun _ _ _ _ _ _ _ _ _ => trivial) calls Ledger.create (create_consistent host)
    trivial).1

theorem run_append (early late : List Call) :
    run host (early ++ late) = late.foldl (commit host) (run host early) :=
  List.foldl_append

def countingHost : Host where
  clock := fun draw => draw
  uuid := fun draw => String.ofList (List.replicate draw 'i')
  token := fun draw => String.ofList (List.replicate draw 't')
  distinct := by
    intro first second same
    simpa using congrArg String.length same
  validWakeTarget := fun _ => true
  validCheckId := fun _ => true

theorem run_excludes (host : Host) (calls : List Call) :
    (∀ leaf, Coexist (leafCapacity (run host calls).registry leaf)
      (claimsOn leaf ((run host calls).owners.map (fun owner => owner.allocation)))) ∧
    (∀ stage ∈ (run host calls).stages, ∀ leaf ∈ stage.allocation.keys, IsLeaf (run host calls).registry leaf) ∧
    (∀ stage ∈ (run host calls).stages, stage.state ∉ owningStates → stage.allocation = Dict.empty) := by
  have consistent := run_consistent host calls
  refine ⟨(owners_fit _ _ consistent.idle).mpr consistent.fits, fun stage listed leaf held => ?_,
    fun stage listed released => consistent.idle stage listed (decide_eq_false released)⟩
  obtain ⟨claim, found⟩ := (Dict.mem_keys _ _).mp held
  exact consistent.leaves stage listed leaf claim found

end OrchestratorEngine.ResourceQueue
