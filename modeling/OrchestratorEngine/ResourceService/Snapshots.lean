import Mathlib.Data.List.Induction
import OrchestratorEngine.ResourceService.Submissions

set_option autoImplicit false

namespace OrchestratorEngine.ResourceService

open Foundation ResourceQueue

structure Print where
  id : Id
  project : Name
  external : Name
  plan : Plan

def imprint (request : Request) : Print := ⟨request.id, request.project, request.external, request.plan⟩

def printed (ledger : Ledger) : List Print := ledger.requests.map imprint

def Print.key (print : Print) : Name × Name := (print.project, print.external)

theorem find_none (ledger : Ledger) (project external : Name) (absent : ledger.findRequest project external = none) :
    (project, external) ∉ (printed ledger).map Print.key := by
  intro listed
  obtain ⟨print, inside, same⟩ := List.mem_map.mp listed
  obtain ⟨row, stored, rfl⟩ := List.mem_map.mp inside
  have missed := List.find?_eq_none.mp absent row stored
  rw [decide_eq_true_eq] at missed
  exact missed (Prod.mk.inj same)

theorem find_some (ledger : Ledger) (project external : Name) (row : Request)
    (found : ledger.findRequest project external = some row) :
    imprint row ∈ printed ledger ∧ (imprint row).key = (project, external) := by
  obtain ⟨stored, project', external'⟩ := find_request_some ledger project external row found
  exact ⟨List.mem_map.mpr ⟨row, stored, rfl⟩, Prod.ext project' external'⟩

theorem resubscribes_printed (before after : Ledger) (resubscribes : Resubscribes before after) :
    printed after = printed before :=
  forall₂_keys imprint _ _ _ (fun _ _ ⟨_, same⟩ => same ▸ rfl) resubscribes.requests

theorem commit_printed (host : Host) (ledger : Ledger) (call : Call) (consistent : Consistent host ledger)
    (other : isSubmit call = false) :
    Consistent host (commit host ledger call) ∧ printed (commit host ledger call) = printed ledger := by
  rcases commit_cases host ledger call consistent with same | ⟨answer, _, performed⟩
  · rw [same]
    exact ⟨consistent, rfl⟩
  · refine ⟨performed_consistent host ledger _ call answer consistent performed, ?_⟩
    generalize commit host ledger call = after at performed
    cases performed with
    | configured raw registry _ _ configures =>
        rw [configures.result]
        rfl
    | submitted => cases other
    | scheduled _ _ _ _ _ scheduled => rw [printed, printed, scheduled.requests]
    | subscribed _ _ _ _ _ resubscribes => exact resubscribes_printed ledger after resubscribes
    | moved _ _ _ _ keeps _ => rw [printed, printed, keeps.requests]

theorem replay_printed (host : Host) (request : Id) (fingerprint : String) (subscriber : Option Subscriber)
    (conflict : String) (before after : Ledger) (answered : Answered) (consistent : Consistent host before)
    (done : replaySubmission host request fingerprint subscriber conflict before = .ok (after, answered)) :
    Consistent host after ∧ printed after = printed before ∧ answered.request = request ∧
      ∃ row ∈ before.requests, row.id = request ∧ row.plan.contractDigest = some fingerprint := by
  rw [replaySubmission, bind_ok_iff] at done
  obtain ⟨saved, found, done⟩ := done
  obtain ⟨stored, named⟩ := request_ok before request saved found
  cases recorded : saved.plan.contractDigest with
  | none => simp [recorded] at done
  | some digest =>
      rw [recorded] at done
      dsimp only at done
      rw [bind_ok_iff] at done
      obtain ⟨_, accepted, done⟩ := done
      obtain rfl := not_not.mp ((refuse_ok_iff _ _ _).mp accepted)
      have row : ∃ row ∈ before.requests, row.id = request ∧ row.plan.contractDigest = some digest :=
        ⟨saved, stored, named, recorded⟩
      cases subscriber with
      | none =>
          cases done
          exact ⟨consistent, rfl, rfl, row⟩
      | some subscriber =>
          by_cases known : subscriber ∈ saved.subscribers
          · simp only [known, if_true] at done
            cases done
            exact ⟨consistent, rfl, rfl, row⟩
          · simp only [known, if_false, bind_ok_iff] at done
            obtain ⟨next, subscribed, finish⟩ := done
            cases finish
            have resubscribes := subscribe_resubscribes host request saved.plan subscriber false before after
              consistent.requestIds subscribed
            exact ⟨resubscribes_consistent host before after consistent resubscribes,
              resubscribes_printed before after resubscribes, rfl, row⟩

theorem submit_printed (host : Host) (project external : Name) (plan : Plan) (subscriber : Option Subscriber)
    (before after : Ledger) (id : Id) (consistent : Consistent host before)
    (absent : before.findRequest project external = none)
    (done : before.submit host project external plan subscriber = .ok (after, id)) :
    Consistent host after ∧ printed after = printed before ++ [⟨id, project, external, plan⟩] := by
  have submits := submit_ok host project external plan subscriber before after id consistent.toNumbered done
  refine ⟨submits_consistent host project external plan subscriber before after id consistent submits, ?_⟩
  cases submits with
  | replayed request found =>
      rw [absent] at found
      cases found
  | inserted _ _ rows _ _ _ _ inserted =>
      obtain ⟨moment, requests⟩ := inserted.requests
      rw [printed, requests, List.map_append]
      rfl

def Refers (prints : List Print) (workspace : Path) : Prop :=
  ∃ print ∈ prints, print.plan.workspace = some workspace

def Submission.key (submission : Submission) : Name × Name := (submission.project, submission.payload.id)

def Answers (intake : Intake) (prints : List Print) (submission : Submission) (answered : Answered) : Prop :=
  ∃ print ∈ prints, print.id = answered.request ∧ print.key = submission.key ∧
    print.plan.contractDigest = some (submission.fingerprint intake)

def Stands (intake : Intake) (prints : List Print) (workspaces : List Path) (submission : Submission) : Prop :=
  match submission.phase with
  | .asked | .absent => submission.workspace = none
  | .captured workspace plan => submission.workspace = some workspace ∧ workspace ∈ workspaces ∧
      ¬ Refers prints workspace ∧ plan.workspace = some workspace ∧
      plan.contractDigest = some (submission.fingerprint intake)
  | .failing workspace _ => submission.workspace = some workspace ∧
      ∀ print ∈ prints, print.plan.workspace = some workspace → print.key = submission.key
  | .disposing workspace _ => submission.workspace = some workspace ∧ ¬ Refers prints workspace
  | .replayed workspace answered => submission.workspace = some workspace ∧ ¬ Refers prints workspace ∧
      Answers intake prints submission answered
  | .returned answered => Answers intake prints submission answered ∧
      ∀ workspace, submission.workspace = some workspace → workspace ∈ workspaces → Refers prints workspace
  | .raised _ => True

-- A step on behalf of the owner of one workspace inserts at most one request,
-- which refers to that workspace, and touches no other workspace.
structure Evolves (own : Option Path) (prints : List Print) (workspaces : List Path) (later : List Print)
    (left : List Path) : Prop where
  prints : later = prints ∨ ∃ print workspace, own = some workspace ∧ print.plan.workspace = some workspace ∧
    later = prints ++ [print]
  workspaces : ∀ workspace, own ≠ some workspace → (workspace ∈ left ↔ workspace ∈ workspaces)

theorem Evolves.subset {own : Option Path} {prints later : List Print} {workspaces left : List Path}
    (evolves : Evolves own prints workspaces later left) (print : Print) (inside : print ∈ prints) : print ∈ later := by
  rcases evolves.prints with rfl | ⟨_, _, _, _, rfl⟩
  · exact inside
  · exact List.mem_append_left _ inside

theorem Evolves.refers {own : Option Path} {prints later : List Print} {workspaces left : List Path}
    (evolves : Evolves own prints workspaces later left) (workspace : Path) (other : own ≠ some workspace)
    (print : Print) (inside : print ∈ later) (refers : print.plan.workspace = some workspace) : print ∈ prints := by
  rcases evolves.prints with rfl | ⟨new, mine, owned, points, rfl⟩
  · exact inside
  · rcases List.mem_append.mp inside with old | fresh
    · exact old
    · rw [List.mem_singleton.mp fresh, points] at refers
      exact absurd (owned.trans refers) other

theorem answers_evolve (intake : Intake) (own : Option Path) (prints later : List Print) (workspaces left : List Path)
    (evolves : Evolves own prints workspaces later left) (submission : Submission) (answered : Answered)
    (answers : Answers intake prints submission answered) : Answers intake later submission answered := by
  obtain ⟨print, inside, facts⟩ := answers
  exact ⟨print, evolves.subset print inside, facts⟩

theorem stands_evolve (intake : Intake) (own : Option Path) (prints later : List Print) (workspaces left : List Path)
    (evolves : Evolves own prints workspaces later left) (submission : Submission)
    (apart : ∀ workspace, submission.workspace = some workspace → own ≠ some workspace)
    (stands : Stands intake prints workspaces submission) : Stands intake later left submission := by
  have still : ∀ workspace, submission.workspace = some workspace → ¬ Refers prints workspace →
      ¬ Refers later workspace := fun workspace owned unreferred ⟨print, inside, refers⟩ =>
    unreferred ⟨print, evolves.refers workspace (apart workspace owned) print inside refers, refers⟩
  unfold Stands at stands ⊢
  cases phase : submission.phase with
  | asked | absent => simpa only [phase] using stands
  | captured workspace plan =>
      simp only [phase] at stands ⊢
      obtain ⟨owned, present, unreferred, facts⟩ := stands
      exact ⟨owned, (evolves.workspaces workspace (apart workspace owned)).mpr present,
        still workspace owned unreferred, facts⟩
  | failing workspace error =>
      simp only [phase] at stands ⊢
      exact ⟨stands.1, fun print inside refers =>
        stands.2 print (evolves.refers workspace (apart workspace stands.1) print inside refers) refers⟩
  | disposing workspace error =>
      simp only [phase] at stands ⊢
      exact ⟨stands.1, still workspace stands.1 stands.2⟩
  | replayed workspace answered =>
      simp only [phase] at stands ⊢
      exact ⟨stands.1, still workspace stands.1 stands.2.1, answers_evolve intake own prints later workspaces left
        evolves submission answered stands.2.2⟩
  | returned answered =>
      simp only [phase] at stands ⊢
      refine ⟨answers_evolve intake own prints later workspaces left evolves submission answered stands.1,
        fun workspace owned present => ?_⟩
      obtain ⟨print, inside, refers⟩ :=
        stands.2 workspace owned ((evolves.workspaces workspace (apart workspace owned)).mp present)
      exact ⟨print, evolves.subset print inside, refers⟩
  | raised error => trivial

structure Sound (host : Host) (intake : Intake) (service : Service) : Prop where
  consistent : Consistent host service.ledger
  keys : ((printed service.ledger).map Print.key).Nodup
  kept : ∀ workspace, Refers (printed service.ledger) workspace → workspace ∈ service.workspaces
  drawn : ∀ workspace ∈ service.workspaces, ∃ draw, draw < service.drawn ∧ workspace = intake.snapshot draw
  owned : ∀ submission ∈ service.submissions, ∀ workspace, submission.workspace = some workspace →
    ∃ draw, draw < service.drawn ∧ workspace = intake.snapshot draw
  apart : ∀ (first second : Nat) (one other : Submission) (workspace : Path), service.submissions[first]? = some one →
    service.submissions[second]? = some other → one.workspace = some workspace → other.workspace = some workspace →
    first = second
  stands : ∀ submission ∈ service.submissions,
    Stands intake (printed service.ledger) service.workspaces submission

theorem unreferenced (intake : Intake) (readable : Bool) (ledger : Ledger) (submission : Submission) (workspace : Path)
    (keys : ((printed ledger).map Print.key).Nodup)
    (claimed : snapshotIsReferenced intake readable ledger submission workspace = false)
    (own : ∀ print ∈ printed ledger, print.plan.workspace = some workspace → print.key = submission.key) :
    ¬ Refers (printed ledger) workspace := by
  rintro ⟨print, inside, refers⟩
  have key := own print inside refers
  rw [snapshotIsReferenced] at claimed
  cases readable with
  | false => cases claimed
  | true =>
      simp only [if_true] at claimed
      cases found : ledger.findRequest submission.project submission.payload.id with
      | none =>
          have absent := find_none ledger _ _ found
          exact absent (List.mem_map.mpr ⟨print, inside, key⟩)
      | some row =>
          obtain ⟨stored, named⟩ := find_some ledger _ _ row found
          have same : imprint row = print :=
            List.inj_on_of_nodup_map keys stored inside (named.trans key.symm)
          have points : row.plan.workspace = some workspace := by
            rw [← same] at refers
            exact refers
          simp [found, points] at claimed

structure Moved (host : Host) (intake : Intake) (service : Service) (submission : Submission) (next : Service)
    (moved : Submission) : Prop where
  consistent : Consistent host next.ledger
  keys : ((printed next.ledger).map Print.key).Nodup
  kept : ∀ workspace, Refers (printed next.ledger) workspace → workspace ∈ next.workspaces
  drawn : ∀ workspace ∈ next.workspaces, ∃ draw, draw < next.drawn ∧ workspace = intake.snapshot draw
  evolves : Evolves moved.workspace (printed service.ledger) service.workspaces (printed next.ledger) next.workspaces
  grows : service.drawn ≤ next.drawn
  workspace : moved.workspace = submission.workspace ∨
    moved.workspace = some (intake.snapshot service.drawn) ∧ service.drawn < next.drawn
  submissions : next.submissions = service.submissions
  stands : Stands intake (printed next.ledger) next.workspaces moved

section Steps

variable (host : Host) (intake : Intake) (service : Service) (sound : Sound host intake service)
  (submission : Submission) (stands : Stands intake (printed service.ledger) service.workspaces submission)

include sound

theorem quiet_moved (ledger : Ledger) (consistent : Consistent host ledger)
    (same : printed ledger = printed service.ledger) (moved : Submission)
    (workspace : moved.workspace = submission.workspace)
    (stands' : Stands intake (printed service.ledger) service.workspaces moved) :
    Moved host intake service submission { service with ledger := ledger } moved where
  consistent := consistent
  keys := by rw [same]; exact sound.keys
  kept := by rw [same]; exact sound.kept
  drawn := sound.drawn
  evolves := ⟨.inl same, fun _ _ => Iff.rfl⟩
  grows := Nat.le_refl _
  workspace := .inl workspace
  submissions := rfl
  stands := by rw [same]; exact stands'

theorem replay_answers (row : Request)
    (found : service.ledger.findRequest submission.project submission.payload.id = some row) (conflict : String)
    (after : Ledger) (answered : Answered)
    (done : replaySubmission host row.id (submission.fingerprint intake) submission.payload.subscriber conflict
      service.ledger = .ok (after, answered)) :
    Consistent host after ∧ printed after = printed service.ledger ∧
      Answers intake (printed service.ledger) submission answered := by
  obtain ⟨consistent, same, named, stored, listed, id, recorded⟩ :=
    replay_printed host row.id _ _ _ service.ledger after answered sound.consistent done
  obtain ⟨inside, key⟩ := find_some _ _ _ row found
  have equal : stored = row :=
    List.inj_on_of_nodup_map sound.consistent.requestIds listed (find_request_some _ _ _ row found).1 id
  refine ⟨consistent, same, imprint row, inside, named.symm, key, ?_⟩
  rw [← equal]
  exact recorded

theorem look_up_moved (access : Access) (unowned : submission.workspace = none) :
    Moved host intake service submission (lookUp host intake access service submission).1
      (lookUp host intake access service submission).2 := by
  have broken : ∀ (ledger : Ledger) (error : Error), Consistent host ledger → printed ledger = printed service.ledger →
      Moved host intake service submission { service with ledger := ledger } { submission with phase := .raised error } :=
    fun ledger error consistent same => quiet_moved host intake service sound submission ledger consistent
      same _ rfl trivial
  cases body : lookUpBody host intake submission service.ledger with
  | error error =>
      cases access <;> (simp only [lookUp, locked, body]; exact broken _ _ sound.consistent rfl)
  | ok result =>
      obtain ⟨next, found⟩ := result
      have facts : Consistent host next ∧ printed next = printed service.ledger ∧ ∀ answered, found = some answered →
          Answers intake (printed service.ledger) submission answered := by
        rw [lookUpBody] at body
        cases row : service.ledger.findRequest submission.project submission.payload.id with
        | none =>
            rw [row] at body
            cases body
            exact ⟨sound.consistent, rfl, by simp⟩
        | some request =>
            rw [row] at body
            obtain ⟨⟨ledger, answered⟩, replayed, finish⟩ := (bind_ok_iff _ _ _).mp body
            cases finish
            obtain ⟨consistent, same, answers⟩ :=
              replay_answers host intake service sound submission request row _ _ answered replayed
            exact ⟨consistent, same, fun other equal => Option.some.inj equal ▸ answers⟩
      obtain ⟨consistent, same, answers⟩ := facts
      cases access with
      | clean =>
          simp only [lookUp, locked, body]
          refine quiet_moved host intake service sound submission next consistent same _ rfl ?_
          cases found with
          | none => exact unowned
          | some answered =>
              refine ⟨answers answered rfl, fun workspace owned => ?_⟩
              rw [unowned] at owned
              cases owned
      | raisesBefore error =>
          simp only [lookUp, locked]
          exact broken _ _ sound.consistent rfl
      | uncertain error | closeFails error =>
          simp only [lookUp, locked, body]
          exact broken _ _ consistent same

theorem unused_snapshot : intake.snapshot service.drawn ∉ service.workspaces ∧
    ¬ Refers (printed service.ledger) (intake.snapshot service.drawn) := by
  have unused : intake.snapshot service.drawn ∉ service.workspaces := by
    intro present
    obtain ⟨draw, early, same⟩ := sound.drawn _ present
    have clash := intake.fresh same
    omega
  exact ⟨unused, fun refers => unused (sound.kept _ refers)⟩

theorem capture_moved (live : Except Error Manifest) (outcome : CaptureOutcome) :
    Moved host intake service submission (takeSnapshot intake live outcome service submission).1
      (takeSnapshot intake live outcome service submission).2 := by
  obtain ⟨unused, unreferred⟩ := unused_snapshot host intake service sound
  have broken : ∀ error, Moved host intake service submission service { submission with phase := .raised error } :=
    fun error => quiet_moved host intake service sound submission service.ledger sound.consistent rfl _ rfl trivial
  have later : ∀ workspace ∈ service.workspaces, ∃ draw, draw < service.drawn + 1 ∧
    workspace = intake.snapshot draw := by
    intro workspace present
    obtain ⟨draw, early, same⟩ := sound.drawn workspace present
    exact ⟨draw, Nat.lt_succ_of_lt early, same⟩
  -- a new directory is added; whether it stays is decided below
  have added : ∀ phase, Stands intake (printed service.ledger) (service.workspaces ++ [intake.snapshot service.drawn])
        { submission with phase := phase, workspace := some (intake.snapshot service.drawn) } →
      Moved host intake service submission
        { service with drawn := service.drawn + 1, workspaces := service.workspaces ++ [intake.snapshot service.drawn] }
        { submission with phase := phase, workspace := some (intake.snapshot service.drawn) } := by
    intro phase stands
    refine ⟨sound.consistent, sound.keys, fun workspace refers => List.mem_append_left _ (sound.kept workspace refers),
      fun workspace present => ?_, ⟨.inl rfl, fun workspace other => ?_⟩, Nat.le_succ _,
      .inr ⟨rfl, Nat.lt_succ_self _⟩, rfl, stands⟩
    · rcases List.mem_append.mp present with old | new
      · exact later workspace old
      · exact ⟨service.drawn, Nat.lt_succ_self _, List.mem_singleton.mp new⟩
    · have different : workspace ≠ intake.snapshot service.drawn := fun same => other (congrArg some same.symm)
      simp [different]
  cases live with
  | error error => exact broken error
  | ok actual =>
      by_cases differs : ¬ Dict.Same actual submission.payload.inputs
      · simp only [takeSnapshot, if_pos differs]
        exact broken _
      · simp only [takeSnapshot, if_neg differs]
        cases outcome with
        | refused error =>
            exact ⟨sound.consistent, sound.keys, sound.kept, later, ⟨.inl rfl, fun _ _ => Iff.rfl⟩, Nat.le_succ _,
              .inl rfl, rfl, trivial⟩
        | broken error removed =>
            cases removed with
            | true =>
                exact ⟨sound.consistent, sound.keys, sound.kept, later, ⟨.inl rfl, fun _ _ => Iff.rfl⟩, Nat.le_succ _,
                  .inr ⟨rfl, Nat.lt_succ_self _⟩, rfl, trivial⟩
            | false => exact added _ trivial
        | taken =>
            refine added _ ?_
            cases compileRecipe intake.toSite submission.contract.recipe with
            | error error => trivial
            | ok stages =>
                exact ⟨rfl, List.mem_append_right _ List.mem_cons_self, unreferred, rfl, rfl⟩

theorem enter_moved (access : Access) (workspace : Path) (plan : Plan) (owned : submission.workspace = some workspace)
    (present : workspace ∈ service.workspaces) (unreferred : ¬ Refers (printed service.ledger) workspace)
    (points : plan.workspace = some workspace)
    (recorded : plan.contractDigest = some (submission.fingerprint intake)) :
    Moved host intake service submission (enterLedger host intake access service submission workspace plan).1
      (enterLedger host intake access service submission workspace plan).2 := by
  have replaying : ∀ (ledger : Ledger) (phase : Phase), Consistent host ledger →
    printed ledger = printed service.ledger →
      Stands intake (printed service.ledger) service.workspaces { submission with phase := phase } →
      Moved host intake service submission { service with ledger := ledger } { submission with phase := phase } :=
    fun ledger phase consistent same stands =>
      quiet_moved host intake service sound submission ledger consistent same _ rfl stands
  have failing : ∀ error, Stands intake (printed service.ledger) service.workspaces
      { submission with phase := .failing workspace error } :=
    fun error => ⟨owned, fun print inside refers => absurd ⟨print, inside, refers⟩ unreferred⟩
  cases body : enterBody host intake submission plan service.ledger with
  | error error =>
      cases access <;>
        (simp only [enterLedger, locked, body]; exact replaying _ _ sound.consistent rfl (failing _))
  | ok result =>
      obtain ⟨next, kind⟩ := result
      rw [enterBody] at body
      cases row : service.ledger.findRequest submission.project submission.payload.id with
      | some request =>
          have body' := body
          rw [row] at body
          obtain ⟨⟨ledger, answered⟩, replayed, finish⟩ := (bind_ok_iff _ _ _).mp body
          cases finish
          obtain ⟨consistent, same, answers⟩ :=
            replay_answers host intake service sound submission request row _ next answered replayed
          have body : enterBody host intake submission plan service.ledger = .ok (next, .inl answered) := body'
          cases access with
          | clean =>
              simp only [enterLedger, locked, body]
              exact replaying _ _ consistent same ⟨owned, unreferred, answers⟩
          | raisesBefore error =>
              simp only [enterLedger, locked]
              exact replaying _ _ sound.consistent rfl (failing error)
          | uncertain error | closeFails error =>
              simp only [enterLedger, locked, body]
              exact replaying _ _ consistent same (failing error)
      | none =>
          have body' := body
          rw [row] at body
          obtain ⟨⟨ledger, request⟩, submitted, finish⟩ := (bind_ok_iff _ _ _).mp body
          cases finish
          obtain ⟨consistent, same⟩ :=
            submit_printed host _ _ _ _ service.ledger next request sound.consistent row submitted
          have body : enterBody host intake submission plan service.ledger = .ok (next, .inr request) := body'
          have print : (⟨request, submission.project, submission.payload.id, plan⟩ : Print) ∈ printed next := by
            rw [same]
            exact List.mem_append_right _ List.mem_cons_self
          have inserted : ∀ phase, Stands intake (printed next) service.workspaces { submission with phase := phase } →
              Moved host intake service submission { service with ledger := next }
                { submission with phase := phase } := by
            refine fun phase stands => ⟨consistent, ?_, ?_, sound.drawn, ⟨.inr ⟨_, workspace, owned, points, same⟩,
              fun _ _ => Iff.rfl⟩, Nat.le_refl _, .inl rfl, rfl, stands⟩
            · rw [same, List.map_append]
              refine List.nodup_append.mpr ⟨sound.keys, List.nodup_singleton _, fun key old other new equal => ?_⟩
              rw [List.map_singleton, List.mem_singleton] at new
              rw [equal, new] at old
              exact find_none _ _ _ row old
            · rintro other ⟨found, inside, refers⟩
              rw [same] at inside
              rcases List.mem_append.mp inside with old | new
              · exact sound.kept other ⟨found, old, refers⟩
              · rw [List.mem_singleton.mp new, points] at refers
                exact Option.some.inj refers ▸ present
          cases access with
          | clean =>
              simp only [enterLedger, locked, body]
              refine inserted _ ⟨⟨_, print, rfl, rfl, recorded⟩, fun other mine _ => ?_⟩
              rw [owned] at mine
              exact ⟨_, print, points.trans mine⟩
          | raisesBefore error =>
              simp only [enterLedger, locked]
              exact replaying _ _ sound.consistent rfl (failing error)
          | uncertain error =>
              simp only [enterLedger, locked, body]
              refine inserted _ ⟨owned, fun found inside refers => ?_⟩
              rw [same] at inside
              rcases List.mem_append.mp inside with old | new
              · exact absurd ⟨found, old, refers⟩ unreferred
              · rw [List.mem_singleton.mp new]
                rfl
          | closeFails error =>
              simp only [enterLedger, locked, body]
              exact inserted _ trivial

theorem drop_moved (workspace : Path) (removed : Bool) (moved : Submission)
    (owned : submission.workspace = some workspace) (same : moved.workspace = submission.workspace)
    (unreferred : ¬ Refers (printed service.ledger) workspace)
    (stands : Stands intake (printed service.ledger) (dropWorkspace workspace removed service).workspaces moved) :
    Moved host intake service submission (dropWorkspace workspace removed service) moved := by
  cases removed with
  | false =>
      exact quiet_moved host intake service sound submission service.ledger sound.consistent rfl moved same stands
  | true =>
      refine ⟨sound.consistent, sound.keys, fun other refers => ?_, fun other present => ?_,
        ⟨.inl rfl, fun other different => ?_⟩, Nat.le_refl _, .inl same, rfl, stands⟩
      · refine List.mem_filter.mpr ⟨sound.kept other refers, decide_eq_true fun equal => ?_⟩
        exact unreferred (equal ▸ refers)
      · exact sound.drawn other (List.mem_filter.mp present).1
      · have apart : other ≠ workspace := fun equal => different (by rw [same, owned, equal])
        simp [dropWorkspace, apart]

include stands

theorem move_moved (act : Act) : Moved host intake service submission (move host intake act service submission).1
    (move host intake act service submission).2 := by
  have idle : Moved host intake service submission service submission :=
    quiet_moved host intake service sound submission service.ledger sound.consistent rfl submission rfl stands
  unfold Stands at stands
  cases phase : submission.phase with
  | asked =>
      simp only [phase] at stands
      cases act with
      | look access =>
          simp only [move, phase]
          exact look_up_moved host intake service sound submission access stands
      | _ => simpa only [move, phase] using idle
  | absent =>
      simp only [phase] at stands
      cases act with
      | capture live outcome =>
          simp only [move, phase]
          exact capture_moved host intake service sound submission live outcome
      | _ => simpa only [move, phase] using idle
  | captured workspace plan =>
      simp only [phase] at stands
      obtain ⟨owned, present, unreferred, points, recorded⟩ := stands
      cases act with
      | enter access =>
          simp only [move, phase]
          exact enter_moved host intake service sound submission access workspace plan owned present unreferred points
            recorded
      | _ => simpa only [move, phase] using idle
  | failing workspace error =>
      simp only [phase] at stands
      cases act with
      | inspect readable =>
          simp only [move, phase]
          refine quiet_moved host intake service sound submission service.ledger sound.consistent rfl _ rfl ?_
          cases referenced : snapshotIsReferenced intake readable service.ledger submission workspace with
          | true => trivial
          | false =>
              exact ⟨stands.1, unreferenced intake readable _ submission workspace sound.keys referenced stands.2⟩
      | _ => simpa only [move, phase] using idle
  | disposing workspace error =>
      simp only [phase] at stands
      cases act with
      | dispose removed =>
          simp only [move, phase]
          exact drop_moved host intake service sound submission workspace removed _ stands.1 rfl stands.2 trivial
      | _ => simpa only [move, phase] using idle
  | replayed workspace answered =>
      simp only [phase] at stands
      cases act with
      | clean removed =>
          simp only [move, phase]
          refine drop_moved host intake service sound submission workspace removed _ stands.1 rfl stands.2.1 ?_
          cases removed with
          | false => trivial
          | true =>
              refine ⟨stands.2.2, fun other owned present => ?_⟩
              rw [stands.1, Option.some.injEq] at owned
              simp [dropWorkspace, owned] at present
      | _ => simpa only [move, phase] using idle
  | returned answered => cases act <;> simpa only [move, phase] using idle
  | raised error => cases act <;> simpa only [move, phase] using idle

end Steps

theorem create_sound (host : Host) (intake : Intake) : Sound host intake Service.create := by
  refine ⟨create_consistent host, List.nodup_nil, ?_, ?_, ?_, ?_, ?_⟩
  · rintro workspace ⟨print, inside, _⟩
    cases inside
  · exact fun workspace inside => by cases inside
  · exact fun submission inside => by cases inside
  · exact fun first second one other workspace found => by simp [Service.create] at found
  · exact fun submission inside => by cases inside

theorem act_sound (host : Host) (intake : Intake) (service : Service) (sound : Sound host intake service) (index : Nat)
    (submission : Submission) (found : service.submissions[index]? = some submission) (next : Service)
    (moved : Submission) (step : Moved host intake service submission next moved) :
    Sound host intake { next with submissions := next.submissions.set index moved } := by
  have member := List.mem_of_getElem? found
  have place : ∀ (other : Nat) (one : Submission), (service.submissions.set index moved)[other]? = some one →
      other = index ∧ one = moved ∨ other ≠ index ∧ service.submissions[other]? = some one := by
    intro other one here
    rw [List.getElem?_set] at here
    by_cases same : index = other
    · rw [if_pos same] at here
      split at here
      · exact .inl ⟨same.symm, (Option.some.inj here).symm⟩
      · cases here
    · rw [if_neg same] at here
      exact .inr ⟨Ne.symm same, here⟩
  -- the workspace of the moved submission is no other submission's
  have apart : ∀ (other : Nat) (one : Submission) (workspace : Path), other ≠ index →
      service.submissions[other]? = some one → one.workspace = some workspace → moved.workspace ≠ some workspace := by
    intro other one workspace different here owned mine
    rcases step.workspace with old | ⟨new, _⟩
    · exact different (sound.apart other index one submission workspace here found owned (old ▸ mine))
    · obtain ⟨draw, early, same⟩ := sound.owned one (List.mem_of_getElem? here) workspace owned
      rw [new, Option.some.injEq] at mine
      have clash := intake.fresh (mine.trans same)
      omega
  refine ⟨step.consistent, step.keys, step.kept, step.drawn, fun one inside workspace owned => ?_,
    fun first second one other workspace here there mine theirs => ?_, fun one inside => ?_⟩
  · obtain ⟨other, here⟩ := List.getElem?_of_mem inside
    change (next.submissions.set index moved)[other]? = some one at here
    rw [step.submissions] at here
    rcases place other one here with ⟨_, rfl⟩ | ⟨_, old⟩
    · rcases step.workspace with same | ⟨new, later⟩
      · obtain ⟨draw, early, drawn⟩ := sound.owned submission member workspace (same ▸ owned)
        exact ⟨draw, Nat.lt_of_lt_of_le early step.grows, drawn⟩
      · exact ⟨service.drawn, later, Option.some.inj (owned.symm.trans new)⟩
    · obtain ⟨draw, early, drawn⟩ := sound.owned one (List.mem_of_getElem? old) workspace owned
      exact ⟨draw, Nat.lt_of_lt_of_le early step.grows, drawn⟩
  · change (next.submissions.set index moved)[first]? = some one at here
    change (next.submissions.set index moved)[second]? = some other at there
    rw [step.submissions] at here there
    rcases place first one here with ⟨rfl, rfl⟩ | ⟨elsewhere, old⟩ <;>
      rcases place second other there with ⟨rfl, rfl⟩ | ⟨another, older⟩
    · rfl
    · exact absurd mine (apart second other workspace another older theirs)
    · exact absurd theirs (apart first one workspace elsewhere old mine)
    · exact sound.apart first second one other workspace old older mine theirs
  · obtain ⟨other, here⟩ := List.getElem?_of_mem inside
    change (next.submissions.set index moved)[other]? = some one at here
    rw [step.submissions] at here
    rcases place other one here with ⟨_, rfl⟩ | ⟨different, old⟩
    · exact step.stands
    · exact stands_evolve intake moved.workspace _ _ _ _ step.evolves one
        (fun workspace owned => apart other one workspace different old owned)
        (sound.stands one (List.mem_of_getElem? old))

theorem serve_sound (host : Host) (intake : Intake) (service : Service) (sound : Sound host intake service)
    (event : Event) : Sound host intake (serve host intake service event) := by
  cases event with
  | ask project payload =>
      rw [serve]
      cases admitPayload host intake project payload with
      | error error => exact sound
      | ok accession =>
          have new : ∀ (one : Submission) (workspace : Path), one = openSubmission project payload accession →
              one.workspace = some workspace → False := by
            rintro one workspace rfl owned
            cases owned
          refine ⟨sound.consistent, sound.keys, sound.kept, sound.drawn, fun one inside workspace owned => ?_,
            fun first second one other workspace here there mine theirs => ?_, fun one inside => ?_⟩
          · rcases List.mem_append.mp inside with old | fresh
            · exact sound.owned one old workspace owned
            · exact (new one workspace (List.mem_singleton.mp fresh) owned).elim
          · have old : ∀ (index : Nat) (one : Submission), (service.submissions ++ [openSubmission project payload
                accession])[index]? = some one →
                one.workspace = some workspace → service.submissions[index]? = some one := by
              intro index one here owned
              by_cases early : index < service.submissions.length
              · rwa [List.getElem?_append_left early] at here
              · rw [List.getElem?_append_right (Nat.le_of_not_lt early)] at here
                have fresh := List.mem_of_getElem? here
                exact (new one workspace (List.mem_singleton.mp fresh) owned).elim
            exact sound.apart first second one other workspace (old first one here mine) (old second other there theirs)
              mine theirs
          · rcases List.mem_append.mp inside with old | fresh
            · exact sound.stands one old
            · rw [List.mem_singleton.mp fresh]
              rfl
  | act index act =>
      rw [serve]
      cases found : service.submissions[index]? with
      | none => exact sound
      | some submission =>
          exact act_sound host intake service sound index submission found _ _
            (move_moved host intake service sound submission (sound.stands submission (List.mem_of_getElem? found)) act)
  | other call =>
      rw [serve]
      cases kind : isSubmit call with
      | true => exact sound
      | false =>
          obtain ⟨consistent, same⟩ := commit_printed host service.ledger call sound.consistent kind
          refine ⟨consistent, ?_, ?_, sound.drawn, sound.owned, sound.apart, ?_⟩
          · simpa only [Bool.false_eq_true, if_false, same] using sound.keys
          · simpa only [Bool.false_eq_true, if_false, same] using sound.kept
          · simpa only [Bool.false_eq_true, if_false, same] using sound.stands

theorem served_sound (host : Host) (intake : Intake) (events : List Event) :
    Sound host intake (served host intake events) := by
  have steps : ∀ (events : List Event) (service : Service), Sound host intake service →
      Sound host intake (events.foldl (serve host intake) service) := by
    intro events
    induction events with
    | nil => exact fun service sound => sound
    | cons event rest ih => exact fun service sound => ih _ (serve_sound host intake service sound event)
  exact steps events Service.create (create_sound host intake)

theorem serve_printed (host : Host) (intake : Intake) (service : Service) (sound : Sound host intake service)
    (event : Event) : printed service.ledger <+: printed (serve host intake service event).ledger := by
  cases event with
  | ask project payload =>
      rw [serve]
      cases admitPayload host intake project payload <;> exact List.prefix_refl _
  | act index act =>
      rw [serve]
      cases found : service.submissions[index]? with
      | none => exact List.prefix_refl _
      | some submission =>
          have step := move_moved host intake service sound submission
            (sound.stands submission (List.mem_of_getElem? found)) act
          rcases step.evolves.prints with same | ⟨print, _, _, _, grown⟩
          · exact ⟨[], by rw [List.append_nil]; exact same.symm⟩
          · exact ⟨[print], grown.symm⟩
  | other call =>
      rw [serve]
      cases kind : isSubmit call with
      | true => exact List.prefix_refl _
      | false =>
          refine ⟨[], ?_⟩
          rw [List.append_nil]
          exact (commit_printed host service.ledger call sound.consistent kind).2.symm

theorem served_printed (host : Host) (intake : Intake) (events late : List Event) :
    printed (served host intake events).ledger <+: printed (served host intake (events ++ late)).ledger := by
  induction late using List.reverseRecOn with
  | nil => exact ⟨[], by rw [List.append_nil, List.append_nil]⟩
  | append_singleton late event ih =>
      have next : served host intake (events ++ (late ++ [event])) =
          serve host intake (served host intake (events ++ late)) event := by
        rw [← List.append_assoc, served, List.foldl_append]
        rfl
      rw [next]
      exact ih.trans (serve_printed host intake _ (served_sound host intake (events ++ late)) event)

def Phase.ended : Phase → Bool
  | .returned _ | .raised _ => true
  | _ => false

theorem submissions_keep_snapshot (host : Host) (intake : Intake) (events : List Event) :
    (∀ project external, ((served host intake events).ledger.requests.filter fun row =>
      decide (row.project = project ∧ row.external = external)).length ≤ 1) ∧
    (∀ submission ∈ (served host intake events).submissions, ∀ answered, submission.phase = .returned answered →
      ∃ row ∈ (served host intake events).ledger.requests, row.id = answered.request ∧
        row.project = submission.project ∧ row.external = submission.payload.id ∧
        row.plan.contractDigest = some (submission.fingerprint intake)) ∧
    (∀ submission ∈ (served host intake events).submissions, submission.phase.ended = true →
      ∀ row ∈ (served host intake events).ledger.requests, row.project = submission.project →
        row.external = submission.payload.id → row.plan.contractDigest ≠ some (submission.fingerprint intake) →
        ∃ error, submission.phase = .raised error) ∧
    (∀ row ∈ (served host intake events).ledger.requests, ∀ workspace, row.plan.workspace = some workspace →
      ∀ late, workspace ∈ (served host intake (events ++ late)).workspaces) ∧
    (∀ submission ∈ (served host intake events).submissions, ∀ answered, submission.phase = .returned answered →
      ∀ workspace, submission.workspace = some workspace →
        workspace ∈ (served host intake events).workspaces →
        ∃ row ∈ (served host intake events).ledger.requests, row.plan.workspace = some workspace) := by
  have sound := served_sound host intake events
  have named : ∀ submission ∈ (served host intake events).submissions, ∀ answered,
      submission.phase = .returned answered → ∃ row ∈ (served host intake events).ledger.requests,
        row.id = answered.request ∧ row.project = submission.project ∧ row.external = submission.payload.id ∧
        row.plan.contractDigest = some (submission.fingerprint intake) := by
    intro submission listed answered returned
    have stands := sound.stands submission listed
    rw [Stands, returned] at stands
    obtain ⟨print, inside, id, key, digest⟩ := stands.1
    obtain ⟨row, stored, rfl⟩ := List.mem_map.mp inside
    exact ⟨row, stored, id, (Prod.mk.inj key).1, (Prod.mk.inj key).2, digest⟩
  have unique : ∀ first ∈ (served host intake events).ledger.requests,
      ∀ second ∈ (served host intake events).ledger.requests, first.project = second.project →
        first.external = second.external → first = second := by
    intro first one second other project external
    have same : imprint first = imprint second := List.inj_on_of_nodup_map sound.keys
      (List.mem_map.mpr ⟨first, one, rfl⟩) (List.mem_map.mpr ⟨second, other, rfl⟩) (Prod.ext project external)
    exact List.inj_on_of_nodup_map sound.consistent.requestIds one other (congrArg Print.id same)
  refine ⟨fun project external => ?_, named, fun submission listed ended row stored project external differs => ?_,
    fun row stored workspace refers late => ?_, fun submission listed answered returned workspace owned present => ?_⟩
  · refine single_of_same_key Request.id _ (sound.consistent.requestIds.sublist (List.filter_sublist.map _)) ?_
    intro first one second other
    obtain ⟨stored, named⟩ := List.mem_filter.mp one
    obtain ⟨also, known⟩ := List.mem_filter.mp other
    obtain ⟨project', external'⟩ := of_decide_eq_true named
    obtain ⟨project'', external''⟩ := of_decide_eq_true known
    exact congrArg Request.id
      (unique first stored second also (project'.trans project''.symm) (external'.trans external''.symm))
  · cases phase : submission.phase with
    | raised error => exact ⟨error, rfl⟩
    | returned answered =>
        obtain ⟨other, also, _, project', external', digest⟩ := named submission listed answered phase
        have same := unique other also row stored (project'.trans project.symm) (external'.trans external.symm)
        exact absurd (same ▸ digest) differs
    | _ => simp [phase, Phase.ended] at ended
  · have later := served_sound host intake (events ++ late)
    exact later.kept workspace ⟨imprint row,
      (served_printed host intake events late).subset (List.mem_map.mpr ⟨row, stored, rfl⟩), refers⟩
  · have stands := sound.stands submission listed
    rw [Stands, returned] at stands
    obtain ⟨print, inside, refers⟩ := stands.2 workspace owned present
    obtain ⟨row, stored, rfl⟩ := List.mem_map.mp inside
    exact ⟨row, stored, refers⟩

end OrchestratorEngine.ResourceService
