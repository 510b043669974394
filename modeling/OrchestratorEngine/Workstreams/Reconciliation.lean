import OrchestratorEngine.Workstreams.History

set_option autoImplicit false

namespace OrchestratorEngine.Workstreams

open Foundation
open Foundation.Journal

def promised (descriptor : Descriptor) : Option Checkpoint → Descriptor
  | none => descriptor
  | some checkpoint => descriptor.accept checkpoint

def Descriptor.settledAt (descriptor : Descriptor) (now : Int) : Descriptor :=
  if descriptor.status = .active ∨ descriptor.status = .waitingExternal then
    match wallLimitReason descriptor now with
    | some reason => descriptor.expired reason now
    | none => descriptor
  else descriptor

def AllPublished (files : Files) : Prop :=
  ∀ checkpoint ∈ history files, ∀ scheduled, checkpoint.scheduled = some scheduled → Published files
  checkpoint scheduled

section Publication

variable {workstreamId : String} {files : Files} {checkpoint : Checkpoint} {scheduled : Scheduled}

theorem Stored.all_published (stored : Stored workstreamId files)
    (last : ∀ checkpoint, (history files).getLast? = some checkpoint → ∀ scheduled,
    checkpoint.scheduled = some scheduled →
      Published files checkpoint scheduled) : AllPublished files := by
  intro checkpoint member scheduled named
  have filled : history files ≠ [] := List.ne_nil_of_mem member
  rw [← List.dropLast_append_getLast filled, List.mem_append, List.mem_singleton] at member
  rcases member with early | late
  · exact stored.settled checkpoint early scheduled named
  · exact last checkpoint (by rw [List.getLast?_eq_some_getLast filled, late]) scheduled named

structure Republished (workstreamId : String) (files later : Files) : Prop where
  stored : Stored workstreamId later
  descriptor : later.descriptor = files.descriptor
  checkpoints : later.checkpoints = files.checkpoints

theorem Republished.history {later : Files} (republished : Republished workstreamId files later) :
    history later = history files :=
  congrArg (fun dict => dict.items.map Prod.snd) republished.checkpoints

theorem retain_leads (stored : Stored workstreamId files) (member : checkpoint ∈ history files)
    (named : checkpoint.scheduled = some scheduled)
    (result : files.results.get? checkpoint.checkpointId = some (checkpoint.result scheduled))
    (evidence : files.evidence.get? checkpoint.checkpointId = some checkpoint.evidence) (now : Int) :
    Leads (Republished workstreamId files)
      (fun _ later => Republished workstreamId files later ∧ Published later checkpoint scheduled)
      (retainEventAndSignal (checkpoint.event scheduled now) (checkpoint.signal scheduled now)) files := by
  have sameId : (checkpoint.event scheduled now).eventId = scheduled.eventId := rfl
  refine leads_ask _ ?_
  rw [sameId]
  cases present : files.events.get? scheduled.eventId with
  | some existing =>
      obtain ⟨owner, ownerMember, ownerScheduled, ownerNamed, sameEvent, content⟩ :=
        stored.prescribed.events _ _ present
      cases stored.owner owner checkpoint ownerMember member ownerScheduled scheduled ownerNamed named sameEvent
      cases ownerNamed.symm.trans named
      have agrees : existing.immutable = (checkpoint.event scheduled now).immutable := by
        rw [content]
        rfl
      have event : files.events.get? scheduled.eventId ≠ none := by
        rw [present]
        exact Option.some_ne_none _
      have written := stored.putSignal member named result evidence event existing.createdAt
      refine leads_require (fun wrong => wrong agrees) ?_
      refine leads_write ⟨written, rfl, rfl⟩ ⟨⟨written, rfl, rfl⟩, result, evidence, event, ?_⟩
      rw [Dict.get_set, if_pos rfl]
      exact Option.some_ne_none _
  | none =>
      have eventWritten := stored.putEvent member named now
      refine leads_write_bind ⟨eventWritten, rfl, rfl⟩ ?_
      have event : (files.events.set scheduled.eventId (checkpoint.event scheduled now)).get?
        scheduled.eventId ≠ none := by
        rw [Dict.get_set, if_pos rfl]
        exact Option.some_ne_none _
      have written := eventWritten.putSignal member named result evidence event now
      refine leads_write ⟨written, rfl, rfl⟩ ⟨⟨written, rfl, rfl⟩, result, evidence, event, ?_⟩
      rw [Dict.get_set, if_pos rfl]
      exact Option.some_ne_none _

theorem ensure_leads (stored : Stored workstreamId files) (member : checkpoint ∈ history files)
    (named : checkpoint.scheduled = some scheduled) (now : Int) :
    Leads (Republished workstreamId files)
      (fun _ later => Republished workstreamId files later ∧ Published later checkpoint scheduled)
      (ensureCheckpointEvent checkpoint now) files := by
  have continues := ((stored.shaped checkpoint member).names scheduled named).1
  rw [ensureCheckpointEvent, if_neg (fun other => other continues), named]
  have resultWritten := stored.putResult member named
  have evidenceWritten := resultWritten.putEvidence member named
  refine Leads.through (fun _ state => Republished workstreamId files state ∧
      state.results.get? checkpoint.checkpointId = some (checkpoint.result scheduled) ∧
      state.evidence.get? checkpoint.checkpointId = some checkpoint.evidence) ?_ ?_
  · refine leads_write_bind ⟨resultWritten, rfl, rfl⟩ ?_
    refine leads_write ⟨evidenceWritten, rfl, rfl⟩ ⟨⟨evidenceWritten, rfl, rfl⟩, ?_, ?_⟩ <;> simp
  · rintro _ state ⟨republished, result, evidence⟩
    have member' : checkpoint ∈ history state := republished.history ▸ member
    refine (retain_leads republished.stored member' named result evidence now).mono ?_ ?_
    · exact fun later next => ⟨next.stored, next.descriptor.trans republished.descriptor,
        next.checkpoints.trans republished.checkpoints⟩
    · exact fun _ later next => ⟨⟨next.1.stored, next.1.descriptor.trans republished.descriptor,
        next.1.checkpoints.trans republished.checkpoints⟩, next.2⟩

end Publication

section Passes

variable {workstreamId : String} {clock : Int} {files : Files} {descriptor : Descriptor} {applied : List Checkpoint}
  {pending : Option Checkpoint} {good : Files → Prop} {post : Descriptor → Files → Prop}

theorem reconcile_checkpoint_silent (published : Int) (checkpoint : Checkpoint)
    (old : checkpoint.sequence ≤ descriptor.checkpointCount)
    (present : checkpoint.decision = .continues → ∃ scheduled, checkpoint.scheduled = some scheduled ∧
      files.signals.get? scheduled.eventId ≠ none) :
    Leads good (fun kept state => kept = descriptor ∧ state = files)
    (reconcileCheckpoint published descriptor checkpoint)
      files := by
  rw [reconcileCheckpoint, applyCheckpoint, if_pos old]
  refine Leads.through (fun kept state => kept = descriptor ∧ state = files) (leads_pure _ ⟨rfl, rfl⟩) ?_
  rintro kept state ⟨sameKept, sameFiles⟩
  rw [sameKept, sameFiles]
  split
  case isTrue continues =>
    obtain ⟨scheduled, named, signal⟩ := present continues
    rw [named]
    refine leads_ask _ ?_
    obtain ⟨kept, found⟩ := Option.ne_none_iff_exists'.mp signal
    rw [found]
    exact leads_pure _ ⟨rfl, rfl⟩
  case isFalse _ => exact leads_pure _ ⟨rfl, rfl⟩

theorem reconcile_checkpoints_silent (published : Int) (front rest : List Checkpoint) (sequences : List Nat)
    (old : ∀ checkpoint ∈ front, checkpoint.sequence ≤ descriptor.checkpointCount)
    (present : ∀ checkpoint ∈ front, checkpoint.decision = .continues → ∃ scheduled,
      checkpoint.scheduled = some scheduled ∧ files.signals.get? scheduled.eventId ≠ none)
    (distinct : (front.map Checkpoint.sequence).Nodup)
    (fresh : ∀ checkpoint ∈ front, checkpoint.sequence ∉ sequences)
    (leads : Leads good post (reconcileCheckpoints published descriptor
      ((front.map Checkpoint.sequence).reverse ++ sequences) rest) files) :
    Leads good post (reconcileCheckpoints published descriptor sequences (front ++ rest)) files := by
  induction front generalizing sequences with
  | nil => exact leads
  | cons checkpoint tail ih =>
      rw [List.map_cons, List.nodup_cons] at distinct
      refine leads_require (fresh checkpoint List.mem_cons_self) ?_
      refine Leads.bind (reconcile_checkpoint_silent published checkpoint (old checkpoint List.mem_cons_self)
        (present checkpoint List.mem_cons_self)) ?_
      rintro kept state ⟨sameKept, sameFiles⟩
      rw [sameKept, sameFiles]
      refine ih (checkpoint.sequence :: sequences) (fun other member => old other (List.mem_cons_of_mem _ member))
        (fun other member => present other (List.mem_cons_of_mem _ member)) distinct.2 ?_ ?_
      · intro other member listed
        rcases List.mem_cons.mp listed with same | before
        · exact distinct.1 (same ▸ List.mem_map_of_mem member)
        · exact fresh other (List.mem_cons_of_mem _ member) before
      · rw [List.map_cons, List.reverse_cons, List.append_assoc] at leads
        exact leads

def Underway (workstreamId : String) (clock : Int) (descriptor : Descriptor) (applied : List Checkpoint)
    (pending : Option Checkpoint) (files : Files) : Prop :=
  Recorded workstreamId clock files descriptor applied pending ∨
    Recorded workstreamId clock files (promised descriptor pending) (applied ++ pending.toList) none

theorem apply_leads (recorded : Recorded workstreamId clock files descriptor applied pending) (checkpoint : Checkpoint)
    (last : (history files).getLast? = some checkpoint) :
    Leads (Underway workstreamId clock descriptor applied pending)
      (fun kept state => kept = promised descriptor pending ∧ history state = history files ∧
        Recorded workstreamId clock state (promised descriptor pending) (applied ++ pending.toList) none)
      (applyCheckpoint descriptor checkpoint) files := by
  have split := recorded.split
  cases pending with
  | none =>
      have old : checkpoint.sequence ≤ descriptor.checkpointCount := by
        have numbered := recorded.stored.sequence_eq _ checkpoint (List.getLast?_eq_getElem? ▸ last)
        have filled : history files ≠ [] := fun none => by simp [none] at last
        have long := List.length_pos_iff.mpr filled
        rw [Option.toList_none, List.append_nil] at split
        rw [numbered, recorded.accounts.count, ← split]
        omega
      rw [applyCheckpoint, if_pos old, Option.toList_none, List.append_nil]
      exact leads_pure _ ⟨rfl, rfl, recorded⟩
  | some waiting =>
      rw [split, Option.toList_some, List.getLast?_concat] at last
      cases last
      have next := recorded.pending_sequence
      have shaped : checkpoint.Shaped workstreamId := recorded.stored.shaped checkpoint (by rw [split]; simp)
      rw [applyCheckpoint, if_neg (by omega)]
      refine leads_require (recorded.opened checkpoint rfl).unfinished ?_
      refine leads_require (fun gap => gap next) ?_
      refine leads_lift _ (applied_accept descriptor checkpoint shaped) ?_
      have written := recorded.apply
      refine leads_write_bind (.inr written) ?_
      exact leads_pure _ ⟨rfl, rfl, written⟩

theorem reconcile_last (recorded : Recorded workstreamId clock files descriptor applied pending)
    (checkpoint : Checkpoint)
    (last : (history files).getLast? = some checkpoint) (published : Int) :
    Leads (Underway workstreamId clock descriptor applied pending)
      (fun kept state => kept = promised descriptor pending ∧ AllPublished state ∧
        Recorded workstreamId clock state (promised descriptor pending) (applied ++ pending.toList) none)
      (reconcileCheckpoint published descriptor checkpoint) files := by
  refine Leads.bind (apply_leads recorded checkpoint last) ?_
  rintro kept state ⟨sameKept, sameHistory, written⟩
  rw [sameKept]
  rw [← sameHistory] at last
  have member : checkpoint ∈ history state := List.mem_of_getLast? last
  have shaped := written.stored.shaped checkpoint member
  split
  case isTrue continues =>
    obtain ⟨notBefore, named⟩ := shaped.scheduled continues
    rw [named]
    refine leads_ask _ ?_
    cases present : state.signals.get?
      (followupEventId (continuationOperationId workstreamId checkpoint.checkpointId)) with
    | some signal =>
        refine leads_pure _ ⟨rfl, written.stored.all_published ?_, written⟩
        intro other isLast scheduled otherNamed
        cases last.symm.trans isLast
        cases named.symm.trans otherNamed
        exact written.stored.finished checkpoint member _ named (by simp [present])
    | none =>
        refine Leads.bind ((ensure_leads written.stored member named published).mono ?_ fun _ _ done => done) ?_
        · exact fun later next => .inr (written.restore next.stored next.descriptor next.checkpoints)
        · rintro _ later ⟨republished, complete⟩
          refine leads_pure _ ⟨rfl, republished.stored.all_published ?_,
            written.restore republished.stored republished.descriptor republished.checkpoints⟩
          intro other isLast scheduled otherNamed
          rw [republished.history] at isLast
          cases last.symm.trans isLast
          cases named.symm.trans otherNamed
          exact complete
  case isFalse other =>
    refine leads_pure _ ⟨rfl, written.stored.all_published ?_, written⟩
    intro same isLast scheduled named
    cases last.symm.trans isLast
    cases (shaped.unscheduled other).symm.trans named

theorem reconcile_checkpoints_leads (recorded : Recorded workstreamId clock files descriptor applied pending)
    (published : Int) :
    Leads (Underway workstreamId clock descriptor applied pending)
      (fun kept state => kept = promised descriptor pending ∧ AllPublished state ∧
        Recorded workstreamId clock state (promised descriptor pending) (applied ++ pending.toList) none)
      (reconcileCheckpoints published descriptor [] (history files)) files := by
  have split := recorded.split
  have stored := recorded.stored
  by_cases filled : history files = []
  · have noneWaiting : pending = none := by
      cases pending with
      | none => rfl
      | some checkpoint => simp [filled] at split
    subst noneWaiting
    rw [filled]
    refine leads_pure _ ⟨rfl, fun checkpoint member => ?_, ?_⟩
    · rw [filled] at member
      cases member
    · rw [Option.toList_none, List.append_nil]
      exact recorded
  · obtain ⟨front, last, listed⟩ : ∃ front last, history files = front ++ [last] :=
      ⟨_, _, (List.dropLast_append_getLast filled).symm⟩
    have early : ∀ checkpoint ∈ front, checkpoint ∈ (history files).dropLast := by
      intro checkpoint member
      rw [listed, List.dropLast_concat]
      exact member
    have distinct : ((front.map Checkpoint.sequence) ++ [last.sequence]).Nodup := by
      have numbered := stored.sequenced
      rw [listed, List.map_append] at numbered
      rw [List.map_cons, List.map_nil] at numbered
      rw [numbered]
      exact List.nodup_range'
    have short : front.length ≤ descriptor.checkpointCount := by
      have long := congrArg List.length (listed.symm.trans split)
      rw [recorded.accounts.count]
      cases pending <;> simp at long <;> omega
    rw [listed]
    refine reconcile_checkpoints_silent published front [last] [] ?_ ?_ (List.nodup_append.mp distinct).1
      (fun _ _ => List.not_mem_nil) ?_
    · intro checkpoint member
      obtain ⟨index, inside, found⟩ := List.getElem_of_mem member
      have place : (history files)[index]? = some checkpoint := by
        rw [listed, List.getElem?_append_left inside, List.getElem?_eq_getElem inside, found]
      have numbered := stored.sequence_eq index checkpoint place
      omega
    · intro checkpoint member continues
      obtain ⟨notBefore, named⟩ :=
        (stored.shaped checkpoint (List.dropLast_subset _ (early checkpoint member))).scheduled
        continues
      exact ⟨_, named, (stored.settled checkpoint (early checkpoint member) _ named).signal⟩
    · refine leads_require ?_ ?_
      · rw [List.append_nil, List.mem_reverse]
        intro twice
        exact (List.nodup_append.mp distinct).2.2 _ twice _ List.mem_cons_self rfl
      · refine Leads.bind (reconcile_last recorded last (by rw [listed, List.getLast?_concat]) published) ?_
        rintro kept state finished
        exact leads_pure _ finished

theorem Accounts.expired (accounts : Accounts clock descriptor applied) (reason : String) (now : Int)
    (passed : wallLimitReason descriptor clock ≠ none) : Accounts clock (descriptor.expired reason now) applied :=
  ⟨accounts.count, accounts.version, accounts.counted, accounts.within, fun _ granted => (by cases granted),
    fun _ _ _ => .inr passed⟩

def Reached (workstreamId : String) (clock now : Int) (descriptor : Descriptor) (applied : List Checkpoint)
    (pending : Option Checkpoint) (files : Files) : Prop :=
  Underway workstreamId clock descriptor applied pending files ∨
    Recorded workstreamId clock files ((promised descriptor pending).settledAt now) (applied ++ pending.toList) none

theorem expire_leads (recorded : Recorded workstreamId clock files descriptor applied none) (now : Int)
    (past : now ≤ clock) (published : AllPublished files) :
    Leads (fun state => Recorded workstreamId clock state (descriptor.settledAt now) applied none)
      (fun _ state => Recorded workstreamId clock state (descriptor.settledAt now) applied none ∧ AllPublished state)
      (expire descriptor now) files := by
  rw [expire, Descriptor.settledAt]
  split
  case isTrue _ =>
    cases passed : wallLimitReason descriptor now with
    | none => exact leads_pure _ ⟨recorded, published⟩
    | some reason =>
        have accounts := recorded.accounts.expired reason now
          (wall_limit_later descriptor now clock past (by rw [passed]; exact Option.some_ne_none _))
        have written := recorded.rewrite accounts
        refine leads_write written ⟨written, fun checkpoint member scheduled named => ?_⟩
        have old := published checkpoint member scheduled named
        exact ⟨old.result, old.evidence, old.event, old.signal⟩
  case isFalse _ => exact leads_pure _ ⟨recorded, published⟩

theorem load_leads (current : files.descriptor = some descriptor) :
    Leads good (fun kept state => kept = descriptor ∧ state = files) loadWorkstream files := by
  refine leads_ask _ ?_
  rw [current]
  exact leads_pure _ ⟨rfl, rfl⟩

theorem reconcile_leads (recorded : Recorded workstreamId clock files descriptor applied pending) (now published : Int)
    (past : now ≤ clock) :
    Leads (Reached workstreamId clock now descriptor applied pending)
      (fun _ state => AllPublished state ∧
        Recorded workstreamId clock state ((promised descriptor pending).settledAt now)
        (applied ++ pending.toList) none)
      (reconcileLocked now published) files := by
  refine Leads.bind (load_leads recorded.current) ?_
  rintro kept state ⟨sameKept, sameFiles⟩
  rw [sameKept, sameFiles]
  refine leads_ask _ ?_
  rw [recorded.stored.sorted]
  refine Leads.bind ((reconcile_checkpoints_leads recorded published).mono (fun _ => .inl) fun _ _ done => done) ?_
  rintro reached later ⟨sameReached, complete, written⟩
  rw [sameReached, migrateContinuationState, if_pos written.accounts.version.ge]
  exact (expire_leads written now past complete).mono (fun _ => .inr) fun _ _ done => ⟨done.2, done.1⟩

end Passes

end OrchestratorEngine.Workstreams
