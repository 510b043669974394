import OrchestratorEngine.Workstreams.Operations

set_option autoImplicit false

namespace OrchestratorEngine.Workstreams

open Foundation

def history (files : Files) : List Checkpoint := files.checkpoints.items.map Prod.snd

def Checkpoint.continuation (checkpoint : Checkpoint) : Option ActiveContinuation :=
  checkpoint.scheduled.map fun scheduled =>
    ⟨checkpoint.checkpointId, checkpoint.sequence, scheduled.eventId, scheduled.notBefore⟩

structure Checkpoint.Shaped (workstreamId : String) (checkpoint : Checkpoint) : Prop where
  scheduled : checkpoint.decision = .continues → ∃ notBefore, checkpoint.scheduled = some {
    notBefore
    operationId := continuationOperationId workstreamId checkpoint.checkpointId
    eventId := followupEventId (continuationOperationId workstreamId checkpoint.checkpointId) }
  unscheduled : checkpoint.decision ≠ .continues → checkpoint.scheduled = none
  waiting : checkpoint.decision = .waitingExternal → checkpoint.waitingOn ≠ none

theorem Checkpoint.Shaped.names {workstreamId : String} {checkpoint : Checkpoint}
    (shaped : checkpoint.Shaped workstreamId)
    (scheduled : Scheduled) (found : checkpoint.scheduled = some scheduled) :
    checkpoint.decision = .continues ∧ scheduled.operationId = continuationOperationId workstreamId
    checkpoint.checkpointId ∧
      scheduled.eventId = followupEventId scheduled.operationId := by
  by_cases continues : checkpoint.decision = .continues
  · obtain ⟨notBefore, named⟩ := shaped.scheduled continues
    cases named.symm.trans found
    exact ⟨continues, rfl, rfl⟩
  · cases (shaped.unscheduled continues).symm.trans found

theorem continuation_operation_id_inj (workstreamId first second : String)
    (same : continuationOperationId workstreamId first = continuationOperationId workstreamId second) :
    first = second := by
  have listed := congrArg String.toList same
  simp only [continuationOperationId, String.toList_append] at listed
  exact String.toList_inj.mp (List.append_cancel_left listed)

def Descriptor.accept (descriptor : Descriptor) (checkpoint : Checkpoint) : Descriptor :=
  { descriptor with
    status := checkpoint.decision.status
    checkpointCount := checkpoint.sequence
    latestCheckpointId := some checkpoint.checkpointId
    updatedAt := checkpoint.createdAt
    continuationCount := descriptor.continuationCount + if checkpoint.decision.automatic then 1 else 0
    continuationStateVersion := 1
    activeContinuation := checkpoint.continuation
    lastScheduledEventId := checkpoint.scheduled.map Scheduled.eventId
    lastScheduledWakeAt := checkpoint.scheduled.map Scheduled.notBefore
    waitingOn := if checkpoint.decision = .waitingExternal then checkpoint.waitingOn else none }

theorem applied_accept {workstreamId : String} (descriptor : Descriptor) (checkpoint : Checkpoint)
    (shaped : checkpoint.Shaped workstreamId) : descriptor.applied checkpoint = .ok (descriptor.accept checkpoint) := by
  by_cases continues : checkpoint.decision = .continues
  · obtain ⟨notBefore, named⟩ := shaped.scheduled continues
    simp only [Descriptor.applied, continues, named, Descriptor.accept, Checkpoint.continuation,
      Option.map_some, if_true]
  · have bare := shaped.unscheduled continues
    by_cases waits : checkpoint.decision = .waitingExternal
    · have told := shaped.waiting waits
      simp [Descriptor.applied, waits, told, Descriptor.accept, Checkpoint.continuation, bare]
    · simp [Descriptor.applied, continues, waits, Descriptor.accept, Checkpoint.continuation, bare]

structure Accounts (clock : Int) (descriptor : Descriptor) (applied : List Checkpoint) : Prop where
  count : descriptor.checkpointCount = applied.length
  version : descriptor.continuationStateVersion = 1
  counted : descriptor.continuationCount = applied.countP fun checkpoint => checkpoint.decision.automatic
  within : ∀ limit, descriptor.maxContinuations = some limit → descriptor.continuationCount ≤ limit
  backed : ∀ active, descriptor.activeContinuation = some active →
    descriptor.status = .active ∧ ∃ checkpoint, applied.getLast? = some checkpoint ∧
    checkpoint.continuation = some active
  authorized : ∀ checkpoint, applied.getLast? = some checkpoint → checkpoint.decision = .continues →
    descriptor.status = .active ∧ descriptor.activeContinuation = checkpoint.continuation ∨
      wallLimitReason descriptor clock ≠ none

structure Opened (descriptor : Descriptor) (checkpoint : Checkpoint) : Prop where
  unfinished : descriptor.status ≠ .complete
  active : checkpoint.decision = .continues → descriptor.status = .active
  room : checkpoint.decision.automatic = true →
    ∀ limit, descriptor.maxContinuations = some limit → descriptor.continuationCount < limit

structure Published (files : Files) (checkpoint : Checkpoint) (scheduled : Scheduled) : Prop where
  result : files.results.get? checkpoint.checkpointId = some (checkpoint.result scheduled)
  evidence : files.evidence.get? checkpoint.checkpointId = some checkpoint.evidence
  event : files.events.get? scheduled.eventId ≠ none
  signal : files.signals.get? scheduled.eventId ≠ none

structure Prescribed (files : Files) : Prop where
  results : ∀ key kept, files.results.get? key = some kept → ∃ checkpoint ∈ history files, ∃ scheduled,
    checkpoint.scheduled = some scheduled ∧ checkpoint.checkpointId = key ∧ kept = checkpoint.result scheduled
  evidence : ∀ key kept, files.evidence.get? key = some kept → ∃ checkpoint ∈ history files, ∃ scheduled,
    checkpoint.scheduled = some scheduled ∧ checkpoint.checkpointId = key ∧ kept = checkpoint.evidence
  events : ∀ key kept, files.events.get? key = some kept → ∃ checkpoint ∈ history files, ∃ scheduled,
    checkpoint.scheduled = some scheduled ∧ scheduled.eventId = key ∧ kept = checkpoint.event scheduled kept.createdAt
  signals : ∀ key kept, files.signals.get? key = some kept → ∃ checkpoint ∈ history files, ∃ scheduled,
    checkpoint.scheduled = some scheduled ∧ scheduled.eventId = key ∧ kept = checkpoint.signal scheduled kept.createdAt

structure Stored (workstreamId : String) (files : Files) : Prop where
  keyed : ∀ item ∈ files.checkpoints.items, item.2.checkpointId = item.1
  sequenced : (history files).map Checkpoint.sequence = List.range' 1 (history files).length
  shaped : ∀ checkpoint ∈ history files, checkpoint.Shaped workstreamId
  prescribed : Prescribed files
  -- The signal is the last file of a checkpoint.
  finished : ∀ checkpoint ∈ history files, ∀ scheduled, checkpoint.scheduled = some scheduled →
    files.signals.get? scheduled.eventId ≠ none → Published files checkpoint scheduled
  settled : ∀ checkpoint ∈ (history files).dropLast, ∀ scheduled, checkpoint.scheduled = some scheduled →
    Published files checkpoint scheduled

structure Recorded (workstreamId : String) (clock : Int) (files : Files) (descriptor : Descriptor)
    (applied : List Checkpoint) (pending : Option Checkpoint) : Prop where
  current : files.descriptor = some descriptor
  split : history files = applied ++ pending.toList
  stored : Stored workstreamId files
  accounts : Accounts clock descriptor applied
  opened : ∀ checkpoint, pending = some checkpoint → Opened descriptor checkpoint

section Records

variable {workstreamId : String} {files : Files}

theorem Stored.found (stored : Stored workstreamId files) (checkpoint : Checkpoint)
    (member : checkpoint ∈ history files) :
    files.checkpoints.get? checkpoint.checkpointId = some checkpoint := by
  obtain ⟨⟨key, value⟩, listed, rfl⟩ := List.mem_map.mp member
  rw [stored.keyed _ listed]
  exact (Dict.mem_items _ _ _).mp listed

theorem Stored.unique (stored : Stored workstreamId files) (first second : Checkpoint)
    (firstMember : first ∈ history files)
    (secondMember : second ∈ history files) (same : first.checkpointId = second.checkpointId) : first = second :=
  Option.some.inj ((stored.found first firstMember).symm.trans (same ▸ stored.found second secondMember))

theorem Stored.owner (stored : Stored workstreamId files) (first second : Checkpoint)
    (firstMember : first ∈ history files)
    (secondMember : second ∈ history files) (firstScheduled secondScheduled : Scheduled)
    (firstFound : first.scheduled = some firstScheduled) (secondFound : second.scheduled = some secondScheduled)
    (same : firstScheduled.eventId = secondScheduled.eventId) : first = second := by
  obtain ⟨_, firstNamed, firstEvent⟩ := (stored.shaped first firstMember).names _ firstFound
  obtain ⟨_, secondNamed, secondEvent⟩ := (stored.shaped second secondMember).names _ secondFound
  refine stored.unique first second firstMember secondMember ?_
  apply continuation_operation_id_inj workstreamId
  rw [← firstNamed, ← secondNamed]
  rw [firstEvent, secondEvent] at same
  exact congrArg EventId.operationId same

theorem Stored.sequence_eq (stored : Stored workstreamId files) (index : Nat) (checkpoint : Checkpoint)
    (found : (history files)[index]? = some checkpoint) : checkpoint.sequence = index + 1 := by
  have inside := (List.getElem?_eq_some_iff.mp found).1
  have listed : ((history files).map Checkpoint.sequence)[index]? = some checkpoint.sequence := by simp [found]
  rw [stored.sequenced, List.getElem?_range' inside] at listed
  have value := Option.some.inj listed
  omega

theorem Stored.sorted (stored : Stored workstreamId files) : storedCheckpoints files = history files := by
  have ordered : ((history files).map Checkpoint.sequence).Pairwise (· ≤ ·) := by
    rw [stored.sequenced]
    exact List.pairwise_le_range'
  rw [List.pairwise_map] at ordered
  exact ordered.insertionSort_eq

theorem Stored.publish {files' : Files} (stored : Stored workstreamId files)
    (same : files'.checkpoints = files.checkpoints) (prescribed : Prescribed files')
    (kept : ∀ checkpoint ∈ history files, ∀ scheduled, checkpoint.scheduled = some scheduled →
      Published files checkpoint scheduled → Published files' checkpoint scheduled)
    (signalled : ∀ checkpoint ∈ history files, ∀ scheduled, checkpoint.scheduled = some scheduled →
      files'.signals.get? scheduled.eventId ≠ none → files.signals.get? scheduled.eventId ≠ none ∨
        Published files' checkpoint scheduled) : Stored workstreamId files' := by
  have listed : history files' = history files := congrArg (fun dict => dict.items.map Prod.snd) same
  refine ⟨?_, ?_, ?_, prescribed, ?_, ?_⟩
  · rw [same]
    exact stored.keyed
  · rw [listed]
    exact stored.sequenced
  · rw [listed]
    exact stored.shaped
  · intro checkpoint member scheduled named present
    rw [listed] at member
    rcases signalled checkpoint member scheduled named present with before | published
    · exact kept checkpoint member scheduled named (stored.finished checkpoint member scheduled named before)
    · exact published
  · intro checkpoint member scheduled named
    rw [listed] at member
    exact kept checkpoint (List.dropLast_subset _ member) scheduled named
      (stored.settled checkpoint member scheduled named)

theorem Stored.putDescriptor (stored : Stored workstreamId files) (descriptor : Descriptor) :
    Stored workstreamId (putDescriptor descriptor files) :=
  stored.publish rfl ⟨stored.prescribed.results, stored.prescribed.evidence, stored.prescribed.events,
    stored.prescribed.signals⟩
    (fun _ _ _ _ published => ⟨published.result, published.evidence, published.event, published.signal⟩)
    (fun _ _ _ _ present => .inl present)

variable {checkpoint : Checkpoint} {scheduled : Scheduled}

theorem Stored.putResult (stored : Stored workstreamId files) (member : checkpoint ∈ history files)
    (named : checkpoint.scheduled = some scheduled) : Stored workstreamId
      { files with results := files.results.set checkpoint.checkpointId (checkpoint.result scheduled) } := by
  refine stored.publish rfl ⟨?_, stored.prescribed.evidence, stored.prescribed.events, stored.prescribed.signals⟩ ?_
    (fun _ _ _ _ present => .inl present)
  · intro key kept found
    rw [Dict.get_set] at found
    split at found
    · cases found
      exact ⟨checkpoint, member, scheduled, named, by simp_all, rfl⟩
    · exact stored.prescribed.results key kept found
  · intro other otherMember otherScheduled otherNamed published
    refine ⟨?_, published.evidence, published.event, published.signal⟩
    rw [Dict.get_set]
    split
    case isTrue same =>
      cases stored.unique other checkpoint otherMember member same
      cases named.symm.trans otherNamed
      rfl
    case isFalse _ => exact published.result

theorem Stored.putEvidence (stored : Stored workstreamId files) (member : checkpoint ∈ history files)
    (named : checkpoint.scheduled = some scheduled) : Stored workstreamId
      { files with evidence := files.evidence.set checkpoint.checkpointId checkpoint.evidence } := by
  refine stored.publish rfl ⟨stored.prescribed.results, ?_, stored.prescribed.events, stored.prescribed.signals⟩ ?_
    (fun _ _ _ _ present => .inl present)
  · intro key kept found
    rw [Dict.get_set] at found
    split at found
    · cases found
      exact ⟨checkpoint, member, scheduled, named, by simp_all, rfl⟩
    · exact stored.prescribed.evidence key kept found
  · intro other otherMember otherScheduled otherNamed published
    refine ⟨published.result, ?_, published.event, published.signal⟩
    rw [Dict.get_set]
    split
    case isTrue same =>
      cases stored.unique other checkpoint otherMember member same
      rfl
    case isFalse _ => exact published.evidence

theorem Stored.putEvent (stored : Stored workstreamId files) (member : checkpoint ∈ history files)
    (named : checkpoint.scheduled = some scheduled) (now : Int) : Stored workstreamId
      { files with events := files.events.set scheduled.eventId (checkpoint.event scheduled now) } := by
  refine stored.publish rfl ⟨stored.prescribed.results, stored.prescribed.evidence, ?_, stored.prescribed.signals⟩ ?_
    (fun _ _ _ _ present => .inl present)
  · intro key kept found
    rw [Dict.get_set] at found
    split at found
    · cases found
      exact ⟨checkpoint, member, scheduled, named, by simp_all, rfl⟩
    · exact stored.prescribed.events key kept found
  · intro other otherMember otherScheduled otherNamed published
    refine ⟨published.result, published.evidence, ?_, published.signal⟩
    rw [Dict.get_set]
    split
    case isTrue _ => exact Option.some_ne_none _
    case isFalse _ => exact published.event

theorem Stored.putSignal (stored : Stored workstreamId files) (member : checkpoint ∈ history files)
    (named : checkpoint.scheduled = some scheduled)
    (result : files.results.get? checkpoint.checkpointId = some (checkpoint.result scheduled))
    (evidence : files.evidence.get? checkpoint.checkpointId = some checkpoint.evidence)
    (event : files.events.get? scheduled.eventId ≠ none) (now : Int) : Stored workstreamId
      { files with signals := files.signals.set scheduled.eventId (checkpoint.signal scheduled now) } := by
  refine stored.publish rfl ⟨stored.prescribed.results, stored.prescribed.evidence, stored.prescribed.events, ?_⟩ ?_ ?_
  · intro key kept found
    rw [Dict.get_set] at found
    split at found
    · cases found
      exact ⟨checkpoint, member, scheduled, named, by simp_all, rfl⟩
    · exact stored.prescribed.signals key kept found
  · intro other otherMember otherScheduled otherNamed published
    refine ⟨published.result, published.evidence, published.event, ?_⟩
    rw [Dict.get_set]
    split
    case isTrue _ => exact Option.some_ne_none _
    case isFalse _ => exact published.signal
  · intro other otherMember otherScheduled otherNamed present
    rw [Dict.get_set] at present
    split at present
    case isTrue same =>
      cases stored.owner other checkpoint otherMember member otherScheduled scheduled otherNamed named same
      cases named.symm.trans otherNamed
      refine .inr ⟨result, evidence, event, ?_⟩
      rw [Dict.get_set, if_pos rfl]
      exact Option.some_ne_none _
    case isFalse _ => exact .inl present

theorem history_put (checkpoint : Checkpoint) (fresh : files.checkpoints.get? checkpoint.checkpointId = none) :
    history (putCheckpoint checkpoint files) = history files ++ [checkpoint] := by
  simp only [history, putCheckpoint, Dict.set_fresh_items files.checkpoints _ _ fresh, List.map_append, List.map_cons,
    List.map_nil]

theorem Stored.putCheckpoint (stored : Stored workstreamId files) (shaped : checkpoint.Shaped workstreamId)
    (fresh : files.checkpoints.get? checkpoint.checkpointId = none)
    (next : checkpoint.sequence = (history files).length + 1)
    (published : ∀ other ∈ history files, ∀ scheduled, other.scheduled = some scheduled →
      Published files other scheduled) : Stored workstreamId (putCheckpoint checkpoint files) := by
  have grown := history_put checkpoint fresh
  have kept : ∀ other ∈ history files, other ∈ history (Workstreams.putCheckpoint checkpoint files) := by
    intro other member
    rw [grown]
    exact List.mem_append_left _ member
  have carried : ∀ other scheduled, Published files other scheduled →
      Published (Workstreams.putCheckpoint checkpoint files) other scheduled :=
    fun _ _ old => ⟨old.result, old.evidence, old.event, old.signal⟩
  have prescribed := stored.prescribed
  refine ⟨?_, ?_, ?_, ⟨?_, ?_, ?_, ?_⟩, ?_, ?_⟩
  · intro item member
    simp only [Workstreams.putCheckpoint, Dict.set_fresh_items files.checkpoints _ _ fresh, List.mem_append,
      List.mem_singleton] at member
    rcases member with old | rfl
    · exact stored.keyed item old
    · rfl
  · rw [grown, List.map_append, List.length_append, stored.sequenced, List.map_cons, List.map_nil,
      List.length_singleton,
      List.range'_concat, next, Nat.add_comm]
    simp
  · intro other member
    rw [grown, List.mem_append, List.mem_singleton] at member
    rcases member with old | rfl
    · exact stored.shaped other old
    · exact shaped
  · intro key value found
    obtain ⟨other, member, rest⟩ := prescribed.results key value found
    exact ⟨other, kept other member, rest⟩
  · intro key value found
    obtain ⟨other, member, rest⟩ := prescribed.evidence key value found
    exact ⟨other, kept other member, rest⟩
  · intro key value found
    obtain ⟨other, member, rest⟩ := prescribed.events key value found
    exact ⟨other, kept other member, rest⟩
  · intro key value found
    obtain ⟨other, member, rest⟩ := prescribed.signals key value found
    exact ⟨other, kept other member, rest⟩
  · intro other member scheduled named present
    rw [grown, List.mem_append, List.mem_singleton] at member
    rcases member with old | rfl
    · exact carried other scheduled (published other old scheduled named)
    · obtain ⟨signal, found⟩ := Option.ne_none_iff_exists'.mp present
      obtain ⟨owner, ownerMember, ownerScheduled, ownerNamed, same, _⟩ := prescribed.signals _ _ found
      obtain ⟨_, ownerOperation, ownerEvent⟩ := (stored.shaped owner ownerMember).names _ ownerNamed
      obtain ⟨_, operation, event⟩ := shaped.names _ named
      have sameId : owner.checkpointId = other.checkpointId := by
        apply continuation_operation_id_inj workstreamId
        rw [← ownerOperation, ← operation]
        rw [ownerEvent, event] at same
        exact congrArg EventId.operationId same
      rw [← sameId, stored.found owner ownerMember] at fresh
      cases fresh
  · intro other member scheduled named
    rw [grown, List.dropLast_concat] at member
    exact carried other scheduled (published other member scheduled named)

end Records

section Moves

variable {workstreamId : String} {clock : Int} {files : Files} {descriptor : Descriptor} {applied : List Checkpoint}
  {pending : Option Checkpoint}

theorem wall_limit_later (descriptor : Descriptor) (first second : Int) (forward : first ≤ second)
    (passed : wallLimitReason descriptor first ≠ none) : wallLimitReason descriptor second ≠ none := by
  simp only [wallLimitReason] at passed ⊢
  cases limit : descriptor.maxWallSeconds with
  | none => simp [limit] at passed
  | some seconds =>
      simp only [limit] at passed ⊢
      split at passed
      case isTrue reached =>
        rw [if_pos (by omega)]
        exact Option.some_ne_none _
      case isFalse _ => exact absurd rfl passed

theorem Accounts.later {second : Int} (accounts : Accounts clock descriptor applied) (forward : clock ≤ second) :
    Accounts second descriptor applied :=
  { accounts with
    authorized := fun checkpoint last continues =>
      (accounts.authorized checkpoint last continues).imp id (wall_limit_later descriptor clock second forward) }

theorem Recorded.later {second : Int} (recorded : Recorded workstreamId clock files descriptor applied pending)
    (forward : clock ≤ second) : Recorded workstreamId second files descriptor applied pending :=
  { recorded with accounts := recorded.accounts.later forward }

theorem Recorded.restore {files' : Files} (recorded : Recorded workstreamId clock files descriptor applied pending)
    (stored : Stored workstreamId files') (same : files'.descriptor = files.descriptor)
    (listed : files'.checkpoints = files.checkpoints) :
    Recorded workstreamId clock files' descriptor applied pending :=
  ⟨same.trans recorded.current, (congrArg (fun dict => dict.items.map Prod.snd) listed).trans recorded.split, stored,
    recorded.accounts, recorded.opened⟩

theorem Recorded.pending_sequence {checkpoint : Checkpoint}
    (recorded : Recorded workstreamId clock files descriptor applied (some checkpoint)) :
    checkpoint.sequence = descriptor.checkpointCount + 1 := by
  have split := recorded.split
  rw [recorded.accounts.count]
  exact recorded.stored.sequence_eq applied.length checkpoint (by rw [split]; simp)

theorem Recorded.apply {checkpoint : Checkpoint}
    (recorded : Recorded workstreamId clock files descriptor applied (some checkpoint)) :
    Recorded workstreamId clock (putDescriptor (descriptor.accept checkpoint) files) (descriptor.accept checkpoint)
      (applied ++ [checkpoint]) none := by
  have next := recorded.pending_sequence
  have shaped : checkpoint.Shaped workstreamId := recorded.stored.shaped checkpoint (by rw [recorded.split]; simp)
  have opened := recorded.opened checkpoint rfl
  have accounts := recorded.accounts
  refine ⟨rfl, ?_, recorded.stored.putDescriptor _, ⟨?_, rfl, ?_, ?_, ?_, ?_⟩, fun _ none => (by cases none)⟩
  · rw [Option.toList_none, List.append_nil]
    exact recorded.split
  · simp only [Descriptor.accept, next, accounts.count, List.length_append, List.length_singleton]
  · simp only [Descriptor.accept, accounts.counted, List.countP_append, List.countP_cons, List.countP_nil, Nat.zero_add]
  · intro limit limited
    simp only [Descriptor.accept] at limited ⊢
    split
    case isTrue automatic => exact opened.room automatic limit limited
    case isFalse _ => exact accounts.within limit limited
  · intro active granted
    simp only [Descriptor.accept] at granted ⊢
    refine ⟨?_, checkpoint, List.getLast?_concat, granted⟩
    obtain ⟨scheduled, named, _⟩ := Option.map_eq_some_iff.mp granted
    rw [(shaped.names _ named).1]
    rfl
  · intro last isLast continues
    rw [List.getLast?_concat] at isLast
    cases isLast
    refine .inl ⟨?_, rfl⟩
    simp only [Descriptor.accept, continues, Decision.status]

theorem Recorded.rewrite {rewritten : Descriptor} (recorded : Recorded workstreamId clock files descriptor applied none)
    (accounts : Accounts clock rewritten applied) :
    Recorded workstreamId clock (putDescriptor rewritten files) rewritten applied none :=
  ⟨rfl, recorded.split, recorded.stored.putDescriptor _, accounts, fun _ none => (by cases none)⟩

end Moves

end OrchestratorEngine.Workstreams
