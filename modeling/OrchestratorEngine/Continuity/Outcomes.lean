import OrchestratorEngine.ResourceAdapters.Values

set_option autoImplicit false

namespace OrchestratorEngine.Continuity.Outcomes

open Foundation
open ResourceAdapters (Json Text lit surrogate)

inductive Fault where
  | integrity | unicodeError
deriving DecidableEq, Repr

abbrev Fields := List (Text × Json)

-- A digest is kept as what it is taken of. The last text is the one that
-- json.dumps writes with sorted keys.
inductive Digest where
  | current (source status identity : Text)
  | legacy (source status data : Text)
deriving DecidableEq, Repr

structure Call where
  source : Text
  status : Text
  eventId : Option Text := none
  data : Fields
  now : Int := 0

structure Row where
  outcomeId : Digest
  sourceKey : Text
  status : Text
  eventId : Option Text
  digest : Digest
  data : Fields
  recordedAt : Int

def Row.mark (row : Row) : Text × Digest := (row.sourceKey, row.digest)

structure Results where
  rows : List Row
  distinct : (rows.map Row.outcomeId).Nodup
  unique : (rows.map Row.mark).Nodup

def Results.empty : Results := ⟨[], List.nodup_nil, List.nodup_nil⟩

def checked (rows : List Row) : Except Fault Results :=
  if valid : (rows.map Row.outcomeId).Nodup ∧ (rows.map Row.mark).Nodup then .ok ⟨rows, valid.1, valid.2⟩
  else .error .integrity

mutual

def encodable : Json → Bool
  | .str text => !text.any surrogate
  | .arr items => encodableItems items
  | .obj fields => encodableFields fields
  | _ => true

def encodableItems : List Json → Bool
  | [] => true
  | item :: rest => encodable item && encodableItems rest

def encodableFields : List (Text × Json) → Bool
  | [] => true
  | (name, item) :: rest => !name.any surrogate && encodable item && encodableFields rest

end

def Call.encodable (call : Call) : Bool :=
  !call.source.any surrogate && !call.status.any surrogate && !(call.eventId.getD []).any surrogate &&
    encodableFields call.data

def resultSha256 (data : Fields) : Option Text :=
  match Json.item "result" data with
  | .obj result =>
      match Json.item "sha256" result with
      | .str sha256 => some sha256
      | _ => none
  | _ => none

def referenceIdentity (data : Fields) : Option Fields :=
  match Json.item "result_reference" data with
  | .obj reference => some (["content_sha256", "reference_sha256", "value"].filterMap fun key =>
      match Json.item key reference with
      | .null => none
      | value => some (lit key, value))
  | _ => none

def named (eventId : Option Text) : Option Text := eventId.filter fun text => decide (text ≠ [])

def identityOf (data : Fields) (eventId : Option Text) : Fields :=
  match resultSha256 data, referenceIdentity data, named eventId with
  | some sha256, _, _ => [(lit "result_sha256", .str sha256)]
  | none, some reference, _ => reference
  | none, none, some event => [(lit "event_id", .str event)]
  | none, none, none => data

def outcomeHasStableAnchor (data : Fields) (eventId : Option Text) : Bool :=
  (resultSha256 data).isSome || (referenceIdentity data).any (fun identity => !identity.isEmpty) ||
  (named eventId).isSome

section Recording

variable (dumps : Json → Text)

def Call.digest (call : Call) : Digest :=
  .current call.source call.status (dumps (.obj (identityOf call.data call.eventId)))

def Call.legacyDigest (call : Call) : Digest := .legacy call.source call.status (dumps (.obj call.data))

def byRecording (rows : List Row) : List Row :=
  rows.insertionSort fun first second => first.recordedAt ≤ second.recordedAt

-- A row with the digest, or the only one of its source and status where that
-- one has no stable anchor.
def recordedRow (call : Call) (rows : List Row) : Option Row :=
  let digests := [call.digest dumps, call.legacyDigest dumps]
  match byRecording (rows.filter fun row => decide (row.sourceKey = call.source ∧ row.digest ∈ digests)) with
  | row :: _ => some row
  | [] =>
      match rows.filter fun row => decide (row.sourceKey = call.source ∧ row.status = call.status) with
      | [row] => if outcomeHasStableAnchor row.data row.eventId then none else some row
      | _ => none

def enrich (outcomeId : Digest) (call : Call) (row : Row) : Row :=
  if row.outcomeId = outcomeId then
    { row with digest := call.digest dumps, eventId := row.eventId.orElse fun _ => call.eventId, data := call.data }
  else row

def Call.row (call : Call) : Row :=
  ⟨call.digest dumps, call.source, call.status, call.eventId, call.digest dumps, call.data, call.now⟩

def recordResult (call : Call) (results : Results) : Except Fault ((Bool × Digest) × Results) := do
  refuse (call.encodable = false) .unicodeError
  match recordedRow dumps call results.rows with
  | some row => do
      let next ← checked (results.rows.map (enrich dumps row.outcomeId call))
      return ((false, row.outcomeId), next)
  | none => do
      let next ← checked (results.rows ++ [call.row dumps])
      return ((true, call.digest dumps), next)

end Recording

def Results.Normalized (results : Results) : Prop :=
  ∀ row ∈ results.rows, ∃ status identity, row.digest = .current row.sourceKey status identity

section Rows

variable {dumps : Json → Text} {call : Call} {results next : Results}

theorem checked_ok (rows : List Row) : checked rows = .ok next ↔
    next.rows = rows ∧ (rows.map Row.outcomeId).Nodup ∧ (rows.map Row.mark).Nodup := by
  unfold checked
  split
  · rename_i valid
    constructor
    · intro done
      cases done
      exact ⟨rfl, valid⟩
    · rintro ⟨rfl, -⟩
      rfl
  · rename_i wrong
    constructor
    · nofun
    · rintro ⟨-, valid⟩
      exact absurd valid wrong

theorem same_row {row other : Row} (listed : row ∈ results.rows) (also : other ∈ results.rows)
    (same : other.outcomeId = row.outcomeId) : other = row :=
  List.inj_on_of_nodup_map results.distinct also listed same

theorem same_mark {row other : Row} (listed : row ∈ results.rows) (also : other ∈ results.rows)
    (source : other.sourceKey = row.sourceKey) (digest : other.digest = row.digest) : other = row :=
  List.inj_on_of_nodup_map results.unique also listed (Prod.ext source digest)

theorem recorded_row_cases (normalized : results.Normalized) {row : Row}
    (found : recordedRow dumps call results.rows = some row) :
    row ∈ results.rows ∧ row.sourceKey = call.source ∧ (row.digest = call.digest dumps ∨
      ∀ other ∈ results.rows, other.sourceKey = call.source → other.digest ≠ call.digest dumps) := by
  unfold recordedRow at found
  dsimp only at found
  split at found
  · rename_i first rest split
    cases found
    have listed : row ∈ byRecording _ := split ▸ List.mem_cons_self
    obtain ⟨member, facts⟩ := List.mem_filter.mp ((List.mem_insertionSort _).mp listed)
    obtain ⟨source, digest⟩ := of_decide_eq_true facts
    refine ⟨member, source, .inl ?_⟩
    obtain ⟨status, identity, current⟩ := normalized row member
    rcases List.mem_cons.mp digest with same | legacy
    · exact same
    · rw [List.mem_singleton.mp legacy] at current
      cases current
  · rename_i none
    have nobody : ∀ other ∈ results.rows, other.sourceKey = call.source → other.digest ≠ call.digest dumps := by
      intro other listed source same
      have kept : other ∈ byRecording (results.rows.filter fun row =>
          decide (row.sourceKey = call.source ∧ row.digest ∈ [call.digest dumps, call.legacyDigest dumps])) :=
        (List.mem_insertionSort _).mpr (List.mem_filter.mpr ⟨listed, decide_eq_true ⟨source, by simp [same]⟩⟩)
      rw [none] at kept
      cases kept
    split at found
    · rename_i only split
      split at found
      · cases found
      · cases found
        have listed : row ∈ results.rows.filter fun row =>
          decide (row.sourceKey = call.source ∧ row.status = call.status) :=
          split ▸ List.mem_cons_self
        obtain ⟨member, facts⟩ := List.mem_filter.mp listed
        exact ⟨member, (of_decide_eq_true facts).1, .inr nobody⟩
    · cases found

theorem recorded_row_none (missing : recordedRow dumps call results.rows = none) :
    ∀ other ∈ results.rows, other.sourceKey = call.source → other.digest ≠ call.digest dumps := by
  intro other listed source same
  unfold recordedRow at missing
  dsimp only at missing
  split at missing
  · cases missing
  · rename_i none
    have kept : other ∈ byRecording (results.rows.filter fun row =>
        decide (row.sourceKey = call.source ∧ row.digest ∈ [call.digest dumps, call.legacyDigest dumps])) :=
      (List.mem_insertionSort _).mpr (List.mem_filter.mpr ⟨listed, decide_eq_true ⟨source, by simp [same]⟩⟩)
    rw [none] at kept
    cases kept

@[simp] theorem enrich_id (outcomeId : Digest) (row : Row) :
    (enrich dumps outcomeId call row).outcomeId = row.outcomeId := by
  unfold enrich
  split <;> rfl

@[simp] theorem enrich_source (outcomeId : Digest) (row : Row) :
    (enrich dumps outcomeId call row).sourceKey = row.sourceKey := by
  unfold enrich
  split <;> rfl

@[simp] theorem enrich_status (outcomeId : Digest) (row : Row) :
    (enrich dumps outcomeId call row).status = row.status := by
  unfold enrich
  split <;> rfl

@[simp] theorem enrich_recorded (outcomeId : Digest) (row : Row) :
    (enrich dumps outcomeId call row).recordedAt = row.recordedAt := by
  unfold enrich
  split <;> rfl

theorem enrich_digest (outcomeId : Digest) (row : Row) : (enrich dumps outcomeId call row).digest =
    if row.outcomeId = outcomeId then call.digest dumps else row.digest := by
  unfold enrich
  split <;> rfl

theorem enriched_ok (normalized : results.Normalized) {row : Row}
    (found : recordedRow dumps call results.rows = some row) :
    ∃ next, checked (results.rows.map (enrich dumps row.outcomeId call)) = .ok next ∧
      next.rows = results.rows.map (enrich dumps row.outcomeId call) := by
  obtain ⟨listed, source, digest⟩ := recorded_row_cases normalized found
  have ids : (results.rows.map (enrich dumps row.outcomeId call)).map Row.outcomeId = results.rows.map
    Row.outcomeId := by
    rw [List.map_map]
    exact List.map_congr_left fun other _ => enrich_id _ other
  have rows : results.rows.Nodup := List.Nodup.of_map _ results.distinct
  have distinct : ((results.rows.map (enrich dumps row.outcomeId call)).map Row.outcomeId).Nodup :=
    ids ▸ results.distinct
  have unique : ((results.rows.map (enrich dumps row.outcomeId call)).map Row.mark).Nodup := by
    rw [List.map_map]
    refine List.Nodup.map_on ?_ rows
    intro first one second two same
    obtain ⟨sources, digests⟩ := Prod.ext_iff.mp same
    simp only [Function.comp_apply, Row.mark, enrich_source, enrich_digest] at sources digests
    by_cases left : first.outcomeId = row.outcomeId
    · by_cases right : second.outcomeId = row.outcomeId
      · exact (same_row listed one left).trans (same_row listed two right).symm
      · rw [if_pos left, if_neg right] at digests
        have fromSame := same_row listed one left
        subst fromSame
        rcases digest with already | nobody
        · exact (same_mark one two sources.symm (digests.symm.trans already.symm)).symm
        · exact absurd digests.symm (nobody second two (sources.symm.trans source))
    · by_cases right : second.outcomeId = row.outcomeId
      · rw [if_neg left, if_pos right] at digests
        have fromSame := same_row listed two right
        subst fromSame
        rcases digest with already | nobody
        · exact same_mark two one sources (digests.trans already.symm)
        · exact absurd digests (nobody first one (sources.trans source))
      · rw [if_neg left, if_neg right] at digests
        exact same_mark two one sources digests
  exact ⟨⟨_, distinct, unique⟩, (checked_ok _).mpr ⟨rfl, distinct, unique⟩, rfl⟩

theorem inserted_ok (missing : recordedRow dumps call results.rows = none) :
    (∃ next, checked (results.rows ++ [call.row dumps]) = .ok next) ↔
      ∀ row ∈ results.rows, row.outcomeId ≠ call.digest dumps := by
  constructor
  · rintro ⟨next, done⟩ row listed same
    obtain ⟨-, distinct, -⟩ := (checked_ok _).mp done
    rw [List.map_append, List.nodup_append] at distinct
    exact distinct.2.2 _ (List.mem_map_of_mem listed) _ (List.mem_singleton_self _) same
  · intro fresh
    have distinct : ((results.rows ++ [call.row dumps]).map Row.outcomeId).Nodup := by
      rw [List.map_append, List.nodup_append]
      refine ⟨results.distinct, List.nodup_singleton _, ?_⟩
      intro outcomeId known other new same
      obtain ⟨row, listed, rfl⟩ := List.mem_map.mp known
      exact fresh row listed (same.trans (List.mem_singleton.mp new))
    have unique : ((results.rows ++ [call.row dumps]).map Row.mark).Nodup := by
      rw [List.map_append, List.nodup_append]
      refine ⟨results.unique, List.nodup_singleton _, ?_⟩
      intro mark known other new same
      obtain ⟨row, listed, rfl⟩ := List.mem_map.mp known
      obtain ⟨source, digest⟩ := Prod.ext_iff.mp (same.trans (List.mem_singleton.mp new))
      exact recorded_row_none missing row listed source digest
    exact ⟨⟨_, distinct, unique⟩, (checked_ok _).mpr ⟨rfl, distinct, unique⟩⟩

end Rows

-- A call that can be carried out: its texts can be written, and a row that it
-- would insert has an identity that no row was created under.
structure Clear (dumps : Json → Text) (results : Results) (call : Call) (_later : List Call) : Prop where
  writable : call.encodable = true
  fresh : recordedRow dumps call results.rows = none → ∀ row ∈ results.rows, row.outcomeId ≠ call.digest dumps

def Kept (before after : Results) : Prop :=
  ∀ row ∈ before.rows, ∃ kept ∈ after.rows, kept.outcomeId = row.outcomeId ∧ kept.sourceKey = row.sourceKey ∧
    kept.status = row.status ∧ kept.recordedAt = row.recordedAt

theorem Kept.refl (results : Results) : Kept results results := fun row listed => ⟨row, listed, rfl, rfl, rfl, rfl⟩

theorem Kept.trans {first second third : Results} (lower : Kept first second) (upper : Kept second third) :
    Kept first third := by
  intro row listed
  obtain ⟨middle, here, id, source, status, recorded⟩ := lower row listed
  obtain ⟨last, there, id', source', status', recorded'⟩ := upper middle here
  exact ⟨last, there, id'.trans id, source'.trans source, status'.trans status, recorded'.trans recorded⟩

section Recordings

variable {dumps : Json → Text} {call : Call} {results next : Results} {answer : Bool × Digest}

inductive Done (dumps : Json → Text) (call : Call) (results : Results) : Bool × Digest → Results → Prop where
  | enriched (row : Row) (next : Results) (found : recordedRow dumps call results.rows = some row)
      (rows : next.rows = results.rows.map (enrich dumps row.outcomeId call)) :
      Done dumps call results (false, row.outcomeId) next
  | inserted (next : Results) (missing : recordedRow dumps call results.rows = none)
      (rows : next.rows = results.rows ++ [call.row dumps]) : Done dumps call results (true, call.digest dumps) next

theorem record_result_done (done : recordResult dumps call results = .ok (answer, next)) :
    Done dumps call results answer next := by
  unfold recordResult at done
  obtain ⟨_, -, done⟩ := (bind_ok_iff _ _ _).mp done
  cases found : recordedRow dumps call results.rows with
  | some row =>
      rw [found] at done
      obtain ⟨after, written, done⟩ := (bind_ok_iff _ _ _).mp done
      cases done
      exact .enriched row next found ((checked_ok _).mp written).1
  | none =>
      rw [found] at done
      obtain ⟨after, written, done⟩ := (bind_ok_iff _ _ _).mp done
      cases done
      exact .inserted next found ((checked_ok _).mp written).1

theorem record_result_returns (normalized : results.Normalized) (later : List Call) :
    (∃ done, recordResult dumps call results = .ok done) ↔ Clear dumps results call later := by
  unfold recordResult
  simp only [bind_ok_iff, refuse_ok_iff, Bool.not_eq_false]
  constructor
  · rintro ⟨done, _, writable, ran⟩
    refine ⟨writable, fun missing => (inserted_ok missing).mp ?_⟩
    rw [missing] at ran
    obtain ⟨after, written, -⟩ := (bind_ok_iff _ _ _).mp ran
    exact ⟨after, written⟩
  · rintro ⟨writable, fresh⟩
    cases found : recordedRow dumps call results.rows with
    | some row =>
        obtain ⟨after, written, -⟩ := enriched_ok normalized found
        exact ⟨((false, row.outcomeId), after), (), writable, by dsimp only; rw [written]; rfl⟩
    | none =>
        obtain ⟨after, written⟩ := (inserted_ok found).mpr (fresh found)
        exact ⟨((true, call.digest dumps), after), (), writable, by dsimp only; rw [written]; rfl⟩

theorem Done.kept (done : Done dumps call results answer next) : Kept results next := by
  intro row listed
  cases done with
  | enriched found next _ rows =>
      exact ⟨enrich dumps found.outcomeId call row, rows ▸ List.mem_map_of_mem listed, enrich_id _ _, enrich_source _ _,
        enrich_status _ _, enrich_recorded _ _⟩
  | inserted next _ rows => exact ⟨row, rows ▸ List.mem_append_left _ listed, rfl, rfl, rfl, rfl⟩

theorem Done.normalized (done : Done dumps call results answer next) (normalized : results.Normalized) :
    next.Normalized := by
  intro row listed
  cases done with
  | enriched found next recorded rows =>
      rw [rows] at listed
      obtain ⟨before, known, rfl⟩ := List.mem_map.mp listed
      rw [enrich_source, enrich_digest]
      split
      · rename_i same
        obtain ⟨member, source, -⟩ := recorded_row_cases normalized recorded
        rw [same_row member known same, source]
        exact ⟨_, _, rfl⟩
      · exact normalized before known
  | inserted next _ rows =>
      rw [rows] at listed
      rcases List.mem_append.mp listed with known | new
      · exact normalized row known
      · rw [List.mem_singleton.mp new]
        exact ⟨_, _, rfl⟩

theorem Done.holder (done : Done dumps call results answer next) (normalized : results.Normalized) :
    ∃ row ∈ next.rows, row.outcomeId = answer.2 ∧ row.sourceKey = call.source ∧ row.digest = call.digest dumps := by
  cases done with
  | enriched found next recorded rows =>
      obtain ⟨member, source, -⟩ := recorded_row_cases normalized recorded
      refine ⟨enrich dumps found.outcomeId call found, rows ▸ List.mem_map_of_mem member, enrich_id _ _,
        (enrich_source _ _).trans source, ?_⟩
      rw [enrich_digest, if_pos rfl]
  | inserted next _ rows =>
      exact ⟨call.row dumps, rows ▸ List.mem_append_right _ (List.mem_singleton_self _), rfl, rfl, rfl⟩

theorem record_result_again (normalized : results.Normalized)
    (done : recordResult dumps call results = .ok (answer, next))
    (now : Int) : ∃ again, recordResult dumps { call with now } next = .ok ((false, answer.2), again) := by
  have steady := record_result_done done
  have settled := steady.normalized normalized
  obtain ⟨holder, listed, id, source, digest⟩ := steady.holder normalized
  have writable : call.encodable = true := ((record_result_returns normalized []).mp ⟨_, done⟩).writable
  cases found : recordedRow dumps { call with now } next.rows with
  | none => exact absurd digest (recorded_row_none found holder listed source)
  | some row =>
      obtain ⟨member, from_, shared⟩ := recorded_row_cases settled found
      have same : row = holder := by
        rcases shared with already | nobody
        · exact same_mark listed member (from_.trans source.symm) (already.trans digest.symm)
        · exact absurd digest (nobody holder listed source)
      have clear : Clear dumps next { call with now } [] := ⟨writable, fun missing => by cases found.symm.trans missing⟩
      obtain ⟨⟨given, after⟩, ran⟩ := (record_result_returns settled []).mpr clear
      have outcome := record_result_done ran
      cases outcome with
      | enriched again _ also _ =>
          cases found.symm.trans also
          rw [← id, ← same]
          exact ⟨after, ran⟩
      | inserted _ missing _ => cases found.symm.trans missing

end Recordings

-- One call after another; a call that raises ends the run.
def recorded (dumps : Json → Text) (results : Results) (call : Call) : Except Fault Results := do
  let (_, next) ← recordResult dumps call results
  return next

-- No call of the sequence raises, each could be repeated at once to no effect
-- but its own answer, and nothing is lost on the way.
def Safe (dumps : Json → Text) (calls : List Call) (start : Results) : Prop :=
  ∃ final, calls.foldlM (recorded dumps) start = .ok final ∧ Kept start final ∧
    Along (recorded dumps) (fun results call _ => ∃ answer next, recordResult dumps call results = .ok (answer, next) ∧
      ∀ now : Int, ∃ again, recordResult dumps { call with now } next = .ok ((false, answer.2), again)) calls start

theorem recorded_ok {dumps : Json → Text} {call : Call} {results next : Results} :
    recorded dumps results call = .ok next ↔ ∃ answer, recordResult dumps call results = .ok (answer, next) := by
  unfold recorded
  rw [bind_ok_iff]
  constructor
  · rintro ⟨⟨answer, after⟩, done, same⟩
    cases same
    exact ⟨answer, done⟩
  · rintro ⟨answer, done⟩
    exact ⟨(answer, next), done, rfl⟩

theorem recordings_safe (dumps : Json → Text) (calls : List Call) (start : Results) (normalized : start.Normalized) :
    Safe dumps calls start ↔ Along (recorded dumps) (Clear dumps) calls start := by
  induction calls generalizing start with
  | nil => exact ⟨fun _ => trivial, fun _ => ⟨start, rfl, .refl start, trivial⟩⟩
  | cons call rest ih =>
      constructor
      · rintro ⟨final, done, -, ⟨answer, next, ran, again⟩, later⟩
        have taken : recorded dumps start call = .ok next := recorded_ok.mpr ⟨answer, ran⟩
        have steady := record_result_done ran
        refine ⟨(record_result_returns normalized rest).mp ⟨_, ran⟩, fun other same => ?_⟩
        cases taken.symm.trans same
        obtain ⟨middle, first, onward⟩ := (fold_cons_ok call rest start final).mp done
        cases taken.symm.trans first
        have lasting : Kept next final := by
          refine fold_kept Kept .refl .trans (fun before item after step => ?_) rest next final onward
          obtain ⟨given, done⟩ := recorded_ok.mp step
          exact (record_result_done done).kept
        exact (ih next (steady.normalized normalized)).mp ⟨final, onward, lasting, later next taken⟩
      · rintro ⟨clear, later⟩
        obtain ⟨⟨answer, next⟩, ran⟩ := (record_result_returns normalized rest).mpr clear
        have taken : recorded dumps start call = .ok next := recorded_ok.mpr ⟨answer, ran⟩
        have steady := record_result_done ran
        obtain ⟨final, onward, kept, along⟩ := (ih next (steady.normalized normalized)).mpr (later next taken)
        refine ⟨final, (fold_cons_ok call rest start final).mpr ⟨next, taken, onward⟩, steady.kept.trans kept,
          ⟨answer, next, ran, record_result_again normalized ran⟩, fun other same => ?_⟩
        cases taken.symm.trans same
        exact along

theorem empty_normalized : Results.empty.Normalized := fun _ listed => absurd listed List.not_mem_nil

section Reported

mutual

def written : Json → Text
  | .str text => lit "\"" ++ text ++ lit "\""
  | .arr items => lit "[" ++ writtenItems items ++ lit "]"
  | .obj fields => lit "\x7b" ++ writtenFields fields ++ lit "\x7d"
  | .bool true => lit "true"
  | .bool false => lit "false"
  | .int value => lit (toString value)
  | _ => lit "null"

def writtenItems : List Json → Text
  | [] => []
  | [item] => written item
  | item :: rest => written item ++ lit "," ++ writtenItems rest

def writtenFields : List (Text × Json) → Text
  | [] => []
  | [(name, item)] => lit "\"" ++ name ++ lit "\":" ++ written item
  | (name, item) :: rest => lit "\"" ++ name ++ lit "\":" ++ written item ++ lit "," ++ writtenFields rest

end

def transported : Call where
  source := lit "check:c"
  status := lit "failed"
  data := [(lit "transport_observation", .obj [(lit "state", .str (lit "missing"))])]

def retained : Call where
  source := lit "check:c"
  status := lit "failed"
  data := [(lit "result", .obj [(lit "sha256", .str (lit "aa"))])]

theorem recordings_safe_enriched : Safe written [transported, retained, retained] .empty := by
  refine (recordings_safe written _ .empty empty_normalized).mpr
    ⟨⟨rfl, fun _ _ listed => absurd listed List.not_mem_nil⟩, fun first done => ?_⟩
  have inserted : first.rows = [transported.row written] := by
    cases done
    rfl
  have found : recordedRow written retained first.rows = some (transported.row written) := by
    rw [inserted]
    rfl
  refine ⟨⟨rfl, fun missing => absurd (found.symm.trans missing) nofun⟩, fun second done => ?_⟩
  obtain ⟨_, ran⟩ := recorded_ok.mp done
  obtain ⟨holder, listed, _, source, digest⟩ := (record_result_done ran).holder
    (by rw [Results.Normalized, inserted]; simp [Call.row, Call.digest])
  exact ⟨⟨rfl, fun missing => absurd digest (recorded_row_none missing holder listed source)⟩, fun _ _ => trivial⟩

theorem enriched_row_collides :
    [transported, retained, transported].foldlM (recorded written) .empty = .error .integrity ∧
      ¬ Safe written [transported, retained, transported] .empty := by
  have collides : [transported, retained, transported].foldlM (recorded written) .empty = .error .integrity := by rfl
  refine ⟨collides, ?_⟩
  rintro ⟨final, done, -⟩
  cases collides.symm.trans done

end Reported

end OrchestratorEngine.Continuity.Outcomes
