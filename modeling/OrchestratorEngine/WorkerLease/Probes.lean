import OrchestratorEngine.Foundation.Outcome
import OrchestratorEngine.WorkerLease.ProcStat

set_option autoImplicit false

namespace OrchestratorEngine.WorkerLease

open Foundation

inductive Liveness where
  | unknown
  | gone
  | alive
deriving DecidableEq, Repr

structure Verdict where
  state : Liveness
  identityVerified : Bool := false
  observed : Option Observed := none
  reason : Option String := none
deriving DecidableEq, Repr

def zombieState : List Nat := [90]

section Table

variable (bootId : Option String) (table : Nat → Int → Reading)

-- A process that is not identified is looked up once more, to tell a missing
-- process from an unreadable table.
def unidentified (now : Nat) (pid : Int) : Except StatFault Verdict := do
  let again ← processIdentityProbe bootId pid (table (now + 1) pid)
  return if again = .unknown then { state := .unknown, reason := some "process_identity_unavailable" }
    else { state := .gone }

def identityState (now : Nat) (recorded : Option Identity) : Except StatFault Verdict :=
  match recorded with
  | none => .ok { state := .unknown }
  | some recorded =>
      match recorded.pid, recorded.startTicks with
      | some pid, some _ =>
          if recorded.source.getD identitySource ≠ identitySource then
            .ok { state := .unknown, reason := some "foreign_process_identity" }
          else do
            let probe ← processIdentityProbe bootId pid (table now pid)
            match probe.identity with
            | none => unidentified bootId table now pid
            | some observed =>
                return if identityMatches (some recorded) (some observed.identity) = false then
                    { state := .gone, observed := some observed }
                  else if observed.state = zombieState then
                    { state := .gone, identityVerified := true, observed := some observed }
                  else { state := .alive, identityVerified := true, observed := some observed }
      | _, _ => .ok { state := .unknown }

def pidState (now : Nat) (pid : Option Int) : Except StatFault Verdict :=
  match pid with
  | none => .ok { state := .unknown }
  | some pid =>
      if pid ≤ 0 then .ok { state := .unknown }
      else do
        let probe ← processIdentityProbe bootId pid (table now pid)
        match probe.identity with
        | none => unidentified bootId table now pid
        | some observed =>
            return if observed.state = zombieState then { state := .gone, observed := some observed }
              else { state := .alive, observed := some observed }

end Table

inductive Client (α : Type) where
  | done (result : α)
  | identityState (recorded : Option Identity) (next : Verdict → Client α)
  | pidState (pid : Option Int) (next : Verdict → Client α)
  | processIdentity (pid : Int) (next : Option Observed → Client α)

def Client.run {α : Type} (bootId : Option String) (table : Nat → Int → Reading) (now : Nat) :
    Client α → Except StatFault α
  | .done result => .ok result
  | .identityState recorded next => do
      let verdict ← WorkerLease.identityState bootId table now recorded
      (next verdict).run bootId table (now + 2)
  | .pidState pid next => do
      let verdict ← WorkerLease.pidState bootId table now pid
      (next verdict).run bootId table (now + 2)
  | .processIdentity pid next => do
      let probe ← processIdentityProbe bootId pid (table now pid)
      (next probe.identity).run bootId table (now + 2)

inductive StopOutcome where
  | noWorkerRecorded
  | refusedIdentityUnavailable
  | refusedNoIdentityToken
  | refusedIdentityMismatch
  | alreadyExited
  | stoppedOnSigterm
  | killed
  | killNotConfirmed
deriving DecidableEq, Repr

structure SentSignal where
  signal : String
  scope : String
  sentAt : String
deriving DecidableEq, Repr

structure StopLedger where
  reason : String
  scope : String := "process"
  processGroup : Option Int := none
  graceSeconds : Rat
  escalated : Bool := false
  exited : Bool := true
  identityVerified : Bool := false
  signals : List SentSignal := []
  stopOutcome : StopOutcome := .noWorkerRecorded
  descendantSweep : Option String := none
deriving DecidableEq, Repr

-- What the attempt meets: which signals the system delivers and when, and the polls each deadline leaves time for.
structure Attempt where
  delivers : String → Option String
  gracePolls : Nat
  timeoutPolls : Nat

section Stopping

variable {α : Type}

def waitUntilGone (identity : Option Identity) (next : Bool → Client α) : Nat → Client α
  | 0 => .identityState identity fun verdict => next (decide (verdict.state = .gone))
  | polls + 1 => .identityState identity fun verdict =>
      if verdict.state = .gone then next true else waitUntilGone identity next polls

def deliver (attempt : Attempt) (pid : Int) (identity : Option Identity) (sent : String) (ledger : StopLedger)
    (next : StopLedger → Client α) : Client α :=
  .processIdentity pid fun observed =>
    if identityMatches identity (observed.map Observed.identity) = false then next ledger
    else
      match attempt.delivers sent with
      | none => next ledger
      | some sentAt => next { ledger with signals := ledger.signals ++ [⟨sent, ledger.scope, sentAt⟩] }

end Stopping

def stopWorkerTree (attempt : Attempt) (workerPid workerPgid : Option Int) (workerIdentity : Option Identity)
    (reason : String)
    (graceSeconds : Rat) : Client StopLedger :=
  let ledger : StopLedger := { reason, graceSeconds }
  match workerPid with
  | none => .done ledger
  | some pid => .identityState workerIdentity fun verdict =>
      match verdict.state with
      | .unknown => .pidState (some pid) fun occupied => .done { ledger with
          stopOutcome := if verdict.reason = some "process_identity_unavailable" then .refusedIdentityUnavailable
            else .refusedNoIdentityToken
          exited := decide (occupied.state = .gone) }
      | .gone => .done { ledger with
          stopOutcome := if verdict.observed.isSome then .refusedIdentityMismatch else .alreadyExited }
      | .alive =>
          let verified := { ledger with identityVerified := true, exited := false }
          let aimed := if workerPgid = some pid then
              { verified with scope := "process_group", processGroup := some pid }
            else verified
          deliver attempt pid workerIdentity "SIGTERM" aimed fun asked =>
            waitUntilGone workerIdentity (fun gone =>
              if gone then .done { asked with
                exited := true
                stopOutcome := .stoppedOnSigterm
                descendantSweep := some "skipped_unverifiable_group" }
              else deliver attempt pid workerIdentity "SIGKILL" { asked with escalated := true } fun forced =>
                waitUntilGone workerIdentity (fun exited => .done { forced with
                  exited
                  stopOutcome := if exited then .killed else .killNotConfirmed }) attempt.timeoutPolls)
              attempt.gracePolls

theorem probe_line (bootId : Option String) (line : StatLine) (positive : 0 < line.pid) :
    processIdentityProbe bootId line.pid (.line line.raw) =
      match Utf8.decode line.octets with
      | none => .error .unicodeDecodeError
      | some _ => .ok (.present {
          identity := {
            source := some identitySource, pid := some line.pid, startTicks := some line.startTicks, bootId }
          state := [line.state] }) := by
  have pid : ¬ (line.pid : Int) ≤ 0 := by omega
  rw [processIdentityProbe, if_neg pid]
  simp only [line.decode_raw]
  cases Utf8.decode line.octets with
  | none => rfl
  | some name =>
      have counted := line.fields
      have start := line.number_field 18 (by unfold procStatStarttimeIndex at counted; omega)
      have closed : 41 ∉ line.tail := fun listed => by
        have plain := line.tail_plain 41 listed
        omega
      have untouched : newlines (32 :: line.tail) = 32 :: line.tail := by
        refine newlines_plain _ fun listed => ?_
        rcases List.mem_cons.mp listed with wrong | later
        · omega
        · have plain := line.tail_plain 13 later
          omega
      obtain ⟨shown, same⟩ := newlines_before (digits line.pid ++ [32, 40] ++ name) (32 :: line.tail)
      have found : afterLast (newlines (digits line.pid ++ [32, 40] ++ name ++ ([41, 32] ++ line.tail))) =
          some line.tail := by
        rw [List.cons_append, List.cons_append, List.nil_append, same, untouched]
        exact after_last_found shown line.tail closed
      simp only [Option.map_some, found, line.split_text, procStatStarttimeIndex, start, List.getElem?_cons_zero]
      rfl

def Decodes (name : List UInt8) : Prop := (Utf8.decode (name.map UInt8.toNat)).isSome = true

def Reading.Named (names : List UInt8 → Prop) : Reading → Prop
  | .line octets => ∃ line : StatLine, names line.name ∧ line.raw = octets
  | _ => True

theorem Reading.Named.mono {names others : List UInt8 → Prop} {reading : Reading} (named : reading.Named names)
    (within : ∀ name, names name → others name) : reading.Named others := by
  cases reading with
  | line octets =>
      obtain ⟨line, known, same⟩ := named
      exact ⟨line, within line.name known, same⟩
  | _ => exact trivial

theorem probe_returns (bootId : Option String) (pid : Int) (reading : Reading) (named : reading.Named Decodes) :
    ∃ probe, processIdentityProbe bootId pid reading = .ok probe := by
  unfold processIdentityProbe
  split
  · exact ⟨_, rfl⟩
  · cases reading with
    | missing => exact ⟨_, rfl⟩
    | failed => exact ⟨_, rfl⟩
    | line octets =>
        obtain ⟨line, decodes, rfl⟩ := named
        obtain ⟨text, decoded⟩ := Option.isSome_iff_exists.mp decodes
        have whole : Utf8.decode line.octets = some text := decoded
        simp only [line.decode_raw, whole, Option.map_some]
        split
        · exact ⟨_, rfl⟩
        · split
          · exact ⟨_, rfl⟩
          · exact ⟨_, rfl⟩

section Answers

variable {bootId : Option String} {table : Nat → Int → Reading} (named : ∀ now pid, (table now pid).Named Decodes)

include named

theorem unidentified_returns (now : Nat) (pid : Int) : ∃ verdict, unidentified bootId table now pid = .ok verdict := by
  obtain ⟨again, done⟩ := probe_returns bootId pid (table (now + 1) pid) (named _ _)
  exact ⟨_, by rw [unidentified, done, bind_ok]; rfl⟩

theorem identity_state_returns (now : Nat) (recorded : Option Identity) :
    ∃ verdict, identityState bootId table now recorded = .ok verdict := by
  unfold identityState
  split
  · exact ⟨_, rfl⟩
  · split
    · rename_i pid _ _ _
      split
      · exact ⟨_, rfl⟩
      · obtain ⟨probe, done⟩ := probe_returns bootId pid (table now pid) (named _ _)
        rw [done, bind_ok]
        split
        · exact unidentified_returns named now pid
        · exact ⟨_, rfl⟩
    · exact ⟨_, rfl⟩

theorem pid_state_returns (now : Nat) (pid : Option Int) : ∃ verdict, pidState bootId table now pid = .ok verdict := by
  unfold pidState
  split
  · exact ⟨_, rfl⟩
  · rename_i pid
    split
    · exact ⟨_, rfl⟩
    · obtain ⟨probe, done⟩ := probe_returns bootId pid (table now pid) (named _ _)
      rw [done, bind_ok]
      split
      · exact unidentified_returns named now pid
      · exact ⟨_, rfl⟩

theorem client_returns {α : Type} (client : Client α) (now : Nat) :
    ∃ result, client.run bootId table now = .ok result := by
  induction client generalizing now with
  | done result => exact ⟨result, rfl⟩
  | identityState recorded next ih =>
      obtain ⟨verdict, done⟩ := identity_state_returns named now recorded
      obtain ⟨result, rest⟩ := ih verdict (now + 2)
      exact ⟨result, by rw [Client.run, done, bind_ok, rest]⟩
  | pidState pid next ih =>
      obtain ⟨verdict, done⟩ := pid_state_returns named now pid
      obtain ⟨result, rest⟩ := ih verdict (now + 2)
      exact ⟨result, by rw [Client.run, done, bind_ok, rest]⟩
  | processIdentity pid next ih =>
      obtain ⟨probe, done⟩ := probe_returns bootId pid (table now pid) (named _ _)
      obtain ⟨result, rest⟩ := ih probe.identity (now + 2)
      exact ⟨result, by rw [Client.run, done, bind_ok, rest]⟩

end Answers

-- A process of this name is identified: by both parsers alike, for all that ask, among any processes
-- whose names decode, and by one token at every reading.
structure Identified (name : List UInt8) : Prop where
  probed : ∀ (bootId : Option String) (line : StatLine), line.name = name → 0 < line.pid →
    processIdentityProbe bootId line.pid (.line line.raw) = .ok (.present {
      identity := { source := some identitySource, pid := some line.pid, startTicks := some line.startTicks, bootId }
      state := [line.state] })
  parsed : ∀ line : StatLine, line.name = name → linuxProcStat line.raw =
    .ok { state := [line.state], processGroup := line.processGroup, startTicks := line.startTicks }
  answered : ∀ {α : Type} (client : Client α) (bootId : Option String) (table : Nat → Int → Reading) (now : Nat),
    (∀ time pid, (table time pid).Named fun other => other = name ∨ Decodes other) →
      ∃ result, client.run bootId table now = .ok result
  stopped : ∀ (attempt : Attempt) (pid group : Option Int) (identity : Option Identity) (reason : String) (grace : Rat)
    (bootId : Option String) (table : Nat → Int → Reading) (now : Nat),
    (∀ time pid, (table time pid).Named fun other => other = name ∨ Decodes other) →
      ∃ ledger, (stopWorkerTree attempt pid group identity reason grace).run bootId table now = .ok ledger
  steady : ∀ (bootId : Option String) (first second : StatLine), first.name = name → second.name = name →
    0 < first.pid → second.pid = first.pid → second.startTicks = first.startTicks →
    ∃ seen again, processIdentityProbe bootId first.pid (.line first.raw) = .ok (.present seen) ∧
      processIdentityProbe bootId second.pid (.line second.raw) = .ok (.present again) ∧
      again.identity = seen.identity ∧
      identityMatches (some seen.identity) (some again.identity) = true

def sampleLine (name : List UInt8) : StatLine where
  pid := 4242
  name
  state := 83
  numbers := [1, 4242] ++ List.replicate 16 0 ++ [987654]
  letter := by omega
  fields := by decide

theorem same_process (bootId : Option String) (pid ticks : Int) :
    identityMatches (some { source := some identitySource, pid := some pid, startTicks := some ticks, bootId })
      (some { source := some identitySource, pid := some pid, startTicks := some ticks, bootId }) = true := by
  simp [identityMatches, identitySource, darwinSource]

theorem process_identified_iff (name : List UInt8) : Identified name ↔ Decodes name := by
  constructor
  · intro identified
    have positive : 0 < (sampleLine name).pid := by
      change 0 < 4242
      omega
    have probed := identified.probed none (sampleLine name) rfl positive
    rw [probe_line none (sampleLine name) positive] at probed
    unfold Decodes
    cases decoded : Utf8.decode (name.map UInt8.toNat) with
    | some text => rfl
    | none =>
        have refused : Utf8.decode (sampleLine name).octets = none := decoded
        rw [refused] at probed
        cases probed
  · intro decodes
    obtain ⟨text, decoded⟩ := Option.isSome_iff_exists.mp decodes
    have probed : ∀ (bootId : Option String) (line : StatLine), line.name = name → 0 < line.pid →
        processIdentityProbe bootId line.pid (.line line.raw) = .ok (.present {
          identity := { source := some identitySource, pid := some line.pid, startTicks := some line.startTicks, bootId }
          state := [line.state] }) := by
      rintro bootId line rfl positive
      have whole : Utf8.decode line.octets = some text := decoded
      rw [probe_line bootId line positive, whole]
    have answered : ∀ {α : Type} (client : Client α) (bootId : Option String) (table : Nat → Int → Reading) (now : Nat),
        (∀ time pid, (table time pid).Named fun other => other = name ∨ Decodes other) →
          ∃ result, client.run bootId table now = .ok result := by
      intro α client bootId table now named
      refine client_returns (fun time pid => (named time pid).mono ?_) client now
      rintro other (rfl | fine)
      · exact decodes
      · exact fine
    refine ⟨probed, fun line _ => line.linux_proc_stat, answered,
      fun attempt pid group identity reason grace =>
      answered (stopWorkerTree attempt pid group identity reason grace), ?_⟩
    intro bootId first second firstNamed secondNamed positive samePid sameStart
    refine ⟨_, _, probed bootId first firstNamed positive, probed bootId second secondNamed (by omega), ?_, ?_⟩
    · simp only [samePid, sameStart]
    · simp only [samePid, sameStart]
      exact same_process _ _ _

def cutName : List UInt8 := (List.replicate 7 [0xC3, 0xA9]).flatten ++ [0xC3]

theorem cut_name_raises : (cutName.length = 15 ∧ processIdentityProbe none 4242 (.line (sampleLine cutName).raw) =
      .error .unicodeDecodeError) ∧
    identityState none (fun _ _ => .line (sampleLine cutName).raw) 0
      (some { source := some identitySource, pid := some 4242, startTicks := some 987654 }) = .error
      .unicodeDecodeError ∧
    linuxProcStat (sampleLine cutName).raw = .ok { state := [83], processGroup := 4242, startTicks := 987654 } := by
  have refused : processIdentityProbe none 4242 (.line (sampleLine cutName).raw) = .error .unicodeDecodeError :=
    probe_line none (sampleLine cutName) (by decide)
  refine ⟨⟨by decide, refused⟩, ?_, (sampleLine cutName).linux_proc_stat⟩
  simp only [identityState, Option.getD_some, ne_eq, not_true_eq_false, if_false, refused]
  rfl

end OrchestratorEngine.WorkerLease
