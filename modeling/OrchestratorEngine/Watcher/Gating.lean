import OrchestratorEngine.Watcher.Scans

set_option autoImplicit false

namespace OrchestratorEngine.Watcher.Faults

open Foundation
open ResourceAdapters (Json Text lit)

section Handlers

variable {α : Type} {attempt : Except Raised α} {problem : Problem}

theorem confined_caught_error (error : Raised) :
    Confined Caught (Except.error error : Except Raised α) ↔ error.caught = true := confined_error error

theorem noting_ok {problems : List Problem} (done : noting attempt problem = .ok problems) :
    problems = [] ∨ problems = [problem] := by
  cases attempt with
  | ok value =>
      cases done
      exact .inl rfl
  | error error =>
      simp only [noting] at done
      split at done <;> cases done
      exact .inr rfl

theorem noting_returns : (∃ problems, noting attempt problem = .ok problems) ↔ Confined Caught attempt := by
  cases attempt with
  | ok value => simp [noting]
  | error error =>
      rw [confined_caught_error]
      by_cases caught : error.caught = true <;> simp [noting, caught]

theorem attempting_ok_iff (next : α → Except Raised Verdict) (verdict : Verdict) :
    attempting attempt problem next = .ok verdict ↔ (∃ value, attempt = .ok value ∧ next value = .ok verdict) ∨
      (∃ error, attempt = .error error ∧ error.caught = true) ∧ { reported := [problem] } = verdict := by
  cases attempt with
  | ok value => simp [attempting]
  | error error => by_cases caught : error.caught = true <;> simp [attempting, caught]

theorem attempting_returns (next : α → Except Raised Verdict) :
    (∃ verdict, attempting attempt problem next = .ok verdict) ↔
      Confined Caught attempt ∧ ∀ value, attempt = .ok value → ∃ verdict, next value = .ok verdict := by
  cases attempt with
  | ok value => simp [attempting]
  | error error =>
      rw [confined_caught_error]
      by_cases caught : error.caught = true <;> simp [attempting, caught]

end Handlers

section Gates

variable (site : Site) (bound : Option Fields) (file : SignalFile) (signal : Fields) (scanning : Scanning)
    (key : SignalKey)

def Timely : Prop := ∃ notBefore, signalNotBefore site.calendar signal = .ok notBefore ∧
  (notBefore.any fun time => decide (scanning.now < time)) = false

def Offered : Prop := Timely site signal scanning ∧
  ∃ host, signalHost site.calendar signal bound = .ok host ∧ site.serves host = true

def Due : Prop := Offered site bound signal scanning ∧ file.disposition = .ok .deliver ∧ scanning.postponed key = false

def Unread : Prop := ∃ receipt, loadOptionalObject file.receipt = .ok receipt ∧ receipt.any acknowledged = false

def Eligible : Prop := Due site bound file signal scanning key ∧ Unread file ∧
  continuationDeliveryGuard site file signal = .ok .deliver

def Suppressed : Prop := Offered site bound signal scanning ∧ file.disposition = .ok .consume ∨
  Due site bound file signal scanning key ∧
    ((∃ receipt, loadOptionalObject file.receipt = .ok receipt ∧ receipt.any acknowledged = true) ∨
      Unread file ∧ (continuationDeliveryGuard site file signal = .ok .final ∨
        continuationDeliveryGuard site file signal = .ok .unreadable))

structure Passable : Prop where
  host : Timely site signal scanning → Confined Caught (signalHost site.calendar signal bound)
  disposition : Offered site bound signal scanning → Confined Caught file.disposition
  receipt : Due site bound file signal scanning key → ∃ receipt, loadOptionalObject file.receipt = .ok receipt
  guard : Due site bound file signal scanning key → Unread file →
    ∃ answer, continuationDeliveryGuard site file signal = .ok answer

end Gates

section Examination

variable {site : Site} {bound : Option Fields} {file : SignalFile} {signal : Fields} {scanning : Scanning}
    {key : SignalKey}
  {problem : Stage → Problem}

theorem settle_returns : (∃ verdict, settleDelivery site file signal problem = .ok verdict) ↔
    (∃ receipt, loadOptionalObject file.receipt = .ok receipt) ∧
      (Unread file → ∃ answer, continuationDeliveryGuard site file signal = .ok answer) := by
  unfold settleDelivery Unread
  cases loadOptionalObject file.receipt with
  | error error => simp
  | ok receipt =>
      cases acked : receipt.any acknowledged with
      | true => simp [acked]
      | false =>
          cases continuationDeliveryGuard site file signal with
          | error error => simp [acked]
          | ok answer => cases answer <;> simp [acked]

theorem settle_cases {verdict : Verdict} (settled : settleDelivery site file signal problem = .ok verdict) :
    verdict = { fate := .acting } ∧ Unread file ∧ continuationDeliveryGuard site file signal = .ok .deliver ∨
    verdict = { fate := .consumed } ∧ ((∃ receipt, loadOptionalObject file.receipt = .ok receipt ∧
      receipt.any acknowledged = true) ∨ Unread file ∧ continuationDeliveryGuard site file signal = .ok .final) ∨
    verdict = { fate := .consumed, swallowed := [problem .guard] } ∧ Unread file ∧
      continuationDeliveryGuard site file signal = .ok .unreadable := by
  unfold settleDelivery at settled
  unfold Unread
  cases read : loadOptionalObject file.receipt with
  | error error => simp [read] at settled
  | ok receipt =>
      cases acked : receipt.any acknowledged with
      | true =>
          simp only [read, bind_ok, acked, if_true, pure_ok, Except.ok.injEq] at settled
          exact .inr (.inl ⟨settled.symm, .inl ⟨receipt, rfl, acked⟩⟩)
      | false =>
          simp only [read, bind_ok, acked, Bool.false_eq_true, if_false] at settled
          have unread : ∃ kept, Except.ok receipt = (Except.ok kept : Except Raised _) ∧
            kept.any acknowledged = false :=
            ⟨receipt, rfl, acked⟩
          cases answered : continuationDeliveryGuard site file signal with
          | error error => simp [answered] at settled
          | ok answer =>
              rw [answered] at settled
              cases answer with
              | deliver =>
                  cases settled
                  exact .inl ⟨rfl, unread, rfl⟩
              | final =>
                  cases settled
                  exact .inr (.inl ⟨rfl, .inr ⟨unread, rfl⟩⟩)
              | unreadable =>
                  cases settled
                  exact .inr (.inr ⟨rfl, unread, rfl⟩)

theorem not_before_caught (calendar : Calendar) (fields : Fields) : Confined Caught
    (signalNotBefore calendar fields) := by
  intro error raised
  unfold signalNotBefore at raised
  split at raised
  · cases raised
  · split at raised <;> cases raised
    rfl
  · cases raised
    rfl

inductive Examined (site : Site) (bound : Option Fields) (file : SignalFile) (signal : Fields) (scanning : Scanning)
    (key : SignalKey) (problem : Stage → Problem) : Verdict → Prop where
  | passed : Examined site bound file signal scanning key problem {}
  | failed (stage : Stage) (named : stage ∈ [.notBefore, .host, .disposition]) :
      Examined site bound file signal scanning key problem { reported := [problem stage] }
  | acting (eligible : Eligible site bound file signal scanning key) :
      Examined site bound file signal scanning key problem { fate := .acting }
  | consumed (suppressed : Suppressed site bound file signal scanning key) :
      Examined site bound file signal scanning key problem { fate := .consumed }
  | swallowed (suppressed : Suppressed site bound file signal scanning key)
      (due : Due site bound file signal scanning key) (unread : Unread file)
      (unreadable : continuationDeliveryGuard site file signal = .ok .unreadable) :
      Examined site bound file signal scanning key problem { fate := .consumed, swallowed := [problem .guard] }

theorem examine_examined {verdict : Verdict}
    (done : examine site bound file signal (scanning.postponed key) problem scanning.now = .ok verdict) :
    Examined site bound file signal scanning key problem verdict := by
  unfold examine at done
  rcases (attempting_ok_iff _ _).mp done with ⟨notBefore, timed, done⟩ | ⟨-, rfl⟩
  · split at done
    · cases done
      exact .passed
    · rename_i arrived
      rw [Bool.not_eq_true] at arrived
      have timely : Timely site signal scanning := ⟨notBefore, timed, arrived⟩
      unfold route at done
      rcases (attempting_ok_iff _ _).mp done with ⟨host, named, done⟩ | ⟨-, rfl⟩
      · split at done
        · rename_i served
          have offered : Offered site bound signal scanning := ⟨timely, host, named, served⟩
          unfold dispose at done
          rcases (attempting_ok_iff _ _).mp done with ⟨disposition, disposed, done⟩ | ⟨-, rfl⟩
          · cases disposition with
            | hold =>
                cases done
                exact .passed
            | consume =>
                cases done
                exact .consumed (.inl ⟨offered, disposed⟩)
            | deliver =>
                simp only at done
                split at done
                · cases done
                  exact .passed
                · rename_i ready
                  rw [Bool.not_eq_true] at ready
                  have due : Due site bound file signal scanning key := ⟨offered, disposed, ready⟩
                  rcases settle_cases done with ⟨rfl, unread, answer⟩ | ⟨rfl, settled⟩ | ⟨rfl, unread, answer⟩
                  · exact .acting ⟨due, unread, answer⟩
                  · exact .consumed (.inr ⟨due, settled.imp id fun final => ⟨final.1, .inl final.2⟩⟩)
                  · exact .swallowed (.inr ⟨due, .inr ⟨unread, .inr answer⟩⟩) due unread answer
          · exact .failed .disposition (by simp)
        · cases done
          exact .passed
      · exact .failed .host (by simp)
  · exact .failed .notBefore (by simp)

theorem dispose_returns (postponed : Bool) : (∃ verdict, dispose site file signal postponed problem = .ok verdict) ↔
    Confined Caught file.disposition ∧ (file.disposition = .ok .deliver → postponed = false →
      ∃ verdict, settleDelivery site file signal problem = .ok verdict) := by
  unfold dispose
  rw [attempting_returns]
  refine and_congr_right fun _ => ⟨fun all disposed ready => ?_, fun settles disposition disposed => ?_⟩
  · have onward := all .deliver disposed
    rwa [ready] at onward
  · cases disposition with
    | hold => exact ⟨_, rfl⟩
    | consume => exact ⟨_, rfl⟩
    | deliver =>
        cases postponed with
        | true => exact ⟨_, rfl⟩
        | false => exact settles disposed rfl

theorem route_returns (postponed : Bool) : (∃ verdict, route site bound file signal postponed problem = .ok verdict) ↔
    Confined Caught (signalHost site.calendar signal bound) ∧
      ((∃ host, signalHost site.calendar signal bound = .ok host ∧ site.serves host = true) →
        ∃ verdict, dispose site file signal postponed problem = .ok verdict) := by
  unfold route
  rw [attempting_returns]
  refine and_congr_right fun _ => ⟨fun all ⟨host, named, served⟩ => ?_, fun disposes host named => ?_⟩
  · have onward := all host named
    rwa [if_pos served] at onward
  · split
    · exact disposes ⟨host, named, ‹_›⟩
    · exact ⟨_, rfl⟩

theorem examine_returns :
    (∃ verdict, examine site bound file signal (scanning.postponed key) problem scanning.now = .ok verdict) ↔
      Passable site bound file signal scanning key := by
  have routed : (∃ verdict, examine site bound file signal (scanning.postponed key) problem
    scanning.now = .ok verdict) ↔
      (Timely site signal scanning →
        ∃ verdict, route site bound file signal (scanning.postponed key) problem = .ok verdict) := by
    unfold examine
    rw [attempting_returns]
    refine ⟨fun all ⟨notBefore, timed, arrived⟩ => ?_, fun routes => ⟨not_before_caught _ _, fun notBefore timed => ?_⟩⟩
    · have onward := all.2 notBefore timed
      rwa [if_neg (by rw [arrived]; exact Bool.false_ne_true)] at onward
    · split
      · exact ⟨_, rfl⟩
      · rename_i arrived
        rw [Bool.not_eq_true] at arrived
        exact routes ⟨notBefore, timed, arrived⟩
  rw [routed, route_returns, dispose_returns, settle_returns]
  constructor
  · intro onward
    refine ⟨fun timely => (onward timely).1, fun offered => ((onward offered.1).2 offered.2).1, fun due =>
      ?_, fun due => ?_⟩
    · exact (((onward due.1.1).2 due.1.2).2 due.2.1 due.2.2).1
    · exact (((onward due.1.1).2 due.1.2).2 due.2.1 due.2.2).2
  · intro passable timely
    refine ⟨passable.host timely, fun served => ⟨passable.disposition ⟨timely, served⟩, fun disposed ready => ?_⟩⟩
    have due : Due site bound file signal scanning key := ⟨⟨timely, served⟩, disposed, ready⟩
    exact ⟨passable.receipt due, passable.guard due⟩

theorem examine_due (due : Due site bound file signal scanning key) :
    examine site bound file signal (scanning.postponed key) problem scanning.now =
      settleDelivery site file signal problem := by
  obtain ⟨⟨⟨notBefore, timed, arrived⟩, host, named, served⟩, disposed, ready⟩ := due
  simp only [examine, attempting, timed, arrived, Bool.false_eq_true, if_false, route, named, served, if_true, dispose,
    disposed, ready]

theorem examine_eligible (eligible : Eligible site bound file signal scanning key) :
    examine site bound file signal (scanning.postponed key) problem scanning.now = .ok { fate := .acting } := by
  obtain ⟨due, ⟨receipt, read, unread⟩, answer⟩ := eligible
  rw [examine_due due]
  simp only [settleDelivery, read, bind_ok, unread, Bool.false_eq_true, if_false, answer, pure_ok]

theorem examine_suppressed (suppressed : Suppressed site bound file signal scanning key) :
    ∃ verdict, examine site bound file signal (scanning.postponed key) problem scanning.now = .ok verdict ∧
      verdict.fate = .consumed := by
  rcases suppressed with ⟨⟨⟨notBefore, timed, arrived⟩, host, named, served⟩, disposed⟩ | ⟨due, ⟨receipt, read, acked⟩ |
    ⟨⟨receipt, read, unread⟩, answer | answer⟩⟩
  · refine ⟨{ fate := .consumed }, ?_, rfl⟩
    simp only [examine, attempting, timed, arrived, Bool.false_eq_true, if_false, route, named, served,
      if_true, dispose,
      disposed]
  · rw [examine_due due]
    exact ⟨{ fate := .consumed }, by simp only [settleDelivery, read, bind_ok, acked, if_true, pure_ok], rfl⟩
  · rw [examine_due due]
    exact ⟨{ fate := .consumed }, by
      simp only [settleDelivery, read, bind_ok, unread, Bool.false_eq_true, if_false, answer, pure_ok], rfl⟩
  · rw [examine_due due]
    exact ⟨{ fate := .consumed, swallowed := [problem .guard] }, by
      simp only [settleDelivery, read, bind_ok, unread, Bool.false_eq_true, if_false, answer, pure_ok], rfl⟩

end Examination

end OrchestratorEngine.Watcher.Faults
