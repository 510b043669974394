import OrchestratorEngine.Watcher.Isolation

set_option autoImplicit false

namespace OrchestratorEngine.Watcher.Faults

open Foundation
open ResourceAdapters (Json Text lit)

structure Grown (before after : Scanning) : Prop where
  now : after.now = before.now
  seen : ∀ key ∈ before.seen, key ∈ after.seen
  acted : ∀ key ∈ before.acted, key ∈ after.acted
  fresh : ∀ key ∈ after.acted, key ∈ before.acted ∨ key ∉ before.seen
  booked : Booked before → Booked after
  waits : ∀ key ∉ after.seen, after.postponed key = false → before.postponed key = false

theorem Grown.refl (scanning : Scanning) : Grown scanning scanning :=
  ⟨rfl, fun _ listed => listed, fun _ listed => listed, fun _ listed => .inl listed, id, fun _ _ ready => ready⟩

theorem Grown.trans {first second third : Scanning} (lower : Grown first second) (upper : Grown second third) :
    Grown first third where
  now := upper.now.trans lower.now
  seen key listed := upper.seen key (lower.seen key listed)
  acted key listed := upper.acted key (lower.acted key listed)
  fresh key listed := (upper.fresh key listed).elim (lower.fresh key) fun unseen => .inr fun seen =>
    unseen (lower.seen key seen)
  booked := upper.booked ∘ lower.booked
  waits key unseen ready := lower.waits key (fun seen => unseen (upper.seen key seen)) (upper.waits key unseen ready)

theorem grown_consume (scanning : Scanning) (key : SignalKey) : Grown scanning (scanning.consume key) where
  now := rfl
  seen _ listed := (mem_add _ _ _).mpr (.inr listed)
  acted _ listed := listed
  fresh _ listed := .inl listed
  booked := booked_consume
  waits other unseen ready := by
    by_cases same : other = key
    · subst same
      exact absurd ((mem_add _ _ _).mpr (.inl rfl)) unseen
    · rwa [postponed_consume same] at ready

variable {key : SignalKey}

theorem grown_act {scanning : Scanning} (fresh : key ∉ scanning.seen) (delivery : Delivery) :
    Grown scanning (Watcher.performAction key delivery scanning) where
  now := by cases delivery <;> rfl
  seen other listed := by
    cases delivery with
    | done => exact (mem_add _ _ _).mpr (.inr listed)
    | deferred code => exact listed
  acted other listed := by
    have kept : other ∈ scanning.acted ++ [key] := List.mem_append_left _ listed
    cases delivery <;> exact kept
  fresh other listed := by
    have kept : other ∈ scanning.acted ++ [key] := by
      cases delivery <;> exact listed
    refine (List.mem_append.mp kept).imp_right fun new => ?_
    rwa [List.mem_singleton.mp new]
  booked booked := booked_act booked delivery
  waits other unseen ready := by
    by_cases same : other = key
    · subst same
      cases delivery with
      | done => exact absurd ((mem_add _ _ _).mpr (.inl rfl)) unseen
      | deferred code =>
          rw [deferred_postponed] at ready
          cases ready
    · rwa [postponed_act delivery same] at ready

variable {signal : Fields} {file : SignalFile} {before after : Scanning}

theorem eligible_earlier {site : Site} {bound : Option Fields}
    (grown : Grown before after) (unseen : key ∉ after.seen)
    (eligible : Eligible site bound file signal after key) : Eligible site bound file signal before key := by
  obtain ⟨⟨⟨⟨notBefore, timed, arrived⟩, served⟩, disposed, ready⟩, rest⟩ := eligible
  rw [grown.now] at arrived
  exact ⟨⟨⟨⟨notBefore, timed, arrived⟩, served⟩, disposed, grown.waits key unseen ready⟩, rest⟩

section Signals

variable {site : Site} {project : Project} {bound : Option Fields}

theorem Course.grown
    (course : Course site project bound file signal before after) : Grown before after := by
  cases course with
  | still => exact .refl _
  | consumed key _ _ _ => exact grown_consume before key
  | acted key _ fresh _ delivery => exact grown_act fresh delivery

abbrev visitEach (site : Site) (project : Project) (bound : Option Fields) (scan : Scan) (item : SignalFile × Fields) :
    Except Raised Scan := visitSignal site project bound item.1 item.2 scan

structure Moved (before after : Scan) : Prop where
  grown : Grown before.scanning after.scanning
  told : Told before → Told after
  quiet : Quiet after → Quiet before

theorem Moved.refl (scan : Scan) : Moved scan scan := ⟨.refl _, id, id⟩

theorem Moved.trans {first second third : Scan} (lower : Moved first second) (upper : Moved second third) :
    Moved first third := ⟨lower.grown.trans upper.grown, upper.told ∘ lower.told, lower.quiet ∘ upper.quiet⟩

theorem visit_moved {scan next : Scan}
    (done : visitSignal site project bound file signal scan = .ok next) : Moved scan next :=
  ⟨(visit_course done).grown, (visit_notes done).told, fun quiet => ((visit_notes done).quiet.mp quiet).1⟩

variable (items : List (SignalFile × Fields))

theorem visits_moved (scan final : Scan)
    (done : items.foldlM (visitEach site project bound) scan = .ok final) : Moved scan final :=
  fold_kept Moved .refl .trans (fun _ _ _ taken => visit_moved taken) items scan final done

def Delivers (site : Site) (project : Project) (bound : Option Fields) (items : List (SignalFile × Fields))
    (scan final : Scan) : Prop :=
  ∀ item ∈ items, ∀ key, eventKey project.root item.2 = some key → key ∉ scan.scanning.seen →
    Eligible site bound item.1 item.2 scan.scanning key → key ∈ final.scanning.acted

-- A visit that harms nobody: nothing escapes its handlers, no failure is
-- passed over, and it suppresses no signal that a later file still announces.
structure Harmless (site : Site) (project : Project) (bound : Option Fields) (scan : Scan) (item : SignalFile × Fields)
    (rest : List (SignalFile × Fields)) : Prop where
  handles : ∀ key, eventKey project.root item.2 = some key → key ∉ scan.scanning.seen →
    Handles site project bound item.1 item.2 scan.scanning key
  shown : ¬ Swallows site project bound item.1 item.2 scan.scanning
  alone : ∀ key, eventKey project.root item.2 = some key → key ∉ scan.scanning.seen →
    Suppressed site bound item.1 item.2 scan.scanning key → ∀ other ∈ rest, eventKey project.root other.2 = some key →
      ¬ Eligible site bound other.1 other.2 scan.scanning key

theorem Course.eligible_later
    (course : Course site project bound file signal before after) {other : SignalFile × Fields}
    (fresh : key ∉ before.seen) (eligible : Eligible site bound other.1 other.2 before key) :
    key ∉ after.seen ∧ Eligible site bound other.1 other.2 after key ∨ key ∈ after.acted ∨
      eventKey project.root signal = some key ∧ Suppressed site bound file signal before key := by
  obtain ⟨⟨⟨⟨notBefore, timed, arrived⟩, served⟩, disposed, ready⟩, rest⟩ := eligible
  cases course with
  | still => exact .inl ⟨fresh, ⟨⟨⟨⟨notBefore, timed, arrived⟩, served⟩, disposed, ready⟩, rest⟩⟩
  | consumed consumed named _ suppressed =>
      by_cases same : key = consumed
      · exact .inr (.inr ⟨same ▸ named, same ▸ suppressed⟩)
      · refine .inl ⟨fun seen => ?_, ⟨⟨⟨⟨notBefore, timed, arrived⟩, served⟩, disposed, ?_⟩, rest⟩⟩
        · exact ((mem_add _ _ _).mp seen).elim same fresh
        · rwa [postponed_consume same]
  | acted acted _ _ _ delivery =>
      by_cases same : key = acted
      · exact .inr (.inl (same ▸ acted_seen delivery))
      · refine .inl ⟨fun seen => ?_, ⟨⟨⟨⟨notBefore, timed, ?_⟩, served⟩, disposed, ?_⟩, rest⟩⟩
        · cases delivery with
          | done => exact ((mem_add _ _ _).mp seen).elim same fresh
          | deferred code => exact fresh seen
        · cases delivery <;> exact arrived
        · rwa [postponed_act delivery same]

theorem signals_isolated (scan : Scan) (booked : Booked scan.scanning)
    (quiet : Quiet scan) :
    (∃ final, items.foldlM (visitEach site project bound) scan = .ok final ∧ Quiet final ∧
      Delivers site project bound items scan final) ↔
      Along (visitEach site project bound) (Harmless site project bound) items scan := by
  induction items generalizing scan with
  | nil => simp [Along, Delivers, quiet]
  | cons item rest ih =>
      constructor
      · rintro ⟨final, done, quietly, delivers⟩
        obtain ⟨next, visited, onward⟩ := (fold_cons_ok item rest scan final).mp done
        have moved := visits_moved rest next final onward
        have course := visit_course visited
        refine ⟨⟨visit_returns.mp ⟨next, visited⟩, ((visit_notes visited).quiet.mp (moved.quiet quietly)).2, ?_⟩, ?_⟩
        · intro key named fresh suppressed other listed sameKey eligible
          have acted := delivers other (List.mem_cons_of_mem _ listed) key sameKey fresh eligible
          obtain ⟨seen, same⟩ := visit_suppressed visited named fresh suppressed
          rcases moved.grown.fresh key acted with before | unseen
          · rw [same] at before
            rcases booked key before with old | waiting
            · exact fresh old
            · rw [eligible.1.2.2] at waiting
              cases waiting
          · exact unseen seen
        · intro other taken
          cases visited.symm.trans taken
          refine (ih next (course.grown.booked booked) (moved.quiet quietly)).mp ⟨final, onward, quietly, ?_⟩
          intro later listed key named unseen eligible
          exact delivers later (List.mem_cons_of_mem _ listed) key named
            (fun seen => unseen (course.grown.seen key seen)) (eligible_earlier course.grown unseen eligible)
      · rintro ⟨harmless, along⟩
        obtain ⟨next, visited⟩ := visit_returns.mpr harmless.handles
        have course := visit_course visited
        have quietNext : Quiet next := (visit_notes visited).quiet.mpr ⟨quiet, harmless.shown⟩
        obtain ⟨final, onward, quietly, delivers⟩ :=
          (ih next (course.grown.booked booked) quietNext).mpr (along next visited)
        have grown := (visits_moved rest next final onward).grown
        refine ⟨final, (fold_cons_ok item rest scan final).mpr ⟨next, visited, onward⟩, quietly, ?_⟩
        intro other listed key named fresh eligible
        rcases List.mem_cons.mp listed with rfl | later
        · exact grown.acted key (visit_eligible visited named fresh eligible)
        · rcases course.eligible_later fresh eligible with ⟨unseen, still⟩ | acted | ⟨sameKey, suppressed⟩
          · exact delivers other later key named unseen still
          · exact grown.acted key acted
          · exact absurd eligible (harmless.alone key sameKey fresh suppressed other later named)

theorem visits_settle (scan final : Scan)
    (done : items.foldlM (visitEach site project bound) scan = .ok final) (item : SignalFile × Fields)
    (listed : item ∈ items)
    (key : SignalKey) (named : eventKey project.root item.2 = some key) (fresh : key ∉ scan.scanning.seen)
    (eligible : Eligible site bound item.1 item.2 scan.scanning key) :
    key ∈ final.scanning.acted ∨ key ∈ final.scanning.seen := by
  induction items generalizing scan with
  | nil => cases listed
  | cons first rest ih =>
      obtain ⟨next, visited, onward⟩ := (fold_cons_ok first rest scan final).mp done
      have grown := (visits_moved rest next final onward).grown
      rcases List.mem_cons.mp listed with rfl | later
      · exact .inl (grown.acted key (visit_eligible visited named fresh eligible))
      · rcases (visit_course visited).eligible_later fresh eligible with ⟨unseen, still⟩ | acted | ⟨sameKey, suppressed⟩
        · exact ih next onward later unseen still
        · exact .inl (grown.acted key acted)
        · exact .inr (grown.seen key (visit_suppressed visited sameKey fresh suppressed).1)

variable {first second next : Scan}

theorem finish_alike {delivery : Delivery}
    (same : first.scanning = second.scanning) (done : finish key signal delivery second = .ok next) :
    ∃ other, finish key signal delivery first = .ok other ∧ other.scanning = next.scanning := by
  have returns : ∃ other, finish key signal delivery first = .ok other :=
    (finish_returns delivery).mpr ((finish_returns delivery).mp ⟨next, done⟩)
  obtain ⟨other, ended⟩ := returns
  exact ⟨other, ended, by rw [finish_ok ended, finish_ok done, same]⟩

theorem act_alike {problem : Problem}
    (same : first.scanning = second.scanning) (done : act site problem file signal key second = .ok next) :
    ∃ other, act site problem file signal key first = .ok other ∧ other.scanning = next.scanning := by
  unfold act at done ⊢
  split at done
  · exact finish_alike same done
  · exact finish_alike same done
  · split at done
    · rw [if_pos ‹_›]
      have reported : (first.report [problem]).scanning = (second.report [problem]).scanning := same
      exact finish_alike reported done
    · cases done

theorem visit_alike (same : first.scanning = second.scanning)
    (done : visitSignal site project bound file signal second = .ok next) :
    ∃ other, visitSignal site project bound file signal first = .ok other ∧ other.scanning = next.scanning := by
  cases named : eventKey project.root signal with
  | none =>
      simp only [visitSignal, named] at done ⊢
      split at done <;> cases done
      · exact ⟨_, rfl, same⟩
      · exact ⟨_, rfl, same⟩
  | some key =>
      rw [visit_named named] at done ⊢
      obtain ⟨verdict, judged, done⟩ := (bind_ok_iff _ _ _).mp done
      rw [same, judged, bind_ok]
      cases fate : verdict.fate with
      | passed =>
          simp only [conclude, fate] at done ⊢
          cases done
          exact ⟨_, rfl, same⟩
      | consumed =>
          simp only [conclude, fate] at done ⊢
          cases done
          exact ⟨_, rfl, congrArg (Scanning.consume key) same⟩
      | acting =>
          simp only [conclude, fate] at done ⊢
          have noted : ((first.report verdict.reported).swallow verdict.swallowed).scanning =
              ((second.report verdict.reported).swallow verdict.swallowed).scanning := same
          exact act_alike noted done

end Signals

end OrchestratorEngine.Watcher.Faults
