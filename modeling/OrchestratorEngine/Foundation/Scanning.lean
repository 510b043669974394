import Mathlib.Data.List.Basic

set_option autoImplicit false

namespace Foundation.Scanning

-- A match of a pattern: what a substitution keeps, what it drops, and the part of
-- that which the pattern is there to find.
structure Hit (α : Type) where
  kept : List α
  lead : List α
  secret : List α
deriving DecidableEq, Repr

def Hit.cells {α : Type} (hit : Hit α) : List α := hit.kept ++ hit.lead ++ hit.secret

inductive Piece (α : Type) where
  | plain (cell : α)
  | hit (found : Hit α)

abbrev Pattern (α : Type) := Option α → List α → Option (Hit α)

def Pattern.Lawful {α : Type} (find : Pattern α) : Prop :=
  ∀ before cells hit, find before cells = some hit → hit.cells ≠ [] ∧ ∃ after, cells = hit.cells ++ after

-- The leftmost matches that do not overlap, and the cells between them. The first
-- argument bounds the length of what is scanned.
def scan {α : Type} (find : Pattern α) : Nat → Option α → List α → List (Piece α)
  | 0, _, _ => []
  | _ + 1, _, [] => []
  | fuel + 1, before, cell :: rest =>
      match find before (cell :: rest) with
      | some hit => .hit hit :: scan find fuel hit.cells.getLast? ((cell :: rest).drop hit.cells.length)
      | none => .plain cell :: scan find fuel (some cell) rest

def pieces {α : Type} (find : Pattern α) (before : Option α) (cells : List α) : List (Piece α) :=
  scan find cells.length before cells

def Piece.substituted {α : Type} (mark : List α) : Piece α → List α
  | .plain cell => [cell]
  | .hit found => found.kept ++ mark

def substitute {α : Type} (mark : List α) (found : List (Piece α)) : List α :=
  found.flatMap (Piece.substituted mark)

def hits {α : Type} : List (Piece α) → List (Hit α)
  | [] => []
  | .plain _ :: rest => hits rest
  | .hit found :: rest => found :: hits rest

structure Span where
  start : Nat
  secret : Nat
  stop : Nat
deriving DecidableEq, Repr

def spans {α : Type} : Nat → List (Piece α) → List Span
  | _, [] => []
  | place, .plain _ :: rest => spans (place + 1) rest
  | place, .hit found :: rest =>
      ⟨place, place + found.kept.length + found.lead.length, place + found.cells.length⟩ ::
        spans (place + found.cells.length) rest

section Lawful

variable {α : Type} (find : Pattern α) (lawful : find.Lawful)

include lawful in
theorem scan_enough (more : Nat) (before : Option α) (cells : List α) :
    scan find (cells.length + more) before cells = scan find cells.length before cells := by
  induction measured : cells.length using Nat.strongRecOn generalizing before cells more with
  | ind bound ih =>
      subst measured
      cases cells with
      | nil => cases more <;> rfl
      | cons cell rest =>
          have grown : (cell :: rest).length + more = (rest.length + more) + 1 := by
            rw [List.length_cons]
            omega
          rw [grown, List.length_cons, scan, scan]
          cases found : find before (cell :: rest) with
          | none => simp only [ih rest.length (by simp) more (some cell) rest rfl]
          | some hit =>
              obtain ⟨real, after, split⟩ := lawful before _ hit found
              have some_cell : 0 < hit.cells.length := List.length_pos_of_ne_nil real
              have total : (cell :: rest).length = hit.cells.length + after.length := by rw [split, List.length_append]
              rw [List.length_cons] at total
              have left : (cell :: rest).drop hit.cells.length = after := by rw [split, List.drop_left]
              simp only [left]
              have short : after.length < (cell :: rest).length := by
                rw [List.length_cons]
                omega
              obtain ⟨slack, spare⟩ : ∃ slack, rest.length = after.length + slack :=
                ⟨rest.length - after.length, by omega⟩
              rw [spare, Nat.add_assoc, ih after.length short (slack + more) _ after rfl,
                ih after.length short slack _ after rfl]

variable (before : Option α)

theorem pieces_plain (cell : α) (rest : List α) (none_here : find before (cell :: rest) = none) :
    pieces find before (cell :: rest) = .plain cell :: pieces find (some cell) rest := by
  rw [pieces, List.length_cons, scan]
  simp only [none_here, pieces]

include lawful in
theorem pieces_hit (hit : Hit α) (after : List α)
    (found : find before (hit.cells ++ after) = some hit) :
    pieces find before (hit.cells ++ after) = .hit hit :: pieces find hit.cells.getLast? after := by
  have real := (lawful before _ hit found).1
  cases cells : hit.cells with
  | nil => exact absurd cells real
  | cons cell rest =>
      rw [cells] at found
      rw [pieces, List.cons_append, List.length_cons, scan]
      rw [List.cons_append] at found
      simp only [found, cells]
      rw [List.length_cons, List.drop_succ_cons, List.drop_left, List.length_append, Nat.add_comm rest.length,
        scan_enough find lawful, pieces]

def Quiet : Option α → List α → List α → Prop
  | _, [], _ => True
  | before, cell :: rest, after => find before (cell :: (rest ++ after)) = none ∧ Quiet (some cell) rest after

theorem pieces_quiet (quiet after : List α) (none_here : Quiet find before quiet after) :
    pieces find before (quiet ++ after) = quiet.map .plain ++ pieces find (quiet.getLast?.or before) after := by
  induction quiet generalizing before with
  | nil => rfl
  | cons cell rest ih =>
      rw [List.cons_append, pieces_plain find before cell _ none_here.1, ih (some cell) none_here.2, List.map_cons,
        List.cons_append]
      cases rest with
      | nil => rfl
      | cons next more =>
          have last : ∃ final, (next :: more).getLast? = some final := by
            rw [← Option.isSome_iff_exists, List.getLast?_isSome]
            exact List.cons_ne_nil _ _
          obtain ⟨final, ends⟩ := last
          rw [List.getLast?_cons_cons, ends]
          rfl

theorem quiet_append (front back after : List α)
    (first : Quiet find before front (back ++ after)) (second : Quiet find (front.getLast?.or before) back after) :
    Quiet find before (front ++ back) after := by
  induction front generalizing before with
  | nil => exact second
  | cons cell rest ih =>
      refine ⟨by simpa using first.1, ih (some cell) first.2 ?_⟩
      cases rest with
      | nil => exact second
      | cons next more =>
          rw [List.getLast?_cons_cons] at second
          cases ends : (next :: more).getLast? with
          | none => simp at ends
          | some final =>
              rw [ends] at second
              exact second

theorem quiet_drop (front back after : List α) (quiet : Quiet find before (front ++ back) after) :
    Quiet find (front.getLast?.or before) back after := by
  induction front generalizing before with
  | nil => exact quiet
  | cons cell rest ih =>
      have later := ih (some cell) quiet.2
      cases rest with
      | nil => exact later
      | cons next more =>
          rw [List.getLast?_cons_cons]
          cases ends : (next :: more).getLast? with
          | none => simp at ends
          | some final =>
              rw [ends] at later
              exact later

theorem quiet_or_hit (front after : List α) :
    Quiet find before front after ∨ ∃ quiet cell rest hit, front = quiet ++ cell :: rest ∧
      Quiet find before quiet (cell :: rest ++ after) ∧
      find (quiet.getLast?.or before) (cell :: rest ++ after) = some hit := by
  induction front generalizing before with
  | nil => exact .inl trivial
  | cons cell rest ih =>
      cases found : find before (cell :: rest ++ after) with
      | some hit => exact .inr ⟨[], cell, rest, hit, rfl, trivial, found⟩
      | none =>
          obtain later | ⟨quiet, next, more, hit, same, silent, here⟩ := ih (some cell)
          · exact .inl ⟨found, later⟩
          · subst same
            refine .inr ⟨cell :: quiet, next, more, hit, rfl, ⟨by simpa using found, silent⟩, ?_⟩
            cases quiet with
            | nil => exact here
            | cons other others =>
                rw [List.getLast?_cons_cons]
                cases ends : (other :: others).getLast? with
                | none => simp at ends
                | some final =>
                    rw [ends] at here
                    exact here

def Piece.cells {α : Type} : Piece α → List α
  | .plain cell => [cell]
  | .hit found => found.cells

include lawful in
theorem pieces_cells (cells : List α) : (pieces find before cells).flatMap Piece.cells = cells := by
  induction measured : cells.length using Nat.strongRecOn generalizing before cells with
  | ind bound ih =>
      subst measured
      cases cells with
      | nil => rfl
      | cons cell rest =>
          cases found : find before (cell :: rest) with
          | none =>
              rw [pieces_plain find before cell rest found, List.flatMap_cons, ih rest.length (by simp) _ rest rfl]
              rfl
          | some hit =>
              obtain ⟨real, after, split⟩ := lawful before _ hit found
              have shorter : after.length < (cell :: rest).length := by
                have some_cell : 0 < hit.cells.length := List.length_pos_of_ne_nil real
                rw [split, List.length_append]
                omega
              rw [split] at found ⊢
              rw [pieces_hit find lawful before hit after found, List.flatMap_cons, ih after.length shorter _ after rfl]
              rfl

include lawful in
theorem found_of_pieces (cells : List α) (front back : List (Piece α)) (hit : Hit α)
    (same : pieces find before cells = front ++ .hit hit :: back) :
    ∃ earlier, find earlier (hit.cells ++ back.flatMap Piece.cells) = some hit := by
  induction front generalizing before cells with
  | nil =>
      cases cells with
      | nil => cases same
      | cons cell rest =>
          cases found : find before (cell :: rest) with
          | none =>
              rw [pieces_plain find before cell rest found] at same
              cases same
          | some other =>
              obtain ⟨_, after, split⟩ := lawful before _ other found
              rw [split] at found same
              rw [pieces_hit find lawful before other after found] at same
              obtain ⟨first, later⟩ := List.cons.inj same
              cases first
              rw [← later, pieces_cells find lawful]
              exact ⟨before, found⟩
  | cons piece more ih =>
      cases cells with
      | nil => cases same
      | cons cell rest =>
          cases found : find before (cell :: rest) with
          | none =>
              rw [pieces_plain find before cell rest found] at same
              exact ih _ _ (List.cons.inj same).2
          | some other =>
              obtain ⟨_, after, split⟩ := lawful before _ other found
              rw [split] at found same
              rw [pieces_hit find lawful before other after found] at same
              exact ih _ _ (List.cons.inj same).2

end Lawful

theorem mem_substitute {α : Type} (mark : List α) (found : List (Piece α)) :
    ∀ cell ∈ substitute mark found, cell ∈ found.flatMap Piece.cells ∨ cell ∈ mark := by
  induction found with
  | nil => intro cell listed; cases listed
  | cons piece rest ih =>
      intro cell listed
      rw [substitute, List.flatMap_cons, List.mem_append] at listed
      rw [List.flatMap_cons, List.mem_append]
      rcases listed with here | later
      · cases piece with
        | plain other => exact .inl (.inl here)
        | hit hit =>
            rcases List.mem_append.mp here with kept | marked
            · exact .inl (.inl (List.mem_append_left _ (List.mem_append_left _ kept)))
            · exact .inr marked
      · exact (ih cell later).imp_left .inr

theorem mem_spans {α : Type} (place : Nat) (found : List (Piece α)) (span : Span) :
    span ∈ spans place found ↔ ∃ front hit back, found = front ++ .hit hit :: back ∧
      span = ⟨place + (front.flatMap Piece.cells).length,
        place + (front.flatMap Piece.cells).length + hit.kept.length + hit.lead.length,
        place + (front.flatMap Piece.cells).length + hit.cells.length⟩ := by
  induction found generalizing place with
  | nil => simp [spans]
  | cons piece rest ih =>
      constructor
      · intro listed
        cases piece with
        | plain cell =>
            obtain ⟨front, hit, back, same, placed⟩ := (ih (place + 1)).mp listed
            refine ⟨.plain cell :: front, hit, back, by rw [same, List.cons_append], ?_⟩
            rw [placed, List.flatMap_cons, Piece.cells, List.length_append, List.length_singleton, ← Nat.add_assoc]
        | hit other =>
            rcases List.mem_cons.mp listed with here | later
            · exact ⟨[], other, rest, rfl, here⟩
            · obtain ⟨front, hit, back, same, placed⟩ := (ih (place + other.cells.length)).mp later
              refine ⟨.hit other :: front, hit, back, by rw [same, List.cons_append], ?_⟩
              rw [placed, List.flatMap_cons, Piece.cells, List.length_append, ← Nat.add_assoc]
      · rintro ⟨front, hit, back, same, placed⟩
        cases front with
        | nil =>
            obtain ⟨rfl, rfl⟩ := List.cons.inj same
            rw [placed]
            exact List.mem_cons_self
        | cons first others =>
            obtain ⟨rfl, later⟩ := List.cons.inj same
            cases piece with
            | plain cell =>
                refine (ih (place + 1)).mpr ⟨others, hit, back, later, ?_⟩
                rw [placed, List.flatMap_cons, Piece.cells, List.length_append, List.length_singleton, ← Nat.add_assoc]
            | hit other =>
                refine List.mem_cons_of_mem _ ((ih (place + other.cells.length)).mpr ⟨others, hit, back, later, ?_⟩)
                rw [placed, List.flatMap_cons, Piece.cells, List.length_append, ← Nat.add_assoc]

theorem mem_hits {α : Type} (found : List (Piece α)) (hit : Hit α) :
    hit ∈ hits found ↔ ∃ front back, found = front ++ .hit hit :: back := by
  induction found with
  | nil => simp [hits]
  | cons piece rest ih =>
      cases piece with
      | plain cell =>
          rw [hits, ih]
          constructor
          · rintro ⟨front, back, same⟩
            exact ⟨.plain cell :: front, back, by rw [same, List.cons_append]⟩
          · rintro ⟨front, back, same⟩
            cases front with
            | nil => cases same
            | cons first others => exact ⟨others, back, (List.cons.inj same).2⟩
      | hit other =>
          rw [hits, List.mem_cons, ih]
          constructor
          · rintro (rfl | ⟨front, back, same⟩)
            · exact ⟨[], rest, rfl⟩
            · exact ⟨.hit other :: front, back, by rw [same, List.cons_append]⟩
          · rintro ⟨front, back, same⟩
            cases front with
            | nil =>
                cases same
                exact .inl rfl
            | cons first others => exact .inr ⟨others, back, (List.cons.inj same).2⟩

theorem substitute_append {α : Type} (mark : List α) (front back : List (Piece α)) :
    substitute mark (front ++ back) = substitute mark front ++ substitute mark back := List.flatMap_append

theorem substitute_plain {α : Type} (mark : List α) (cells : List α) :
    substitute mark (cells.map .plain) = cells := by
  induction cells with
  | nil => rfl
  | cons cell rest ih => simpa [substitute, Piece.substituted] using ih

theorem spans_plain {α : Type} (place : Nat) (cells : List α) (later : List (Piece α)) :
    spans place (cells.map .plain ++ later) = spans (place + cells.length) later := by
  induction cells generalizing place with
  | nil => rfl
  | cons cell rest ih =>
      rw [List.map_cons, List.cons_append, spans, ih, List.length_cons, Nat.add_assoc, Nat.add_comm 1]

theorem hits_append {α : Type} (front back : List (Piece α)) : hits (front ++ back) = hits front ++ hits back := by
  induction front with
  | nil => rfl
  | cons piece rest ih => cases piece <;> simp [hits, ih]

theorem hits_plain {α : Type} (cells : List α) : hits (cells.map .plain) = [] := by
  induction cells with
  | nil => rfl
  | cons cell rest ih => exact ih

theorem infix_apart {α : Type} (front back word : List α) (mark : α) (apart : mark ∉ word)
    (inside : word <:+: front ++ mark :: back) : word <:+: front ∨ word <:+: back := by
  obtain ⟨before, after, split⟩ := inside
  rcases List.append_eq_append_iff.mp split with ⟨more, whole, _⟩ | ⟨more, whole, later⟩
  · exact .inl ⟨before, more, whole.symm⟩
  · cases more with
    | nil => exact .inl ⟨before, [], by rw [List.append_nil, whole, List.append_nil]⟩
    | cons first rest =>
        obtain ⟨rfl, behind⟩ := List.cons.inj later
        rcases List.append_eq_append_iff.mp whole with ⟨gap, _, through⟩ | ⟨gap, _, through⟩
        · exact absurd (through ▸ List.mem_append_right _ List.mem_cons_self) apart
        · cases gap with
          | nil => exact absurd ((show mark :: rest = word from through) ▸ List.mem_cons_self) apart
          | cons other gap =>
              obtain ⟨_, remains⟩ := List.cons.inj through
              exact .inr ⟨gap, after, by rw [behind, remains]; rfl⟩

theorem infix_past {α : Type} (front back word : List α) (real : word ≠ []) (apart : ∀ cell ∈ front, cell ∉ word)
    (inside : word <:+: front ++ back) : word <:+: back := by
  induction front with
  | nil => exact inside
  | cons cell rest ih =>
      rcases infix_apart [] (rest ++ back) word cell (apart cell List.mem_cons_self) inside with none | later
      · exact absurd (List.infix_nil.mp none) real
      · exact ih (fun other listed => apart other (List.mem_cons_of_mem _ listed)) later

-- What avoids the ends of the mark, and is longer than what stands between them,
-- is read from cells that were read as they are.
theorem infix_substitute {α : Type} (opening closing : α) (middle word : List α)
    (avoids : opening ∉ word ∧ closing ∉ word) (long : middle.length < word.length) (found : List (Piece α))
    (front : List α) (inside : word <:+: front ++ substitute (opening :: (middle ++ [closing])) found) :
    word <:+: front ++ found.flatMap Piece.cells := by
  induction found generalizing front with
  | nil => exact inside
  | cons piece rest ih =>
      rw [substitute, List.flatMap_cons] at inside
      rw [List.flatMap_cons]
      cases piece with
      | plain cell =>
          have moved := ih (front ++ [cell]) (by rw [List.append_assoc]; exact inside)
          rw [List.append_assoc] at moved
          exact moved
      | hit hit =>
          have cut : front ++ ((Piece.hit hit).substituted (opening :: (middle ++ [closing])) ++
              rest.flatMap (Piece.substituted (opening :: (middle ++ [closing])))) =
              (front ++ hit.kept) ++ opening :: (middle ++ closing ::
                substitute (opening :: (middle ++ [closing])) rest) := by
            simp [Piece.substituted, substitute]
          rw [cut] at inside
          have cells : front ++ ((Piece.hit hit).cells ++ rest.flatMap Piece.cells) =
              (front ++ hit.kept) ++ (hit.lead ++ hit.secret ++ rest.flatMap Piece.cells) := by
            simp [Piece.cells, Hit.cells]
          rcases infix_apart _ _ word opening avoids.1 inside with early | later
          · rw [cells]
            exact early.trans (List.prefix_append _ _).isInfix
          · rcases infix_apart _ _ word closing avoids.2 later with mark | behind
            · exact absurd mark.length_le (Nat.not_le.mpr long)
            · have kept := ih [] behind
              rw [List.nil_append] at kept
              rw [← List.append_assoc]
              exact kept.trans (List.suffix_append _ _).isInfix

theorem infix_kept {α : Type} (find : Pattern α) (lawful : find.Lawful) (before : Option α) (opening closing : α)
    (middle word cells : List α) (avoids : opening ∉ word ∧ closing ∉ word) (long : middle.length < word.length)
    (inside : word <:+: substitute (opening :: (middle ++ [closing])) (pieces find before cells)) :
    word <:+: cells := by
  have kept := infix_substitute opening closing middle word avoids long (pieces find before cells) [] inside
  rw [List.nil_append, pieces_cells find lawful] at kept
  exact kept

section Map

variable {α β : Type} (f : α → β)

def Hit.map (hit : Hit α) : Hit β := ⟨hit.kept.map f, hit.lead.map f, hit.secret.map f⟩

def Piece.map : Piece α → Piece β
  | .plain cell => .plain (f cell)
  | .hit found => .hit (found.map f)

theorem Hit.cells_map (hit : Hit α) : (hit.map f).cells = hit.cells.map f := by
  simp only [Hit.map, Hit.cells, List.map_append]

theorem pieces_map (coarse : Pattern β) (fine : Pattern α)
    (same : ∀ before cells, coarse (before.map f) (cells.map f) = (fine before cells).map (Hit.map f))
    (before : Option α) (cells : List α) :
    pieces coarse (before.map f) (cells.map f) = (pieces fine before cells).map (Piece.map f) := by
  have counted : ∀ fuel,
      scan coarse fuel (before.map f) (cells.map f) = (scan fine fuel before cells).map (Piece.map f) := by
    intro fuel
    induction fuel generalizing before cells with
    | zero => rfl
    | succ fuel ih =>
        cases cells with
        | nil => rfl
        | cons cell rest =>
            have here := same before (cell :: rest)
            rw [List.map_cons] at here ⊢
            rw [scan, scan, here]
            cases fine before (cell :: rest) with
            | none => exact congrArg (Piece.plain (f cell) :: ·) (ih (some cell) rest)
            | some hit =>
                have later := ih hit.cells.getLast? ((cell :: rest).drop hit.cells.length)
                rw [List.map_drop, List.map_cons, ← List.getLast?_map, ← Hit.cells_map] at later
                simp only [Option.map_some, List.map_cons, Piece.map, Hit.cells_map, List.length_map] at later ⊢
                rw [later]
  rw [pieces, List.length_map, counted, pieces]

theorem substitute_map (mark : List α) (found : List (Piece α)) :
    substitute (mark.map f) (found.map (Piece.map f)) = (substitute mark found).map f := by
  induction found with
  | nil => rfl
  | cons piece rest ih =>
      simp only [substitute, List.map_cons, List.flatMap_cons, List.map_append] at ih ⊢
      rw [ih]
      cases piece <;> simp [Piece.map, Piece.substituted, Hit.map]

theorem spans_map (place : Nat) (found : List (Piece α)) :
    spans place (found.map (Piece.map f)) = spans place found := by
  induction found generalizing place with
  | nil => rfl
  | cons piece rest ih =>
      cases piece with
      | plain cell => exact ih (place + 1)
      | hit hit =>
          rw [List.map_cons, Piece.map, spans, spans, ih, Hit.cells_map, List.length_map]
          simp only [Hit.map, List.length_map]

end Map

end Foundation.Scanning
