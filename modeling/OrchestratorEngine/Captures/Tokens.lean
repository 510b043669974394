import OrchestratorEngine.Captures.Words

set_option autoImplicit false

namespace OrchestratorEngine.Captures

open Foundation Foundation.Scanning

section Cells

variable {α : Type} {point : α → Nat} {letters : Letters} {mark : List α} {start : List (List Nat)}

theorem sub_other (leads : Leads start) (cell : α) (rest : List α) (apart : isWord point letters cell = false) :
    sub mark (tokenPattern point letters start) (cell :: rest) =
      cell :: sub mark (tokenPattern point letters start) rest := by
  rw [sub, pieces_other leads cell rest apart]
  rfl

theorem sub_word (leads : Leads start) (word rest : List α) (real : word ≠ [])
    (whole : ∀ cell ∈ word, isWord point letters cell = true) (fresh : Fresh point letters rest) :
    sub mark (tokenPattern point letters start) (word ++ rest) =
      (if shaped point start word then mark else word) ++ sub mark (tokenPattern point letters start) rest := by
  rw [sub, pieces_word leads word rest real whole fresh, substitute_append]
  cases shaped point start word with
  | true => simp [substitute, Piece.substituted, sub]
  | false => simp only [Bool.false_eq_true, if_false, substitute_plain, sub]

theorem fresh_cons (cell : α) (rest : List α) (apart : isWord point letters cell = false) :
    Fresh point letters (cell :: rest) := fun other first => by
  cases first
  exact apart

theorem fresh_sub (leads : Leads start) (cells : List α) (fresh : Fresh point letters cells) :
    Fresh point letters (sub mark (tokenPattern point letters start) cells) := by
  cases cells with
  | nil => exact fresh
  | cons cell rest =>
      rw [sub_other leads cell rest (fresh cell rfl)]
      exact fresh_cons cell _ (fresh cell rfl)

theorem shaped_opens (leads : Leads start) (word : List α) (shape : shaped point start word = true) :
    ∃ cell ∈ word.head?, point cell = 103 := by
  unfold shaped at shape
  split at shape
  · cases shape
  · rename_i body read
    exact (leads_word leads word body read).choose_spec.2.2

theorem hidden_opens (word : List α) (hides : hidden point word = true) : ∃ cell ∈ word.head?, point cell = 103 := by
  rw [hidden, Bool.or_eq_true] at hides
  rcases hides with shape | shape
  · exact shaped_opens github_token_leads word shape
  · exact shaped_opens github_pat_leads word shape

theorem mark_split (marked : mark.map point = redactedMark) : ∃ opening word closing,
    mark = opening :: word ++ [closing] ∧ point opening = 91 ∧ point closing = 93 ∧
      word.map point = [82, 69, 68, 65, 67, 84, 69, 68] := by
  rw [redactedMark, List.map_eq_cons_iff] at marked
  obtain ⟨opening, later, rfl, first, marked⟩ := marked
  have cut : later = later.take 8 ++ later.drop 8 := (List.take_append_drop 8 later).symm
  have back : (later.drop 8).map point = [93] := by
    rw [List.map_drop, marked]
    rfl
  obtain ⟨closing, ends, last⟩ := List.map_eq_singleton_iff.mp back
  refine ⟨opening, later.take 8, closing, ?_, first, last, ?_⟩
  · rw [← ends, List.cons_append, ← cut]
  · rw [List.map_take, marked]
    rfl

theorem is_word_eq (letters : Letters) (cell : α) (value : Nat) (same : point cell = value) (small : value < 128) :
    isWord point letters cell = isAsciiWord value := by
  rw [isWord, same, letters.ascii value small]

theorem sub_mark (leads : Leads start) (marked : mark.map point = redactedMark) (rest : List α) :
    sub mark (tokenPattern point letters start) (mark ++ rest) =
      mark ++ sub mark (tokenPattern point letters start) rest := by
  obtain ⟨opening, word, closing, same, first, last, spelling⟩ := mark_split marked
  have opens : isWord point letters opening = false := is_word_eq letters opening 91 first (by decide)
  have closes : isWord point letters closing = false := is_word_eq letters closing 93 last (by decide)
  have real : word ≠ [] := by
    rintro rfl
    cases spelling
  have whole : ∀ cell ∈ word, isWord point letters cell = true := by
    intro cell listed
    have value : point cell ∈ word.map point := List.mem_map_of_mem listed
    rw [spelling] at value
    have known : point cell < 128 ∧ isAsciiWord (point cell) = true := by
      revert value
      generalize point cell = letter
      intro value
      simp only [List.mem_cons, List.not_mem_nil, or_false] at value
      rcases value with rfl | rfl | rfl | rfl | rfl | rfl | rfl | rfl <;> decide
    rw [is_word_eq letters cell _ rfl known.1]
    exact known.2
  have kept : shaped point start word = false := by
    cases shape : shaped point start word with
    | false => rfl
    | true =>
        obtain ⟨cell, head, letter⟩ := shaped_opens leads word shape
        cases word with
        | nil => cases head
        | cons other more =>
            cases head
            rw [List.map_cons, letter] at spelling
            cases spelling
  have split : mark ++ rest = opening :: (word ++ closing :: rest) := by
    rw [same, List.append_assoc, List.cons_append, List.singleton_append]
  rw [split, sub_other leads opening _ opens, sub_word leads word _ real whole (fresh_cons closing rest closes), kept,
    sub_other leads closing rest closes, same]
  simp

theorem redact_other (cell : α) (rest : List α) (apart : isWord point letters cell = false) :
    redactTokens point letters mark (cell :: rest) = cell :: redactTokens point letters mark rest := by
  rw [redactTokens, sub_other github_token_leads cell rest apart, sub_other github_pat_leads cell _ apart, redactTokens]

theorem redact_word (marked : mark.map point = redactedMark) (word rest : List α) (real : word ≠ [])
    (whole : ∀ cell ∈ word, isWord point letters cell = true) (fresh : Fresh point letters rest) :
    redactTokens point letters mark (word ++ rest) =
      (if hidden point word then mark else word) ++ redactTokens point letters mark rest := by
  rw [redactTokens, sub_word github_token_leads word rest real whole fresh, hidden]
  cases shaped point githubToken word with
  | true => exact sub_mark github_pat_leads marked _
  | false => exact sub_word github_pat_leads word _ real whole (fresh_sub github_token_leads rest fresh)

theorem fresh_redact (cells : List α) (fresh : Fresh point letters cells) :
    Fresh point letters (redactTokens point letters mark cells) :=
  fresh_sub github_pat_leads _ (fresh_sub github_token_leads _ fresh)

theorem redact_append (marked : mark.map point = redactedMark) (front back : List α)
    (junction : (∀ cell ∈ front.getLast?, isWord point letters cell = false) ∨ Fresh point letters back) :
    redactTokens point letters mark (front ++ back) =
      redactTokens point letters mark front ++ redactTokens point letters mark back := by
  induction worded point letters front with
  | nil => rfl
  | other cell rest apart _ ih =>
      rw [List.cons_append, redact_other cell _ apart, redact_other cell rest apart, List.cons_append, ih]
      refine junction.imp_left fun last other ends => last other ?_
      cases rest with
      | nil => cases ends
      | cons next more => exact ends
  | word word rest real whole fresh _ ih =>
      have joined : Fresh point letters (rest ++ back) := by
        cases rest with
        | cons next more => exact fresh
        | nil =>
            rcases junction with last | fresh
            · obtain ⟨cell, ends⟩ := Option.isSome_iff_exists.mp (List.getLast?_isSome.mpr real)
              have inside := whole cell (List.mem_of_getLast? ends)
              rw [last cell (by rw [List.append_nil]; exact ends)] at inside
              cases inside
            · exact fresh
      rw [List.append_assoc, redact_word marked word _ real whole joined, redact_word marked word rest real whole fresh,
        ih, List.append_assoc]
      refine junction.imp_left fun last other ends => last other ?_
      rw [List.getLast?_append, ends]
      rfl

theorem mem_redact (marked : mark.map point = redactedMark) (cells : List α) :
    ∀ cell ∈ redactTokens point letters mark cells, cell ∈ cells ∨ cell ∈ mark := by
  induction worded point letters cells with
  | nil => intro cell listed; cases listed
  | other cell rest apart _ ih =>
      intro other listed
      rw [redact_other cell rest apart] at listed
      rcases List.mem_cons.mp listed with rfl | later
      · exact .inl List.mem_cons_self
      · exact (ih other later).imp_left (List.mem_cons_of_mem cell)
  | word word rest real whole fresh _ ih =>
      intro other listed
      rw [redact_word marked word rest real whole fresh] at listed
      rcases List.mem_append.mp listed with here | later
      · split at here
        · exact .inr here
        · exact .inl (List.mem_append_left _ here)
      · exact (ih other later).imp_left (List.mem_append_right word)

theorem redact_plain (marked : mark.map point = redactedMark) (cells : List α)
    (plain : ∀ cell ∈ cells, point cell ≠ 103) : redactTokens point letters mark cells = cells := by
  induction worded point letters cells with
  | nil => rfl
  | other cell rest apart _ ih =>
      rw [redact_other cell rest apart, ih fun other listed => plain other (List.mem_cons_of_mem cell listed)]
  | word word rest real whole fresh _ ih =>
      rw [redact_word marked word rest real whole fresh,
        ih fun other listed => plain other (List.mem_append_right word listed), if_neg]
      intro hides
      obtain ⟨cell, head, letter⟩ := hidden_opens word hides
      exact plain cell (List.mem_append_left _ (List.mem_of_head? head)) letter

structure Stands (point : α → Nat) (letters : Letters) (cells before word rest : List α) : Prop where
  split : cells = before ++ (word ++ rest)
  real : word ≠ []
  whole : ∀ cell ∈ word, isWord point letters cell = true
  fresh : Fresh point letters rest
  last : ∀ cell ∈ before.getLast?, isWord point letters cell = false

structure Token (point : α → Nat) (letters : Letters) (cells before word rest : List α) : Prop extends
    Stands point letters cells before word rest where
  hides : hidden point word = true

theorem last_append (front back : List α) (real : back ≠ []) : (front ++ back).getLast? = back.getLast? := by
  obtain ⟨cell, ends⟩ := Option.isSome_iff_exists.mp (List.getLast?_isSome.mpr real)
  rw [List.getLast?_append, ends, Option.some_or]

variable {cells before word rest : List α}

theorem Stands.other (stands : Stands point letters cells before word rest) (cell : α)
    (apart : isWord point letters cell = false) : Stands point letters (cell :: cells) (cell :: before) word rest := by
  refine ⟨by rw [stands.split, List.cons_append], stands.real, stands.whole, stands.fresh, fun other ends => ?_⟩
  cases before with
  | nil =>
      cases ends
      exact apart
  | cons next more => exact stands.last other ends

theorem Stands.later (stands : Stands point letters cells before word rest)
    (front : List α) (fresh : Fresh point letters cells) :
    Stands point letters (front ++ cells) (front ++ before) word rest := by
  refine ⟨by rw [stands.split, List.append_assoc], stands.real, stands.whole, stands.fresh, fun other ends => ?_⟩
  cases before with
  | cons next more =>
      rw [last_append front _ (List.cons_ne_nil _ _)] at ends
      exact stands.last other ends
  | nil =>
      have split := stands.split
      have whole := stands.whole
      cases word with
      | nil => exact absurd rfl stands.real
      | cons first more =>
          have apart := fresh first (by rw [split]; rfl)
          rw [whole first List.mem_cons_self] at apart
          cases apart

theorem word_unique (one other front back : List α) (whole : ∀ cell ∈ one, isWord point letters cell = true)
    (otherWhole : ∀ cell ∈ other, isWord point letters cell = true) (fresh : Fresh point letters front)
    (otherFresh : Fresh point letters back) (same : one ++ front = other ++ back) : one = other ∧ front = back := by
  have taken : ∀ (word rest : List α), (∀ cell ∈ word, isWord point letters cell = true) → Fresh point letters rest →
      (word ++ rest).takeWhile (isWord point letters) = word := by
    intro word rest whole fresh
    rw [List.takeWhile_append_of_pos whole]
    cases rest with
    | nil => exact List.append_nil _
    | cons cell more =>
        rw [List.takeWhile_cons_of_neg (by rw [fresh cell rfl]; exact Bool.false_ne_true), List.append_nil]
  have equal : one = other := by rw [← taken one front whole fresh, same, taken other back otherWhole otherFresh]
  subst equal
  exact ⟨rfl, List.append_cancel_left same⟩

theorem not_in_word (word : List α) (whole : ∀ cell ∈ word, isWord point letters cell = true) (cell : α)
    (apart : isWord point letters cell = false) : cell ∉ word := fun listed => by
  rw [whole cell listed] at apart
  cases apart

theorem Stands.first_or_later (front : List α)
    (frontWhole : ∀ cell ∈ front, isWord point letters cell = true) (fresh : Fresh point letters cells)
    (stands : Stands point letters (front ++ cells) before word rest) :
    (before = [] ∧ word = front ∧ rest = cells) ∨
      ∃ more, before = front ++ more ∧ Stands point letters cells more word rest := by
  by_cases none : before = []
  · subst none
    obtain ⟨same, left⟩ := word_unique front word cells rest frontWhole stands.whole fresh stands.fresh stands.split
    exact .inl ⟨rfl, same.symm, left.symm⟩
  · obtain ⟨final, ends⟩ := Option.isSome_iff_exists.mp (List.getLast?_isSome.mpr none)
    have apart := stands.last final ends
    rcases List.append_eq_append_iff.mp stands.split with ⟨more, split, same⟩ | ⟨more, split, _⟩
    · refine .inr ⟨more, split, same, stands.real, stands.whole, stands.fresh, fun other last => ?_⟩
      refine stands.last other ?_
      rw [split, List.getLast?_append, last]
      rfl
    · have inside : final ∈ front := by
        rw [split]
        exact List.mem_append_left _ (List.mem_of_getLast? ends)
      exact absurd inside (not_in_word front frontWhole final apart)

theorem hidden_word (marked : mark.map point = redactedMark) (cells : List α) (cell : α) (listed : cell ∈ cells)
    (gone : cell ∉ redactTokens point letters mark cells) :
    ∃ before word rest, Token point letters cells before word rest ∧ cell ∈ word := by
  induction worded point letters cells with
  | nil => cases listed
  | other first rest apart _ ih =>
      rw [redact_other first rest apart, List.mem_cons, not_or] at gone
      obtain ⟨before, word, after, token, inside⟩ := ih ((List.mem_cons.mp listed).resolve_left gone.1) gone.2
      exact ⟨first :: before, word, after, ⟨token.toStands.other first apart, token.hides⟩, inside⟩
  | word word rest real whole fresh _ ih =>
      rw [redact_word marked word rest real whole fresh, List.mem_append, not_or] at gone
      rcases List.mem_append.mp listed with here | later
      · cases hides : hidden point word with
        | true => exact ⟨[], word, rest, ⟨⟨rfl, real, whole, fresh, by simp⟩, hides⟩, here⟩
        | false =>
            rw [hides] at gone
            exact absurd here gone.1
      · obtain ⟨before, other, after, token, inside⟩ := ih later gone.2
        exact ⟨word ++ before, other, after, ⟨token.toStands.later word fresh, token.hides⟩, inside⟩

theorem token_hidden (marked : mark.map point = redactedMark) (cells before word rest : List α)
    (token : Token point letters cells before word rest) :
    redactTokens point letters mark cells =
      redactTokens point letters mark before ++ (mark ++ redactTokens point letters mark rest) := by
  rw [token.split, redact_append marked before _ (.inl token.last),
    redact_word marked word rest token.real token.whole token.fresh, token.hides, if_pos rfl]

theorem kept_iff (marked : mark.map point = redactedMark) (cells : List α) (distinct : cells.Nodup) (cell : α)
    (listed : cell ∈ cells) (own : cell ∉ mark) :
    cell ∈ redactTokens point letters mark cells ↔
      ¬ ∃ before word rest, Token point letters cells before word rest ∧ cell ∈ word := by
  constructor
  · rintro kept ⟨before, word, rest, token, inside⟩
    rw [token_hidden marked cells before word rest token] at kept
    have parts := List.nodup_append.mp (token.split ▸ distinct)
    rcases List.mem_append.mp kept with early | kept
    · have early := (mem_redact marked before cell early).resolve_right own
      exact parts.2.2 cell early cell (List.mem_append_left _ inside) rfl
    · have later := (List.mem_append.mp kept).resolve_left own
      have later := (mem_redact marked rest cell later).resolve_right own
      exact (List.nodup_append.mp parts.2.1).2.2 cell inside cell later rfl
  · intro none
    by_contra gone
    exact none (hidden_word marked cells cell listed gone)

theorem mem_pattern_spans (leads : Leads start) (cells : List α) (place : Nat) (span : Span) :
    span ∈ spans place (pieces (tokenPattern point letters start) none cells) ↔
      ∃ before word rest, Stands point letters cells before word rest ∧ shaped point start word = true ∧
        span = ⟨place + before.length, place + before.length, place + before.length + word.length⟩ := by
  induction worded point letters cells generalizing place with
  | nil =>
      constructor
      · intro listed
        cases listed
      · rintro ⟨before, word, rest, stands, _⟩
        have none := stands.split.symm
        simp only [List.append_eq_nil_iff] at none
        exact absurd none.2.1 stands.real
  | other cell rest apart _ ih =>
      rw [pieces_other leads cell rest apart, spans, ih]
      constructor
      · rintro ⟨before, word, after, stands, shape, rfl⟩
        refine ⟨cell :: before, word, after, stands.other cell apart, shape, ?_⟩
        rw [List.length_cons, Nat.add_assoc, Nat.add_comm 1]
      · rintro ⟨before, word, after, stands, shape, rfl⟩
        cases before with
        | nil =>
            have split := stands.split
            cases word with
            | nil => exact absurd rfl stands.real
            | cons first more =>
                obtain ⟨rfl, _⟩ := List.cons.inj split
                rw [stands.whole cell List.mem_cons_self] at apart
                cases apart
        | cons first more =>
            obtain ⟨rfl, split⟩ := List.cons.inj stands.split
            refine ⟨more, word, after, ⟨split, stands.real, stands.whole, stands.fresh,
              fun other ends => ?_⟩, shape, ?_⟩
            · refine stands.last other ?_
              cases more with
              | nil => cases ends
              | cons next others => exact ends
            · rw [List.length_cons, Nat.add_assoc place 1, Nat.add_comm 1]
  | word word rest real whole fresh _ ih =>
      have spanned : spans place (pieces (tokenPattern point letters start) none (word ++ rest)) =
          (if shaped point start word then [⟨place, place, place + word.length⟩] else []) ++
            spans (place + word.length) (pieces (tokenPattern point letters start) none rest) := by
        rw [pieces_word leads word rest real whole fresh]
        cases shaped point start word with
        | true => rfl
        | false => exact spans_plain place word _
      rw [spanned, List.mem_append, ih]
      constructor
      · rintro (here | ⟨before, other, after, stands, shape, rfl⟩)
        · cases shape : shaped point start word with
          | false =>
              rw [shape] at here
              cases here
          | true =>
              rw [shape] at here
              exact ⟨[], word, rest, ⟨rfl, real, whole, fresh, by simp⟩, shape, List.mem_singleton.mp here⟩
        · refine ⟨word ++ before, other, after, stands.later word fresh, shape, ?_⟩
          rw [List.length_append, ← Nat.add_assoc]
      · rintro ⟨before, other, after, stands, shape, rfl⟩
        rcases stands.first_or_later word whole fresh with ⟨rfl, rfl, rfl⟩ | ⟨more, rfl, inner⟩
        · rw [shape, if_pos rfl]
          exact .inl List.mem_cons_self
        · refine .inr ⟨more, other, after, inner, shape, ?_⟩
          rw [List.length_append, ← Nat.add_assoc]

theorem mem_token_spans (cells : List α) (place : Nat) (span : Span) :
    span ∈ spans place (pieces (tokenPattern point letters githubToken) none cells) ++
        spans place (pieces (tokenPattern point letters githubPat) none cells) ↔
      ∃ before word rest, Token point letters cells before word rest ∧
        span = ⟨place + before.length, place + before.length, place + before.length + word.length⟩ := by
  rw [List.mem_append, mem_pattern_spans github_token_leads, mem_pattern_spans github_pat_leads]
  constructor
  · rintro (⟨before, word, rest, stands, shape, same⟩ | ⟨before, word, rest, stands, shape, same⟩)
    · exact ⟨before, word, rest, ⟨stands, by rw [hidden, shape, Bool.true_or]⟩, same⟩
    · exact ⟨before, word, rest, ⟨stands, by rw [hidden, shape, Bool.or_true]⟩, same⟩
  · rintro ⟨before, word, rest, ⟨stands, hides⟩, same⟩
    rw [hidden, Bool.or_eq_true] at hides
    exact hides.imp (fun shape => ⟨before, word, rest, stands, shape, same⟩)
      fun shape => ⟨before, word, rest, stands, shape, same⟩

end Cells

end OrchestratorEngine.Captures
