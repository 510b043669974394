import Mathlib.Data.List.TakeWhile
import OrchestratorEngine.Captures.Redaction

set_option autoImplicit false

namespace OrchestratorEngine.Captures

open Foundation Foundation.Scanning

theorem Letters.word_of_ascii (letters : Letters) (point : Nat) (ascii : isAsciiWord point = true) :
    letters.word point = true := by
  have small : point < 128 := by
    simp only [isAsciiWord, decide_eq_true_eq] at ascii
    omega
  rw [letters.ascii point small, ascii]

def Leads (start : List (List Nat)) : Prop :=
  start.head? = some [103] ∧ ∀ options ∈ start, ∀ choice ∈ options, isAsciiWord choice = true

theorem github_token_leads : Leads githubToken := by
  unfold Leads
  decide

theorem github_pat_leads : Leads githubPat := by
  unfold Leads
  decide

section Cells

variable {α : Type} (point : α → Nat) (letters : Letters)

def isWord (cell : α) : Bool := letters.word (point cell)

def Fresh (cells : List α) : Prop := ∀ cell ∈ cells.head?, isWord point letters cell = false

def shaped (start : List (List Nat)) (word : List α) : Bool :=
  match spelled point start word with
  | none => false
  | some body => decide (20 ≤ body.length) && body.all fun cell => isAsciiWord (point cell)

def hidden (word : List α) : Bool := shaped point githubToken word || shaped point githubPat word

inductive Worded : List α → Prop where
  | nil : Worded []
  | other (cell : α) (rest : List α) (apart : isWord point letters cell = false) (later : Worded rest) :
      Worded (cell :: rest)
  | word (word rest : List α) (real : word ≠ []) (whole : ∀ cell ∈ word, isWord point letters cell = true)
      (fresh : Fresh point letters rest) (later : Worded rest) : Worded (word ++ rest)

theorem worded (cells : List α) : Worded point letters cells := by
  induction measured : cells.length using Nat.strongRecOn generalizing cells with
  | ind bound ih =>
      subst measured
      cases cells with
      | nil => exact .nil
      | cons cell rest =>
          cases kind : isWord point letters cell with
          | false => exact .other cell rest kind (ih rest.length (by simp) rest rfl)
          | true =>
              have shorter : (rest.dropWhile (isWord point letters)).length < (cell :: rest).length := by
                have bound := List.length_dropWhile_le (isWord point letters) rest
                rw [List.length_cons]
                omega
              have split : cell :: rest =
                  (cell :: rest.takeWhile (isWord point letters)) ++ rest.dropWhile (isWord point letters) := by
                rw [List.cons_append, List.takeWhile_append_dropWhile]
              rw [split]
              refine .word _ _ (List.cons_ne_nil _ _) (fun other listed => ?_) (fun other first => ?_)
                (ih _ shorter _ rfl)
              · rcases List.mem_cons.mp listed with rfl | listed
                · exact kind
                · exact List.mem_takeWhile_imp listed
              · have stopped := List.head?_dropWhile_not (isWord point letters) rest
                rw [Option.mem_def] at first
                rw [first] at stopped
                simpa using stopped

section Token

variable {point letters}
variable {start : List (List Nat)}

theorem spelled_split (options : List (List Nat)) (cells rest : List α)
    (read : spelled point options cells = some rest) :
    ∃ lead, cells = lead ++ rest ∧ List.Forall₂ (fun options cell => point cell ∈ options) options lead := by
  induction options generalizing cells with
  | nil =>
      cases read
      exact ⟨[], rfl, .nil⟩
  | cons choice more ih =>
      cases cells with
      | nil => cases read
      | cons cell cells =>
          rw [spelled] at read
          split at read
          · rename_i fits
            obtain ⟨lead, same, all⟩ := ih cells read
            exact ⟨cell :: lead, by rw [same, List.cons_append], .cons fits all⟩
          · cases read

theorem spelled_of_split (options : List (List Nat)) (lead rest : List α)
    (fits : List.Forall₂ (fun options cell => point cell ∈ options) options lead) :
    spelled point options (lead ++ rest) = some rest := by
  induction fits with
  | nil => rfl
  | cons here _ ih => rw [List.cons_append, spelled, if_pos here, ih]

theorem choices_all (kind : Nat → Prop) (options : List (List Nat)) (lead : List α)
    (kinds : ∀ choices ∈ options, ∀ choice ∈ choices, kind choice)
    (fits : List.Forall₂ (fun options cell => point cell ∈ options) options lead) : ∀ cell ∈ lead, kind
    (point cell) := by
  induction fits with
  | nil => intro cell listed; cases listed
  | cons here _ ih =>
      intro cell listed
      rcases List.mem_cons.mp listed with rfl | later
      · exact kinds _ List.mem_cons_self _ here
      · exact ih (fun choices more => kinds choices (List.mem_cons_of_mem _ more)) cell later

theorem leads_word (leads : Leads start) (word rest : List α) (read : spelled point start word = some rest) :
    ∃ lead, word = lead ++ rest ∧ (∀ cell ∈ lead, isAsciiWord (point cell) = true) ∧
      ∃ cell ∈ word.head?, point cell = 103 := by
  obtain ⟨lead, same, fits⟩ := spelled_split start word rest read
  refine ⟨lead, same, choices_all _ start lead leads.2 fits, ?_⟩
  cases fits with
  | nil => cases leads.1
  | cons here _ =>
      cases Option.some.inj leads.1
      exact ⟨_, by rw [same]; rfl, List.mem_singleton.mp here⟩

theorem word_of_ascii (letters : Letters) (cell : α) (ascii : isAsciiWord (point cell) = true) :
    isWord point letters cell = true :=
  letters.word_of_ascii _ ascii

theorem spelled_word (leads : Leads start) (word rest : List α) (fresh : Fresh point letters rest) :
    spelled point start (word ++ rest) = (spelled point start word).map (· ++ rest) := by
  have kinds := leads.2
  clear leads
  induction start generalizing word with
  | nil => rfl
  | cons options more ih =>
      cases word with
      | cons cell cells =>
          rw [List.cons_append, spelled, spelled,
            ih cells fun choices listed => kinds choices (List.mem_cons_of_mem _ listed)]
          split <;> rfl
      | nil =>
          cases rest with
          | nil => rfl
          | cons cell cells =>
              rw [List.nil_append, spelled, spelled, if_neg]
              · rfl
              · intro fits
                have word := word_of_ascii letters cell (kinds options List.mem_cons_self _ fits)
                rw [fresh cell rfl] at word
                cases word

theorem token_pattern_word (leads : Leads start) (before : Option α)
    (outside : before.any (isWord point letters) = false) (word rest : List α)
    (whole : ∀ cell ∈ word, isWord point letters cell = true) (fresh : Fresh point letters rest) :
    tokenPattern point letters start before (word ++ rest) =
      if shaped point start word then some ⟨[], [], word⟩ else none := by
  have apart : before.any (fun cell => letters.word (point cell)) = false := outside
  rw [tokenPattern, apart, spelled_word leads word rest fresh]
  cases read : spelled point start word with
  | none =>
      have shape : shaped point start word = false := by rw [shaped, read]
      rw [shape]
      rfl
  | some body =>
      obtain ⟨lead, same, _⟩ := leads_word leads word body read
      simp only [Option.map_some, Bool.false_eq_true, if_false]
      by_cases plain : ∀ cell ∈ body, isAsciiWord (point cell) = true
      · have stops : rest.takeWhile (fun cell => isAsciiWord (point cell)) = [] ∧
            rest.dropWhile (fun cell => isAsciiWord (point cell)) = rest := by
          cases rest with
          | nil => exact ⟨rfl, rfl⟩
          | cons cell cells =>
              have other : ¬ isAsciiWord (point cell) = true := fun ascii => by
                have word := word_of_ascii letters cell ascii
                rw [fresh cell rfl] at word
                cases word
              exact ⟨List.takeWhile_cons_of_neg other, List.dropWhile_cons_of_neg other⟩
        have after : rest.head?.any (fun cell => letters.word (point cell)) = false := by
          cases rest with
          | nil => rfl
          | cons cell cells => exact fresh cell rfl
        have shape : shaped point start word = decide (20 ≤ body.length) := by
          rw [shaped, read]
          simp only [List.all_eq_true.mpr plain, Bool.and_true]
        rw [List.takeWhile_append_of_pos plain, List.dropWhile_append_of_pos plain, stops.1, stops.2, List.append_nil,
          after, shape, List.length_append, Nat.add_sub_cancel, List.take_left]
        simp
      · push Not at plain
        obtain ⟨odd, listed, other⟩ := plain
        have not_all : body.all (fun cell => isAsciiWord (point cell)) = false := by
          rw [List.all_eq_false]
          exact ⟨odd, listed, other⟩
        have shape : shaped point start word = false := by
          rw [shaped, read]
          simp only [not_all, Bool.and_false]
        rw [shape, if_neg Bool.false_ne_true, if_neg]
        rintro ⟨_, ends⟩
        have inside : ∃ cell ∈ ((body ++ rest).dropWhile fun cell => isAsciiWord (point cell)).head?,
            isWord point letters cell = true := by
          rw [List.dropWhile_append]
          cases left : body.dropWhile fun cell => isAsciiWord (point cell) with
          | nil =>
              rw [List.dropWhile_eq_nil_iff] at left
              exact absurd (left odd listed) other
          | cons cell more =>
              have dropped : cell ∈ body.dropWhile fun cell => isAsciiWord (point cell) := by
                rw [left]
                exact List.mem_cons_self
              refine ⟨cell, rfl, whole cell ?_⟩
              rw [same]
              exact List.mem_append_right _ ((List.dropWhile_sublist _).subset dropped)
        obtain ⟨cell, first, word⟩ := inside
        rw [Option.mem_def] at first
        rw [first] at ends
        exact absurd word (by simpa [isWord] using ends)

theorem token_pattern_lawful : (tokenPattern point letters start).Lawful := by
  intro before cells hit found
  unfold tokenPattern at found
  split at found
  · cases found
  · split at found
    · cases found
    · rename_i body read
      dsimp only at found
      split at found
      · rename_i long
        cases found
        obtain ⟨lead, same, _⟩ := spelled_split start cells body read
        have cut : body.takeWhile (fun cell => isAsciiWord (point cell)) ++
            body.dropWhile (fun cell => isAsciiWord (point cell)) = body := List.takeWhile_append_dropWhile
        have parts := congrArg List.length cut
        rw [List.length_append] at parts
        refine ⟨fun none => ?_, _, (List.take_append_drop _ cells).symm⟩
        rw [Hit.cells, List.nil_append, List.nil_append, List.take_eq_nil_iff, same] at none
        rcases none with short | none
        · rw [List.length_append] at short
          omega
        · rw [List.append_eq_nil_iff] at none
          rw [none.2] at long
          simp at long
      · cases found

theorem token_pattern_inside (before : Option α) (inside : before.any (isWord point letters) = true) (cells : List α) :
    tokenPattern point letters start before cells = none := by
  have word : before.any (fun cell => letters.word (point cell)) = true := inside
  rw [tokenPattern, word]
  rfl

theorem token_pattern_apart (leads : Leads start) (before : Option α) (cells : List α)
    (fresh : Fresh point letters cells) :
    tokenPattern point letters start before cells = none := by
  cases inside : before.any (isWord point letters) with
  | true => exact token_pattern_inside before inside cells
  | false =>
      have here := token_pattern_word leads before inside [] cells (by simp) fresh
      rw [List.nil_append] at here
      rw [here, if_neg]
      rw [shaped]
      cases start with
      | nil => cases leads.1
      | cons => simp [spelled]

theorem pieces_before (before other : Option α)
    (same : before.any (isWord point letters) = other.any (isWord point letters)) (cells : List α) :
    pieces (tokenPattern point letters start) before cells = pieces (tokenPattern point letters start) other cells := by
  cases cells with
  | nil => rfl
  | cons cell rest =>
      have equal : tokenPattern point letters start before = tokenPattern point letters start other := by
        unfold isWord at same
        funext cells
        rw [tokenPattern, tokenPattern, same]
      rw [pieces, pieces, List.length_cons, scan, scan, equal]

theorem pieces_fresh (leads : Leads start) (before : Option α) (cells : List α) (fresh : Fresh point letters cells) :
    pieces (tokenPattern point letters start) before cells = pieces (tokenPattern point letters start) none cells := by
  cases cells with
  | nil => rfl
  | cons cell rest =>
      rw [pieces_plain _ before cell rest (token_pattern_apart leads before _ fresh),
        pieces_plain _ none cell rest (token_pattern_apart leads none _ fresh)]

theorem pieces_other (leads : Leads start) (cell : α) (rest : List α) (apart : isWord point letters cell = false) :
    pieces (tokenPattern point letters start) none (cell :: rest) =
      .plain cell :: pieces (tokenPattern point letters start) none rest := by
  have fresh : Fresh point letters (cell :: rest) := fun other first => by
    cases first
    exact apart
  rw [pieces_plain _ none cell rest (token_pattern_apart leads none _ fresh)]
  exact congrArg _ (pieces_before (some cell) none apart rest)

theorem quiet_inside (before : Option α) (inside : before.any (isWord point letters) = true) (word rest : List α)
    (whole : ∀ cell ∈ word, isWord point letters cell = true) :
    Quiet (tokenPattern point letters start) before word rest := by
  induction word generalizing before with
  | nil => trivial
  | cons cell more ih =>
      exact ⟨token_pattern_inside before inside _,
        ih (some cell) (whole cell List.mem_cons_self) fun other listed => whole other (List.mem_cons_of_mem _ listed)⟩

theorem pieces_word (leads : Leads start) (word rest : List α) (real : word ≠ [])
    (whole : ∀ cell ∈ word, isWord point letters cell = true) (fresh : Fresh point letters rest) :
    pieces (tokenPattern point letters start) none (word ++ rest) =
      (if shaped point start word then [.hit ⟨[], [], word⟩] else word.map .plain) ++
        pieces (tokenPattern point letters start) none rest := by
  have here := token_pattern_word leads none rfl word rest whole fresh
  cases shape : shaped point start word with
  | true =>
      rw [shape, if_pos rfl] at here
      rw [if_pos rfl]
      have hit := pieces_hit _ token_pattern_lawful none ⟨[], [], word⟩ rest here
      rw [pieces_fresh leads _ rest fresh] at hit
      exact hit
  | false =>
      rw [shape, if_neg Bool.false_ne_true] at here
      rw [if_neg Bool.false_ne_true]
      have quiet : Quiet (tokenPattern point letters start) none word rest := by
        cases word with
        | nil => trivial
        | cons cell more =>
            exact ⟨here, quiet_inside (some cell) (whole cell List.mem_cons_self) more rest
              fun other listed => whole other (List.mem_cons_of_mem _ listed)⟩
      rw [pieces_quiet _ none word rest quiet, pieces_fresh leads _ rest fresh]

end Token

end Cells

end OrchestratorEngine.Captures
