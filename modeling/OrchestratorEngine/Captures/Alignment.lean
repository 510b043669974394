import OrchestratorEngine.Captures.Headers

set_option autoImplicit false

namespace OrchestratorEngine.Captures

open Foundation Foundation.Scanning
open WorkerLease (isSpace)

section Cells

variable {α : Type} {point : α → Nat} {letters : Letters} {mark : List α}

theorem redact_inverse (marked : mark.map point = redactedMark) (cells front back : List α)
    (hides : redactTokens point letters mark cells = front ++ back) (plain : ∀ cell ∈ front, point cell ≠ 91)
    (ends : ∀ cell ∈ front.getLast?, isWord point letters cell = false) :
    ∃ rest, cells = front ++ rest ∧ redactTokens point letters mark rest = back := by
  induction worded point letters cells generalizing front with
  | nil =>
      obtain ⟨rfl, rfl⟩ := List.append_eq_nil_iff.mp hides.symm
      exact ⟨[], rfl, rfl⟩
  | other cell rest apart _ ih =>
      cases front with
      | nil => exact ⟨cell :: rest, rfl, hides⟩
      | cons first more =>
          rw [redact_other cell rest apart, List.cons_append] at hides
          obtain ⟨rfl, later⟩ := List.cons.inj hides
          obtain ⟨left, split, same⟩ := ih more later (fun other listed => plain other (List.mem_cons_of_mem _ listed))
            (fun other last => ends other (by
              cases more with
              | nil => cases last
              | cons next others => exact last))
          exact ⟨left, by rw [split, List.cons_append], same⟩
  | word word rest real whole fresh _ ih =>
      rw [redact_word marked word rest real whole fresh] at hides
      cases front with
      | nil =>
          refine ⟨word ++ rest, rfl, ?_⟩
          rw [redact_word marked word rest real whole fresh]
          exact hides
      | cons first more =>
          split at hides
          · obtain ⟨opening, inside, closing, same, bracket, _⟩ := mark_split marked
            rw [same, List.cons_append, List.cons_append, List.cons_append] at hides
            obtain ⟨rfl, _⟩ := List.cons.inj hides
            exact absurd bracket (plain opening List.mem_cons_self)
          · rcases List.append_eq_append_iff.mp hides with ⟨later, split, same⟩ | ⟨later, split, same⟩
            · -- the front goes on after the word
              obtain ⟨left, cut, hidden⟩ := ih later same
                (fun other listed => plain other (by rw [split]; exact List.mem_append_right _ listed))
                (fun other last => ends other (by rw [split, List.getLast?_append, last]; rfl))
              exact ⟨left, by rw [cut, split, List.append_assoc], hidden⟩
            · -- the front ends inside the word, or with it
              cases later with
              | nil =>
                  rw [List.append_nil] at split
                  rw [List.nil_append] at same
                  exact ⟨rest, by rw [split], same.symm⟩
              | cons next others =>
                  have last : ∃ cell, (first :: more).getLast? = some cell :=
                    Option.isSome_iff_exists.mp (List.getLast?_isSome.mpr (List.cons_ne_nil _ _))
                  obtain ⟨cell, last⟩ := last
                  have inside : cell ∈ word := by
                    rw [split]
                    exact List.mem_append_left _ (List.mem_of_getLast? last)
                  exact absurd inside (not_in_word word whole cell (ends cell last))

theorem redact_all (marked : mark.map point = redactedMark) (secret : List α) (filled : secret ≠ [])
    (gone : ∀ cell ∈ secret, cell ∉ redactTokens point letters mark secret) :
    redactTokens point letters mark secret = mark := by
  cases worded point letters secret with
  | nil => exact absurd rfl filled
  | other cell rest apart _ =>
      refine absurd ?_ (gone cell List.mem_cons_self)
      rw [redact_other cell rest apart]
      exact List.mem_cons_self
  | word word rest real whole fresh _ =>
      rw [redact_word marked word rest real whole fresh] at gone ⊢
      cases hides : hidden point word with
      | false =>
          obtain ⟨cell, listed⟩ := List.exists_mem_of_ne_nil word real
          refine absurd ?_ (gone cell (List.mem_append_left rest listed))
          rw [hides]
          exact List.mem_append_left _ listed
      | true =>
          cases rest with
          | nil => exact List.append_nil mark
          | cons next more =>
              refine absurd ?_ (gone next (List.mem_append_right word List.mem_cons_self))
              rw [redact_other next more (fresh next rfl)]
              exact List.mem_append_right _ List.mem_cons_self

theorem redact_kept (marked : mark.map point = redactedMark) (secret : List α) (cell : α) (cell_in : cell ∈ secret)
    (own : cell ∉ mark) (kept : cell ∈ redactTokens point letters mark secret) :
    ∃ front first rest, redactTokens point letters mark secret = front ++ first :: rest ∧
      (front = [] ∨ front = mark) ∧ first ∈ secret := by
  cases worded point letters secret with
  | nil => cases cell_in
  | other cell rest apart _ =>
      exact ⟨[], cell, _, redact_other cell rest apart, .inl rfl, List.mem_cons_self⟩
  | word word rest real whole fresh _ =>
      rw [redact_word marked word rest real whole fresh] at kept ⊢
      cases hides : hidden point word with
      | false =>
          cases word with
          | nil => exact absurd rfl real
          | cons first more => exact ⟨[], first, _, rfl, .inl rfl, List.mem_cons_self⟩
      | true =>
          cases rest with
          | cons next more =>
              rw [redact_other next more (fresh next rfl)]
              exact ⟨mark, next, _, rfl, .inr rfl, List.mem_append_right word List.mem_cons_self⟩
          | nil =>
              rw [hides] at kept
              have here : cell ∈ mark ++ [] := kept
              rw [List.append_nil] at here
              exact absurd here own

theorem silent_mark (marked : mark.map point = redactedMark) : Silent point mark := by
  have fits : ∀ cells : List α,
      List.Forall₂ (fun options cell => point cell ∈ options) ((cells.map point).map fun value => [value]) cells := by
    intro cells
    induction cells with
    | nil => exact .nil
    | cons cell rest ih => exact .cons (List.mem_singleton.mpr rfl) ih
  have own := fits mark
  rw [marked] at own
  exact silent_spelled _ mark (by decide) own

theorem mem_credentials (cells : List α) :
    ∀ cell ∈ redactCredentials point mark cells, cell ∈ cells ∨ cell ∈ mark := by
  intro cell listed
  have found := mem_substitute mark _ cell listed
  rwa [pieces_cells _ authorization_lawful] at found

theorem header_apart (letters : Letters) (header : Header point) (front back : List α)
    (split : header.kept ++ header.lead = front ++ back) :
    ∀ cell ∈ back.getLast?, isWord point letters cell = false := by
  intro cell ends
  obtain ⟨start, last, same, space⟩ := header_ends header
  have final : (front ++ back).getLast? = some last := by rw [← split, same, List.getLast?_concat]
  rw [List.getLast?_append, ends] at final
  rw [Option.some_or] at final
  cases final
  exact space_apart letters _ space

theorem header_rest_silent (header : Header point) (front back : List α) (real : front ≠ [])
    (split : header.kept ++ header.lead = front ++ back) : Silent point back := by
  have silent := header_silent header
  cases front with
  | nil => exact absurd rfl real
  | cons first more =>
      rw [split] at silent
      exact silent_drop more back silent

theorem header_rest_plain (marked : mark.map point = redactedMark) (header : Header point) (front back : List α)
    (split : header.kept ++ header.lead = front ++ back) : redactTokens point letters mark back = back :=
  redact_plain marked back fun cell listed =>
    (header_plain header cell (by rw [split]; exact List.mem_append_right _ listed)).1

theorem fresh_of_space (letters : Letters) (cells : List α)
    (stops : ∀ cell ∈ cells.head?, isSpace (point cell) = true) :
    Fresh point letters cells := fun cell head => space_apart letters cell (stops cell head)

theorem redact_value (marked : mark.map point = redactedMark) (header : Header point) (front back secret rest : List α)
    (split : header.kept ++ header.lead = front ++ back)
    (stops : ∀ cell ∈ rest.head?, isSpace (point cell) = true) :
    redactTokens point letters mark (back ++ (secret ++ rest)) =
      back ++ (redactTokens point letters mark secret ++ redactTokens point letters mark rest) := by
  rw [redact_append marked back _ (.inl (header_apart letters header front back split)),
    redact_append marked secret rest (.inr (fresh_of_space letters rest stops)),
    header_rest_plain marked header front back split]

theorem credentials_past (marked : mark.map point = redactedMark) (header : Header point)
    (front back secret rest : List α) (real : front ≠ []) (split : header.kept ++ header.lead = front ++ back)
    (filled : secret ≠ []) (gone : ∀ cell ∈ secret, cell ∉ redactTokens point letters mark secret)
    (stops : ∀ cell ∈ rest.head?, isSpace (point cell) = true) :
    redactCredentials point mark (redactTokens point letters mark (back ++ (secret ++ rest))) =
      back ++ (mark ++ redactCredentials point mark (redactTokens point letters mark rest)) := by
  rw [redact_value marked header front back secret rest split stops, redact_all marked secret filled gone,
    ← List.append_assoc, credentials_quiet mark (back ++ mark), List.append_assoc]
  exact silent_append back mark (header_rest_silent header front back real split) (silent_mark marked) _

theorem match_in_word (word rest : List α) (whole : ∀ cell ∈ word, isWord point letters cell = true)
    (fresh : Fresh point letters rest) (hit : Hit α)
    (found : authorizationPattern point none (word ++ rest) = some hit) :
    ∃ (header : Header point) (after : List α), header.name = word ∧
      rest = (header.before ++ header.colon :: header.after ++ header.lead) ++ (hit.secret ++ after) ∧
      hit.kept = header.kept ∧ hit.lead = header.lead ∧ Credential point hit.secret after := by
  obtain ⟨header, after, split, kept, lead, credential⟩ := authorization_split none _ hit found
  have cut : word ++ rest =
      header.name ++ ((header.before ++ header.colon :: header.after ++ header.lead) ++ (hit.secret ++ after)) := by
    rw [split, Header.kept]
    simp
  have next : Fresh point letters
      ((header.before ++ header.colon :: header.after ++ header.lead) ++ (hit.secret ++ after)) := by
    rw [List.append_assoc]
    exact header_value_fresh letters header _
  obtain ⟨same, later⟩ := word_unique word header.name rest _ whole (name_word letters header.name header.named)
    fresh next cut
  exact ⟨header, after, same.symm, later, kept, lead, credential⟩

theorem header_from_name (header : Header point) : header.kept ++ header.lead =
    header.name ++ (header.before ++ header.colon :: header.after ++ header.lead) := by
  rw [Header.kept]
  simp

theorem match_inverse (marked : mark.map point = redactedMark) (word rest : List α)
    (whole : ∀ cell ∈ word, isWord point letters cell = true) (fresh : Fresh point letters rest) (hit : Hit α)
    (found : authorizationPattern point none (word ++ redactTokens point letters mark rest) = some hit) :
    ∃ other, authorizationPattern point none (word ++ rest) = some other := by
  obtain ⟨header, after, same, split, _, _, credential⟩ :=
    match_in_word word _ whole (fresh_redact rest fresh) hit found
  obtain ⟨left, cut, hides⟩ := redact_inverse marked rest _ _ split
    (fun cell listed => (header_plain header cell (by
      rw [header_from_name]
      exact List.mem_append_right _ listed)).2)
    (header_apart letters header header.name _ (header_from_name header))
  have opens : ∀ cell ∈ left.head?, isSpace (point cell) = false := by
    intro cell head
    cases left with
    | nil => cases head
    | cons first more =>
        cases head
        cases kind : isWord point letters cell with
        | true =>
            cases space : isSpace (point cell) with
            | false => rfl
            | true =>
                rw [space_apart letters cell space] at kind
                cases kind
        | false =>
            rw [redact_other cell more kind] at hides
            cases secret : hit.secret with
            | nil => exact absurd secret credential.1
            | cons opening others =>
                rw [secret, List.cons_append] at hides
                obtain ⟨rfl, _⟩ := List.cons.inj hides
                exact credential.2.1 cell (by rw [secret]; exact List.mem_cons_self)
  have filled : left ≠ [] := by
    rintro rfl
    have none : hit.secret ++ after = [] := hides.symm
    exact credential.1 (List.append_eq_nil_iff.mp none).1
  have stands : Credential point (left.takeWhile fun cell => !isSpace (point cell))
      (left.dropWhile fun cell => !isSpace (point cell)) := by
    refine ⟨?_, fun cell listed => ?_, fun cell head => ?_⟩
    · cases left with
      | nil => exact absurd rfl filled
      | cons first more =>
          rw [List.takeWhile_cons_of_pos (by rw [opens first rfl]; rfl)]
          exact List.cons_ne_nil _ _
    · have kind := List.mem_takeWhile_imp listed
      simpa using kind
    · have stops := List.head?_dropWhile_not (fun cell => !isSpace (point cell)) left
      rw [Option.mem_def] at head
      rw [head] at stops
      simpa using stops
  have whole_text : word ++ rest = header.kept ++ header.lead ++ (left.takeWhile fun cell => !isSpace (point cell)) ++
      left.dropWhile fun cell => !isSpace (point cell) := by
    rw [List.append_assoc, List.takeWhile_append_dropWhile, header_from_name, same, cut]
    simp
  rw [whole_text]
  exact ⟨_, authorization_found none header _ _ stands⟩

theorem quiet_redact (marked : mark.map point = redactedMark) (front back rest : List α)
    (whole : ∀ cell ∈ front ++ back, isWord point letters cell = true) (fresh : Fresh point letters rest)
    (quiet : Quiet (authorizationPattern point) none front (back ++ rest)) :
    Quiet (authorizationPattern point) none front (back ++ redactTokens point letters mark rest) := by
  obtain silent | ⟨before, cell, after, hit, split, _, found⟩ :=
    quiet_or_hit (authorizationPattern point) none front (back ++ redactTokens point letters mark rest)
  · exact silent
  · subst split
    have later : ∀ other ∈ cell :: after ++ back, isWord point letters other = true := by
      intro other listed
      refine whole other ?_
      rw [List.append_assoc]
      exact List.mem_append_right _ listed
    rw [← List.append_assoc] at found
    obtain ⟨other, here⟩ := match_inverse marked (cell :: after ++ back) rest later fresh hit found
    have none_here := (quiet_drop _ none before (cell :: after) _ quiet).1
    rw [List.append_assoc, List.cons_append] at here
    exact absurd (none_here.symm.trans here) (by simp)

theorem authorization_placed (cells : List α) (hit : Hit α) (listed : hit ∈ authorizations point cells) :
    ∃ front back, cells = front ++ (hit.cells ++ back) ∧ authorizationPattern point none
    (hit.cells ++ back) = some hit := by
  obtain ⟨front, back, same⟩ := (mem_hits _ hit).mp listed
  obtain ⟨earlier, found⟩ := found_of_pieces _ authorization_lawful none cells front back hit same
  refine ⟨front.flatMap Piece.cells, back.flatMap Piece.cells, ?_, found⟩
  rw [← pieces_cells (authorizationPattern point) authorization_lawful none cells, same, List.flatMap_append,
    List.flatMap_cons, Piece.cells]

theorem kept_opens (before : Option α) (cells : List α) (hit : Hit α)
    (found : authorizationPattern point before cells = some hit) :
    ∃ cell kept rest, hit.kept = cell :: kept ∧ cells = cell :: rest := by
  obtain ⟨header, rest, split, kept, _⟩ := authorization_split before cells hit found
  have real := name_real header.name header.named
  cases name : header.name with
  | nil => exact absurd name real
  | cons cell more =>
      refine ⟨cell, more ++ (header.before ++ header.colon :: header.after),
        more ++ (header.before ++ header.colon :: header.after) ++ header.lead ++ hit.secret ++ rest, ?_, ?_⟩
      · rw [kept, Header.kept, name]
        simp
      · rw [split, Header.kept, name]
        simp

def Reached (kept : List α) (hit : Hit α) : Prop :=
  (∃ cell ∈ hit.kept.head?, cell ∈ kept) ∨ ∀ cell ∈ hit.secret, cell ∉ kept

def Aligned (point : α → Nat) (mark cells kept : List α) : Prop :=
  (∀ hit ∈ authorizations point cells, Reached kept hit) →
    ∀ hit ∈ authorizations point cells, ∀ cell ∈ hit.secret, cell ∉ redactCredentials point mark kept

theorem aligned_step (gone rest kept front later out : List α) (extra : List (Hit α))
    (aligned : Aligned point mark rest later) (tokens : kept = front ++ later)
    (credentials : redactCredentials point mark kept = out ++ redactCredentials point mark later)
    (found : authorizations point (gone ++ rest) = extra ++ authorizations point rest)
    (front_apart : ∀ cell ∈ front, cell ∉ rest) (out_apart : ∀ cell ∈ out, cell ∉ rest)
    (settled : ∀ hit ∈ extra, Reached kept hit → ∀ cell ∈ hit.secret, cell ∉ redactCredentials point mark kept) :
    Aligned point mark (gone ++ rest) kept := by
  intro reached hit listed
  rw [found] at reached listed
  rcases List.mem_append.mp listed with first | second
  · exact settled hit first (reached hit listed)
  · intro cell inside
    have member : ∀ other ∈ authorizations point rest, ∀ cell ∈ other.cells, cell ∈ rest := by
      intro other placed cell inside
      obtain ⟨before, after, split, _⟩ := authorization_placed rest other placed
      rw [split]
      exact List.mem_append_right _ (List.mem_append_left _ inside)
    have reaches : ∀ other ∈ authorizations point rest, Reached later other := by
      intro other placed
      rcases reached other (List.mem_append_right _ placed) with ⟨cell, head, kept⟩ | none
      · refine .inl ⟨cell, head, ?_⟩
        rw [tokens] at kept
        refine (List.mem_append.mp kept).resolve_left fun early => front_apart cell early (member other placed cell ?_)
        exact List.mem_append_left _ (List.mem_append_left _ (List.mem_of_head? head))
      · refine .inr fun cell inside kept => none cell inside ?_
        rw [tokens]
        exact List.mem_append_right _ kept
    rw [credentials, List.mem_append, not_or]
    refine ⟨fun early => out_apart cell early (member hit second cell ?_), aligned reaches hit second cell inside⟩
    exact List.mem_append_right _ inside

theorem apart_of (gone rest : List α) (distinct : (gone ++ rest).Nodup) (own : ∀ cell ∈ gone ++ rest, cell ∉ mark)
    (cell : α) (from_gone : cell ∈ gone ∨ cell ∈ mark) : cell ∉ rest := by
  intro listed
  rcases from_gone with early | marks
  · exact (List.nodup_append.mp distinct).2.2 cell early cell listed rfl
  · exact own cell (List.mem_append_right _ listed) marks

theorem silent_apart (cell : α) (apart : isWord point letters cell = false) : Silent point [cell] := by
  refine silent_cons cell [] ⟨fun letter => ?_, fun letter => ?_⟩ silent_nil
  · rw [is_word_eq letters cell 97 letter (by decide)] at apart
    cases apart
  · rw [is_word_eq letters cell 65 letter (by decide)] at apart
    cases apart

theorem aligned_other (cell : α) (rest : List α)
    (apart : isWord point letters cell = false) (distinct : (cell :: rest).Nodup)
    (own : ∀ other ∈ cell :: rest, other ∉ mark)
    (aligned : Aligned point mark rest (redactTokens point letters mark rest)) :
    Aligned point mark (cell :: rest) (redactTokens point letters mark (cell :: rest)) := by
  have silent := silent_apart cell apart
  have before := apart_of [cell] rest distinct own
  refine aligned_step [cell] rest _ [cell] _ [cell] [] aligned ?_ ?_ ?_ (fun other here => before other (.inl here))
    (fun other here => before other (.inl here)) (by simp)
  · exact redact_other cell rest apart
  · rw [redact_other cell rest apart]
    exact credentials_quiet mark [cell] _ (silent _)
  · exact authorizations_quiet [cell] rest (silent rest)

theorem aligned_quiet (marked : mark.map point = redactedMark) (word rest : List α) (real : word ≠ [])
    (whole : ∀ cell ∈ word, isWord point letters cell = true) (fresh : Fresh point letters rest)
    (distinct : (word ++ rest).Nodup) (own : ∀ cell ∈ word ++ rest, cell ∉ mark)
    (quiet : Quiet (authorizationPattern point) none word rest)
    (aligned : Aligned point mark rest (redactTokens point letters mark rest)) :
    Aligned point mark (word ++ rest) (redactTokens point letters mark (word ++ rest)) := by
  have before := apart_of word rest distinct own
  rw [redact_word marked word rest real whole fresh]
  cases hidden point word with
  | true =>
      exact aligned_step word rest _ mark _ mark [] aligned rfl (credentials_quiet mark mark _ (silent_mark marked _))
        (authorizations_quiet word rest quiet) (fun cell here => before cell (.inr here))
        (fun cell here => before cell (.inr here)) (by simp)
  | false =>
      have silent := quiet_redact marked word [] rest (by simpa using whole) fresh quiet
      exact aligned_step word rest _ word _ word [] aligned rfl (credentials_quiet mark word _ silent)
        (authorizations_quiet word rest quiet) (fun cell here => before cell (.inl here))
        (fun cell here => before cell (.inl here)) (by simp)

theorem mark_not_space (marked : mark.map point = redactedMark) : ∀ cell ∈ mark, isSpace (point cell) = false := by
  intro cell listed
  have value : point cell ∈ mark.map point := List.mem_map_of_mem listed
  rw [marked] at value
  have none : ∀ letter ∈ redactedMark, isSpace letter = false := by decide
  exact none _ value

theorem mark_real (marked : mark.map point = redactedMark) : mark ≠ [] := by
  rintro rfl
  cases marked

theorem redact_real (marked : mark.map point = redactedMark) (cells : List α) (real : cells ≠ []) :
    redactTokens point letters mark cells ≠ [] := by
  cases worded point letters cells with
  | nil => exact absurd rfl real
  | other cell rest apart _ =>
      rw [redact_other cell rest apart]
      exact List.cons_ne_nil _ _
  | word word rest filled whole fresh _ =>
      rw [redact_word marked word rest filled whole fresh]
      cases hidden point word with
      | true => exact List.append_ne_nil_of_left_ne_nil (mark_real marked) _
      | false => exact List.append_ne_nil_of_left_ne_nil filled _

theorem credential_redact (marked : mark.map point = redactedMark) (secret rest : List α)
    (credential : Credential point secret rest) :
    Credential point (redactTokens point letters mark secret) (redactTokens point letters mark rest) := by
  refine ⟨redact_real marked secret credential.1, fun cell listed => ?_, fun cell head => ?_⟩
  · rcases mem_redact marked secret cell listed with own | marks
    · exact credential.2.1 cell own
    · exact mark_not_space marked cell marks
  · cases rest with
    | nil => cases head
    | cons next more =>
        rw [redact_other next more (space_apart letters next (credential.2.2 next rfl))] at head
        cases head
        exact credential.2.2 _ rfl

theorem aligned_match (marked : mark.map point = redactedMark) (before name value rest : List α) (hit : Hit α)
    (whole : ∀ cell ∈ before ++ name, isWord point letters cell = true) (fresh : Fresh point letters value)
    (real : name ≠ []) (distinct : (before ++ (name ++ value)).Nodup)
    (own : ∀ cell ∈ before ++ (name ++ value), cell ∉ mark)
    (quiet : Quiet (authorizationPattern point) none before (name ++ value))
    (found : authorizationPattern point none (name ++ value) = some hit) (cut : name ++ value = hit.cells ++ rest)
    (aligned : Aligned point mark rest (redactTokens point letters mark rest)) :
    Aligned point mark (before ++ (name ++ value)) (redactTokens point letters mark (before ++ (name ++ value))) := by
  intro reached
  have nameWhole : ∀ cell ∈ name, isWord point letters cell = true := fun cell listed =>
    whole cell (List.mem_append_right _ listed)
  obtain ⟨header, after, rfl, split, kept, lead, credential⟩ := match_in_word name value nameWhole fresh hit found
  generalize tailEq : header.before ++ header.colon :: header.after ++ header.lead = tail at split
  have headed : header.kept ++ header.lead = header.name ++ tail := by rw [header_from_name, tailEq]
  have cells : hit.cells = header.name ++ (tail ++ hit.secret) := by
    rw [Hit.cells, kept, lead, headed, List.append_assoc]
  have same : rest = after := by
    have text : hit.cells ++ rest = hit.cells ++ after := by
      rw [← cut, split, cells]
      simp
    exact List.append_cancel_left text
  subst same
  have valueHidden : redactTokens point letters mark value =
      tail ++ (redactTokens point letters mark hit.secret ++ redactTokens point letters mark rest) := by
    rw [split]
    exact redact_value marked header header.name tail hit.secret rest headed credential.2.2
  have text : before ++ (header.name ++ value) = (before ++ hit.cells) ++ rest := by rw [cut, List.append_assoc]
  have gone := apart_of (before ++ hit.cells) rest (text ▸ distinct) (text ▸ own)
  have scanned : authorizations point ((before ++ hit.cells) ++ rest) = [hit] ++ authorizations point rest := by
    rw [cut] at quiet found
    rw [List.append_assoc, authorizations_quiet before _ quiet, authorizations_hit hit rest found]
    rfl
  have inTail : ∀ cell ∈ tail, cell ∈ before ++ hit.cells := fun cell listed => by
    rw [cells]
    exact List.mem_append_right _ (List.mem_append_right _ (List.mem_append_left _ listed))
  have inSecret : ∀ cell ∈ hit.secret, cell ∈ before ++ hit.cells := fun cell listed => by
    rw [cells]
    exact List.mem_append_right _ (List.mem_append_right _ (List.mem_append_right _ listed))
  have unmarked : ∀ cell ∈ before ++ hit.cells, cell ∉ mark := fun cell listed =>
    own cell (by rw [text]; exact List.mem_append_left _ listed)
  have wordReal : before ++ header.name ≠ [] := List.append_ne_nil_of_right_ne_nil _ real
  have tokens := redact_word marked (before ++ header.name) value wordReal whole fresh
  rw [List.append_assoc] at tokens
  revert reached
  rw [tokens, text]
  cases hidden point (before ++ header.name) with
  | true =>
      intro reached
      have lost : ∀ cell ∈ hit.secret, cell ∉ mark ++ redactTokens point letters mark value := by
        refine (reached hit ?_).resolve_left ?_
        · rw [scanned]
          exact List.mem_append_left _ List.mem_cons_self
        · rintro ⟨cell, head, inside⟩
          have named : cell ∈ header.name := by
            rw [kept, Header.kept, List.append_assoc, List.head?_append] at head
            cases name : header.name with
            | nil => exact absurd name real
            | cons first more =>
                rw [name] at head
                cases head
                exact List.mem_cons_self
          have early : cell ∈ before ++ hit.cells := by
            rw [cells]
            exact List.mem_append_right _ (List.mem_append_left _ named)
          rcases List.mem_append.mp inside with marks | inside
          · exact unmarked cell early marks
          · rcases mem_redact marked value cell inside with inside | marks
            · have parts := List.nodup_append.mp (List.nodup_append.mp distinct).2.1
              exact parts.2.2 cell named cell inside rfl
            · exact unmarked cell early marks
      have goneSecret : ∀ cell ∈ hit.secret, cell ∉ redactTokens point letters mark hit.secret := by
        intro cell listed inside
        refine lost cell listed (List.mem_append_right _ ?_)
        rw [valueHidden]
        exact List.mem_append_right _ (List.mem_append_left _ inside)
      have past := credentials_past marked header header.name tail hit.secret rest real headed credential.1 goneSecret
        credential.2.2
      rw [← split] at past
      have apart : ∀ cell ∈ mark ++ (tail ++ mark), cell ∉ rest := by
        intro cell listed
        rcases List.mem_append.mp listed with marks | listed
        · exact gone cell (.inr marks)
        · exact gone cell ((List.mem_append.mp listed).imp_left (inTail cell))
      refine aligned_step (before ++ hit.cells) rest _ (mark ++ (tail ++ mark)) _ (mark ++ (tail ++ mark)) [hit] aligned
        ?_ ?_ scanned apart apart ?_ reached
      · rw [valueHidden, redact_all marked hit.secret credential.1 goneSecret]
        simp
      · rw [if_pos rfl, credentials_quiet mark mark _ (silent_mark marked _), past]
        simp
      · intro other listed _ cell inside covered
        cases List.mem_singleton.mp listed
        rcases mem_credentials _ cell covered with kept | marks
        · exact lost cell inside kept
        · exact unmarked cell (inSecret cell inside) marks
  | false =>
      intro reached
      have silent := quiet_redact marked before header.name value whole fresh quiet
      let again : Hit α := ⟨header.kept, header.lead, redactTokens point letters mark hit.secret⟩
      have againCut : header.name ++ redactTokens point letters mark value =
          again.cells ++ redactTokens point letters mark rest := by
        rw [valueHidden, Hit.cells, headed]
        simp [again]
      have againFound : authorizationPattern point none (again.cells ++ redactTokens point letters mark rest) =
          some again :=
        authorization_found none header _ _ (credential_redact marked hit.secret rest credential)
      have output : redactCredentials point mark (before ++ (header.name ++ redactTokens point letters mark value)) =
          (before ++ (header.kept ++ mark)) ++ redactCredentials point mark (redactTokens point letters mark rest) := by
        rw [credentials_quiet mark before _ silent, againCut, credentials_hit mark again _ againFound]
        simp [again]
      rw [if_neg Bool.false_ne_true, List.append_assoc before header.name] at reached ⊢
      have keptIn : ∀ cell ∈ header.kept, cell ∈ hit.cells := fun cell listed => by
        rw [Hit.cells, kept]
        exact List.mem_append_left _ (List.mem_append_left _ listed)
      have secretApart : ∀ cell ∈ hit.secret, cell ∉ before ++ header.kept := by
        intro cell listed early
        have whole_text := (List.nodup_append.mp (text ▸ distinct)).1
        rw [Hit.cells, kept, ← List.append_assoc, ← List.append_assoc] at whole_text
        have parts := (List.nodup_append.mp whole_text).2.2
        exact parts cell (List.mem_append_left _ early) cell listed rfl
      refine aligned_step (before ++ hit.cells) rest _
        (before ++ (header.name ++ (tail ++ redactTokens point letters mark hit.secret))) _
        (before ++ (header.kept ++ mark)) [hit] aligned ?_ output scanned ?_ ?_ ?_ reached
      · rw [valueHidden]
        simp
      · intro cell listed
        refine gone cell ?_
        simp only [List.mem_append] at listed ⊢
        rcases listed with early | named | later | secret
        · exact .inl (.inl early)
        · rw [cells]
          exact .inl (.inr (List.mem_append_left _ named))
        · exact .inl (List.mem_append.mp (inTail cell later))
        · exact (mem_redact marked hit.secret cell secret).imp_left fun own => List.mem_append.mp (inSecret cell own)
      · intro cell listed
        refine gone cell ?_
        simp only [List.mem_append] at listed ⊢
        rcases listed with early | named | marks
        · exact .inl (.inl early)
        · exact .inl (.inr (keptIn cell named))
        · exact .inr marks
      · intro other listed _ cell inside covered
        cases List.mem_singleton.mp listed
        rw [output, ← List.append_assoc, List.mem_append, List.mem_append] at covered
        rcases covered with (early | marks) | later
        · exact secretApart cell inside early
        · exact unmarked cell (inSecret cell inside) marks
        · rcases mem_credentials _ cell later with kept | marks
          · rcases mem_redact marked rest cell kept with listed | marks
            · exact gone cell (.inl (inSecret cell inside)) listed
            · exact unmarked cell (inSecret cell inside) marks
          · exact unmarked cell (inSecret cell inside) marks

theorem aligned_redact (marked : mark.map point = redactedMark) (cells : List α) (distinct : cells.Nodup)
    (own : ∀ cell ∈ cells, cell ∉ mark) : Aligned point mark cells (redactTokens point letters mark cells) := by
  induction measured : cells.length using Nat.strongRecOn generalizing cells with
  | ind bound ih =>
      subst measured
      cases worded point letters cells with
      | nil => intro _ hit listed; cases listed
      | other cell rest apart _ =>
          exact aligned_other cell rest apart distinct own
            (ih rest.length (by simp) rest (List.nodup_cons.mp distinct).2
            (fun other listed => own other (List.mem_cons_of_mem _ listed)) rfl)
      | word word rest real whole fresh _ =>
          have shorter : ∀ (gone later : List α), gone ≠ [] → word ++ rest = gone ++ later →
              Aligned point mark later (redactTokens point letters mark later) := by
            intro gone later filled split
            have fewer : later.length < (word ++ rest).length := by
              have some_cell : 0 < gone.length := List.length_pos_of_ne_nil filled
              rw [split, List.length_append]
              omega
            refine ih later.length fewer later ?_ (fun other listed => own other ?_) rfl
            · rw [split] at distinct
              exact (List.nodup_append.mp distinct).2.1
            · rw [split]
              exact List.mem_append_right _ listed
          obtain quiet | ⟨before, cell, after, hit, split, quiet, found⟩ :=
            quiet_or_hit (authorizationPattern point) none word rest
          · exact aligned_quiet marked word rest real whole fresh distinct own quiet (shorter word rest real rfl)
          · subst split
            obtain ⟨filled, later, cut⟩ := authorization_lawful _ _ hit found
            have placed : (before ++ cell :: after) ++ rest = before ++ (cell :: after ++ rest) :=
              List.append_assoc _ _ _
            rw [placed] at distinct own shorter ⊢
            exact aligned_match marked before (cell :: after) rest later hit whole fresh (List.cons_ne_nil _ _) distinct
              own quiet found cut (shorter (before ++ hit.cells) later (List.append_ne_nil_of_right_ne_nil _ filled)
                (by rw [cut, List.append_assoc]))

end Cells

end OrchestratorEngine.Captures
