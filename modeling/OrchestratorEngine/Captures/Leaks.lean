import Mathlib.Data.List.Nodup
import OrchestratorEngine.Captures.Cuts
import OrchestratorEngine.Captures.Streams

set_option autoImplicit false

namespace OrchestratorEngine.Captures

open Foundation Foundation.Scanning

structure Cell where
  point : Nat
  place : Option Nat
deriving DecidableEq, Repr

def placed : Nat → List Nat → List Cell
  | _, [] => []
  | place, point :: rest => ⟨point, some place⟩ :: placed (place + 1) rest

def markCells : List Cell := redactedMark.map fun point => ⟨point, none⟩

def cutPlace (limit : Nat) (data : List Nat) : Nat :=
  Utf8.charactersBefore (data.take (data.length - (lastBytes limit data).length))

def keptCells (limit : Nat) (data : List Nat) : List Cell :=
  let kept := (placed 0 (Utf8.decodeReplacing data)).drop (cutPlace limit data)
  List.replicate ((Utf8.decodeReplacing (lastBytes limit data)).length - kept.length) ⟨Utf8.replacement, none⟩ ++ kept

def tracedTail (letters : Letters) (limit : Nat) (data : List Nat) : List Cell :=
  let redacted := redactText Cell.point letters markCells (keptCells limit data)
  redacted.drop (redacted.length - (boundedTail letters limit data).length)

structure Sealed (letters : Letters) (limit : Nat) (data : List Nat) : Prop where
  tokens : ∀ span ∈ tokenSpans letters 0 (Utf8.decodeReplacing data), ∀ place, span.start ≤ place →
    place + 20 ≤ span.stop →
      ¬ (List.range' place 20).map some <:+: (tracedTail letters limit data).map Cell.place
  credentials : ∀ span ∈ authorizationSpans (Utf8.decodeReplacing data), ∀ place, span.secret ≤ place →
    place < span.stop → some place ∉ (tracedTail letters limit data).map Cell.place

def InToken (letters : Letters) (start : Nat) (text : List Nat) (place : Nat) : Prop :=
  ∃ span ∈ tokenSpans letters start text, span.start ≤ place ∧ place < span.stop

def TokenIntact (letters : Letters) (limit : Nat) (data : List Nat) (span : Span) : Prop :=
  span.start < cutPlace limit data → cutPlace limit data + 20 ≤ span.stop →
    ⟨cutPlace limit data, cutPlace limit data, span.stop⟩ ∈
      tokenSpans letters (cutPlace limit data) ((Utf8.decodeReplacing data).drop (cutPlace limit data))

def HeaderIntact (letters : Letters) (limit : Nat) (data : List Nat) (span : Span) : Prop :=
  (cutPlace limit data ≤ span.start ∧ ¬ InToken letters (cutPlace limit data)
    ((Utf8.decodeReplacing data).drop (cutPlace limit data)) span.start) ∨
  ∀ place, span.secret ≤ place → place < span.stop → cutPlace limit data ≤ place →
    InToken letters (cutPlace limit data) ((Utf8.decodeReplacing data).drop (cutPlace limit data)) place

structure Intact (letters : Letters) (limit : Nat) (data : List Nat) : Prop where
  tokens : ∀ span ∈ tokenSpans letters 0 (Utf8.decodeReplacing data), TokenIntact letters limit data span
  credentials : ∀ span ∈ authorizationSpans (Utf8.decodeReplacing data), HeaderIntact letters limit data span

def window (text : List Nat) (place : Nat) : List Nat := (text.drop place).take 20

def credential (text : List Nat) (span : Span) : List Nat := (text.drop span.secret).take (span.stop - span.secret)

-- What a text contains, whichever place in the stream it comes from.
structure Unrevealed (letters : Letters) (limit : Nat) (data : List Nat) : Prop where
  tokens : ∀ span ∈ tokenSpans letters 0 (Utf8.decodeReplacing data), ∀ place, span.start ≤ place →
    place + 20 ≤ span.stop → ¬ window (Utf8.decodeReplacing data) place <:+: boundedTail letters limit data
  credentials : ∀ span ∈ authorizationSpans (Utf8.decodeReplacing data),
    ¬ credential (Utf8.decodeReplacing data) span <:+: boundedTail letters limit data

variable (place : Nat)

theorem placed_append (front back : List Nat) :
    placed place (front ++ back) = placed place front ++ placed (place + front.length) back := by
  induction front generalizing place with
  | nil => rfl
  | cons point rest ih =>
      rw [List.cons_append, placed, ih, placed, List.cons_append, List.length_cons, Nat.add_assoc, Nat.add_comm 1]

theorem placed_points (text : List Nat) : (placed place text).map Cell.point = text := by
  induction text generalizing place with
  | nil => rfl
  | cons point rest ih => rw [placed, List.map_cons, ih]

theorem placed_length (text : List Nat) : (placed place text).length = text.length := by
  rw [← List.length_map Cell.point, placed_points]

theorem placed_places (text : List Nat) :
    (placed place text).map Cell.place = (List.range' place text.length).map some := by
  induction text generalizing place with
  | nil => rfl
  | cons point rest ih => rw [placed, List.map_cons, ih, List.length_cons, List.range'_succ, List.map_cons]

theorem mem_placed (text : List Nat) (cell : Cell) (listed : cell ∈ placed place text) :
    ∃ index, cell.place = some index ∧ place ≤ index ∧ index < place + text.length := by
  have known : cell.place ∈ (placed place text).map Cell.place := List.mem_map_of_mem listed
  rw [placed_places, List.mem_map] at known
  obtain ⟨index, inside, same⟩ := known
  rw [List.mem_range'_1] at inside
  exact ⟨index, same.symm, inside⟩

theorem placed_point (text : List Nat) (cell : Cell) (listed : cell ∈ placed place text) :
    ∃ index, cell.place = some (place + index) ∧ text[index]? = some cell.point := by
  induction text generalizing place with
  | nil => cases listed
  | cons point rest ih =>
      rcases List.mem_cons.mp listed with rfl | later
      · exact ⟨0, rfl, rfl⟩
      · obtain ⟨index, same, point⟩ := ih (place + 1) later
        exact ⟨index + 1, by rw [same, Nat.add_assoc, Nat.add_comm 1], point⟩

theorem placed_distinct (text : List Nat) : (placed place text).Nodup := by
  refine List.Nodup.of_map Cell.place ?_
  rw [placed_places]
  exact (List.nodup_range' 1).map (Option.some_injective _)

theorem placed_split (text : List Nat) (front back : List Cell) (split : placed place text = front ++ back) :
    front = placed place (front.map Cell.point) ∧ back = placed (place + front.length) (back.map Cell.point) := by
  induction front generalizing place text with
  | nil =>
      refine ⟨rfl, ?_⟩
      rw [← (show placed place text = back from split), placed_points]
      rfl
  | cons cell rest ih =>
      cases text with
      | nil => cases split
      | cons point more =>
          rw [placed, List.cons_append] at split
          obtain ⟨rfl, later⟩ := List.cons.inj split
          obtain ⟨first, second⟩ := ih (place + 1) more later
          refine ⟨by rw [List.map_cons, placed, ← first], ?_⟩
          rw [List.length_cons, Nat.add_comm rest.length, ← Nat.add_assoc]
          exact second

theorem mem_part (text : List Nat) (front part back : List Cell)
    (split : placed place text = front ++ (part ++ back)) (cell : Cell)
    (listed : cell ∈ placed place text) (index : Nat)
    (stands : cell.place = some index) :
    cell ∈ part ↔ place + front.length ≤ index ∧ index < place + front.length + part.length := by
  obtain ⟨frontPlaced, laterPlaced⟩ := placed_split place text front _ split
  obtain ⟨partPlaced, backPlaced⟩ := placed_split _ _ part back laterPlaced.symm
  have bounds : ∀ (start : Nat) (cells : List Cell), cells = placed start (cells.map Cell.point) → cell ∈ cells →
      start ≤ index ∧ index < start + cells.length := by
    intro start cells same inside
    rw [same] at inside
    obtain ⟨other, equal, low, high⟩ := mem_placed start _ cell inside
    rw [stands] at equal
    cases equal
    rw [List.length_map] at high
    exact ⟨low, high⟩
  constructor
  · exact bounds _ part partPlaced
  · intro range
    rw [split] at listed
    rcases List.mem_append.mp listed with early | listed
    · have := bounds _ front frontPlaced early
      omega
    · rcases List.mem_append.mp listed with inside | later
      · exact inside
      · have := bounds _ back backPlaced later
        omega

theorem placed_drop (text : List Nat) (cut : Nat) : (placed 0 text).drop cut = placed cut (text.drop cut) := by
  by_cases inside : cut ≤ text.length
  · have split := placed_append 0 (text.take cut) (text.drop cut)
    rw [List.take_append_drop, Nat.zero_add, List.length_take, Nat.min_eq_left inside] at split
    have size : (placed 0 (text.take cut)).length = cut := by
      rw [placed_length, List.length_take, Nat.min_eq_left inside]
    rw [split, List.drop_append, size, Nat.sub_self, List.drop_zero, List.drop_eq_nil_of_le (Nat.le_of_eq size),
      List.nil_append]
  · rw [List.drop_eq_nil_of_le (by rw [placed_length]; omega), List.drop_eq_nil_of_le (by omega), placed]

section Tail

variable (letters : Letters) (limit : Nat) (data : List Nat)

theorem mark_cells_marked : markCells.map Cell.point = redactedMark := rfl

theorem mark_unplaced : ∀ cell ∈ markCells, cell.place = none := by
  intro cell listed
  obtain ⟨point, _, rfl⟩ := List.mem_map.mp listed
  rfl

theorem placed_unmarked (text : List Nat) : ∀ cell ∈ placed place text, cell ∉ markCells := by
  intro cell listed marks
  obtain ⟨index, stands, _⟩ := mem_placed place text cell listed
  rw [mark_unplaced cell marks] at stands
  cases stands

theorem kept_points : (keptCells limit data).map Cell.point = Utf8.decodeReplacing (lastBytes limit data) := by
  obtain ⟨lost, suffix⟩ := Utf8.lossy_suffix (data.take (data.length - (lastBytes limit data).length))
    (lastBytes limit data)
  have whole : data.take (data.length - (lastBytes limit data).length) ++ lastBytes limit data = data := by
    have cut := List.take_append_drop (data.length - (lastBytes limit data).length) data
    rwa [← last_bytes_drop limit data] at cut
  rw [whole] at suffix
  have kept : ((placed 0 (Utf8.decodeReplacing data)).drop (cutPlace limit data)).map Cell.point =
      (Utf8.decodeReplacing data).drop (cutPlace limit data) := by rw [List.map_drop, placed_points]
  have size := congrArg List.length suffix
  rw [List.length_append, List.length_replicate] at size
  have keptSize := congrArg List.length kept
  rw [List.length_map] at keptSize
  rw [keptCells, List.map_append, List.map_replicate, kept, keptSize, size]
  rw [show cutPlace limit data = Utf8.charactersBefore
    (data.take (data.length - (lastBytes limit data).length)) from rfl,
    Nat.add_sub_cancel]
  exact suffix.symm

theorem redacted_points : (redactText Cell.point letters markCells (keptCells limit data)).map Cell.point =
    redactText id letters redactedMark (Utf8.decodeReplacing (lastBytes limit data)) := by
  rw [← redact_text_map, kept_points, mark_cells_marked]

theorem redacted_scalars :
    ∀ point ∈ redactText id letters redactedMark (Utf8.decodeReplacing (lastBytes limit data)), Utf8.Scalar point := by
  have marks : ∀ point ∈ redactedMark, point < 0xD800 := by decide
  intro point listed
  rcases mem_credentials _ point listed with listed | mark
  · rcases mem_redact (List.map_id _) _ point listed with listed | mark
    · exact Utf8.decode_replacing_sound _ point listed
    · exact .inl (marks point mark)
  · exact .inl (marks point mark)

theorem bounded_tail_cut : ∃ gone, boundedTail letters limit data =
    (redactText id letters redactedMark (Utf8.decodeReplacing (lastBytes limit data))).drop gone := by
  rw [boundedTail]
  split
  · exact ⟨0, rfl⟩
  · rw [last_bytes_drop limit (Utf8.encode _)]
    exact Utf8.decode_ignoring_cut _ (redacted_scalars letters limit data) _

theorem traced_points : (tracedTail letters limit data).map Cell.point = boundedTail letters limit data := by
  obtain ⟨gone, cut⟩ := bounded_tail_cut letters limit data
  rw [tracedTail, List.map_drop, redacted_points, cut, ← List.length_map Cell.point, redacted_points, List.length_drop]
  rcases Nat.le_total gone
    (redactText id letters redactedMark (Utf8.decodeReplacing (lastBytes limit data))).length with less | more
  · rw [Nat.sub_sub_self less]
  · rw [List.drop_eq_nil_of_le more, Nat.sub_eq_zero_of_le more, Nat.sub_zero, List.drop_length]

def Fits : Prop :=
  (Utf8.encode (redactText id letters redactedMark (Utf8.decodeReplacing (lastBytes limit data)))).length ≤ limit

theorem traced_fits (fits : Fits letters limit data) :
    tracedTail letters limit data = redactText Cell.point letters markCells (keptCells limit data) := by
  have whole : boundedTail letters limit data =
      redactText id letters redactedMark (Utf8.decodeReplacing (lastBytes limit data)) := by
    unfold Fits at fits
    rw [boundedTail, if_pos fits]
  rw [tracedTail, whole, ← redacted_points, List.length_map, Nat.sub_self, List.drop_zero]

theorem redacted_split : ∃ broken, (∀ cell ∈ broken, cell.place = none) ∧
    redactText Cell.point letters markCells (keptCells limit data) =
      broken ++ redactCredentials Cell.point markCells (redactTokens Cell.point letters markCells
        (placed (cutPlace limit data) ((Utf8.decodeReplacing data).drop (cutPlace limit data)))) := by
  rw [keptCells, placed_drop]
  generalize placed (cutPlace limit data) ((Utf8.decodeReplacing data).drop (cutPlace limit data)) = kept
  generalize (Utf8.decodeReplacing (lastBytes limit data)).length - kept.length = lost
  have broken : ∀ cell ∈ List.replicate lost (⟨Utf8.replacement, none⟩ : Cell), cell = ⟨Utf8.replacement, none⟩ :=
    fun cell listed => List.eq_of_mem_replicate listed
  refine ⟨List.replicate lost ⟨Utf8.replacement, none⟩, fun cell listed => by rw [broken cell listed], ?_⟩
  have apart : ∀ cell ∈ (List.replicate lost (⟨Utf8.replacement, none⟩ : Cell)).getLast?,
      isWord Cell.point letters cell = false := by
    intro cell ends
    rw [broken cell (List.mem_of_getLast? ends)]
    exact letters.replacement
  have plain : ∀ cell ∈ List.replicate lost (⟨Utf8.replacement, none⟩ : Cell), cell.point ≠ 103 := by
    intro cell listed
    rw [broken cell listed]
    decide
  have silent : Silent Cell.point (List.replicate lost (⟨Utf8.replacement, none⟩ : Cell)) := by
    refine silent_all _ fun cell listed => ?_
    rw [broken cell listed]
    decide
  rw [redactText, redact_append mark_cells_marked _ kept (.inl apart), redact_plain mark_cells_marked _ plain,
    credentials_quiet markCells _ _ (silent _)]

end Tail

section Places

variable (letters : Letters) (start : Nat) (text : List Nat)

theorem token_spans_placed (place : Nat) : tokenSpans letters start text =
    spans start (pieces (tokenPattern Cell.point letters githubToken) none (placed place text)) ++
      spans start (pieces (tokenPattern Cell.point letters githubPat) none (placed place text)) := by
  have same : ∀ pattern, spans start (pieces (tokenPattern id letters pattern) none text) =
      spans start (pieces (tokenPattern Cell.point letters pattern) none (placed place text)) := by
    intro pattern
    have mapped := pieces_map Cell.point _ _ (token_pattern_map Cell.point letters pattern) none (placed place text)
    rw [placed_points] at mapped
    rw [← spans_map Cell.point, ← mapped]
    rfl
  rw [tokenSpans, same, same]

theorem mem_token_spans_placed (span : Span) : span ∈ tokenSpans letters start text ↔
    ∃ before word rest, Token Cell.point letters (placed start text) before word rest ∧
      span = ⟨start + before.length, start + before.length, start + before.length + word.length⟩ := by
  rw [token_spans_placed letters start text start, mem_token_spans]

theorem in_token_iff (cell : Cell) (listed : cell ∈ placed start text) (index : Nat)
    (stands : cell.place = some index) :
    InToken letters start text index ↔
      ∃ before word rest, Token Cell.point letters (placed start text) before word rest ∧ cell ∈ word := by
  constructor
  · rintro ⟨span, spanned, low, high⟩
    obtain ⟨before, word, rest, token, rfl⟩ := (mem_token_spans_placed letters start text span).mp spanned
    exact ⟨before, word, rest, token, (mem_part start text before word rest token.split cell listed index stands).mpr
      ⟨low, high⟩⟩
  · rintro ⟨before, word, rest, token, inside⟩
    exact ⟨_, (mem_token_spans_placed letters start text _).mpr ⟨before, word, rest, token, rfl⟩,
      (mem_part start text before word rest token.split cell listed index stands).mp inside⟩

theorem kept_place_iff (cell : Cell) (listed : cell ∈ placed start text) (index : Nat)
    (stands : cell.place = some index) :
    cell ∈ redactTokens Cell.point letters markCells (placed start text) ↔ ¬ InToken letters start text index := by
  rw [in_token_iff letters start text cell listed index stands]
  exact kept_iff mark_cells_marked _ (placed_distinct start text) cell listed (placed_unmarked start text cell listed)

structure Spans (text : List Nat) (span : Span) (hit : Hit Cell) : Prop where
  opens : ∀ cell ∈ hit.kept.head?, cell.place = some span.start
  covers : ∀ cell ∈ placed 0 text, ∀ index, cell.place = some index →
    (cell ∈ hit.secret ↔ span.secret ≤ index ∧ index < span.stop)
  bound : span.stop ≤ text.length

theorem spans_of_pieces (front back : List (Piece Cell)) (hit : Hit Cell)
    (same : pieces (authorizationPattern Cell.point) none (placed 0 text) = front ++ .hit hit :: back) :
    Spans text ⟨0 + (front.flatMap Piece.cells).length,
      0 + (front.flatMap Piece.cells).length + hit.kept.length + hit.lead.length,
      0 + (front.flatMap Piece.cells).length + hit.cells.length⟩ hit := by
  have split := pieces_cells (authorizationPattern Cell.point) authorization_lawful none (placed 0 text)
  rw [same, List.flatMap_append, List.flatMap_cons, Piece.cells] at split
  generalize front.flatMap Piece.cells = before at split ⊢
  generalize back.flatMap Piece.cells = after at split
  refine ⟨?_, ?_, ?_⟩
  · intro cell head
    obtain ⟨more, kept⟩ := List.head?_eq_some_iff.mp head
    have cut : placed 0 text = before ++ ([cell] ++ (more ++ hit.lead ++ hit.secret ++ after)) := by
      rw [← split, Hit.cells, kept]
      simp
    have listed : cell ∈ placed 0 text := by
      rw [cut]
      simp
    obtain ⟨index, stands, _⟩ := mem_placed 0 text cell listed
    have range := (mem_part 0 text before [cell] _ cut cell listed index stands).mp List.mem_cons_self
    rw [stands]
    rw [List.length_singleton] at range
    exact congrArg some (show index = 0 + before.length by omega)
  · intro cell listed index stands
    have cut : placed 0 text = (before ++ hit.kept ++ hit.lead) ++ (hit.secret ++ after) := by
      rw [← split, Hit.cells]
      simp
    rw [mem_part 0 text _ hit.secret after cut cell listed index stands]
    simp only [Hit.cells, List.length_append, Nat.add_assoc]
  · have size := congrArg List.length split
    rw [placed_length, List.length_append, List.length_append] at size
    dsimp only
    omega

theorem authorization_spans_placed : authorizationSpans text =
    spans 0 (pieces (authorizationPattern Cell.point) none (placed 0 text)) := by
  have mapped := pieces_map Cell.point _ _ (authorization_pattern_map Cell.point) none (placed 0 text)
  rw [placed_points] at mapped
  rw [authorizationSpans, ← spans_map Cell.point, ← mapped]
  rfl

theorem hit_of_span (span : Span) (listed : span ∈ authorizationSpans text) :
    ∃ hit ∈ authorizations Cell.point (placed 0 text), Spans text span hit := by
  rw [authorization_spans_placed, mem_spans] at listed
  obtain ⟨front, hit, back, same, rfl⟩ := listed
  exact ⟨hit, (mem_hits _ hit).mpr ⟨front, back, same⟩, spans_of_pieces text front back hit same⟩

theorem span_of_hit (hit : Hit Cell) (listed : hit ∈ authorizations Cell.point (placed 0 text)) :
    ∃ span ∈ authorizationSpans text, Spans text span hit := by
  obtain ⟨front, back, same⟩ := (mem_hits _ hit).mp listed
  refine ⟨_, ?_, spans_of_pieces text front back hit same⟩
  rw [authorization_spans_placed, mem_spans]
  exact ⟨front, hit, back, same, rfl⟩

end Places

section Main

variable (letters : Letters) (limit : Nat) (data : List Nat)

theorem placed_cut (text : List Nat) (cut : Nat) :
    (placed 0 text).take cut ++ placed cut (text.drop cut) = placed 0 text := by
  rw [← placed_drop, List.take_append_drop]

theorem behind_cut (text : List Nat) (cut : Nat) (cell : Cell) (listed : cell ∈ placed 0 text) (index : Nat)
    (stands : cell.place = some index) : cell ∈ placed cut (text.drop cut) ↔ cut ≤ index := by
  constructor
  · intro kept
    obtain ⟨other, same, low, _⟩ := mem_placed cut _ cell kept
    rw [stands] at same
    cases same
    exact low
  · intro low
    by_contra gone
    have early : cell ∈ (placed 0 text).take cut := by
      rw [← placed_cut text cut] at listed
      exact (List.mem_append.mp listed).resolve_right gone
    have range := (mem_part 0 text [] _ _ (placed_cut text cut).symm cell listed index stands).mp early
    have size := List.length_take_le cut (placed 0 text)
    rw [List.length_nil] at range
    omega

theorem traced_redacted (cell : Cell) (traced : cell ∈ tracedTail letters limit data) (place : Nat)
    (stands : cell.place = some place) :
    cell ∈ redactCredentials Cell.point markCells (redactTokens Cell.point letters markCells
      (placed (cutPlace limit data) ((Utf8.decodeReplacing data).drop (cutPlace limit data)))) := by
  obtain ⟨broken, unplaced, split⟩ := redacted_split letters limit data
  have redacted := List.mem_of_mem_drop traced
  rw [split] at redacted
  rcases List.mem_append.mp redacted with early | covered
  · rw [unplaced cell early] at stands
    cases stands
  · exact covered

theorem traced_covered (place : Nat) (listed : some place ∈ (tracedTail letters limit data).map Cell.place) :
    ∃ cell ∈ redactCredentials Cell.point markCells (redactTokens Cell.point letters markCells
        (placed (cutPlace limit data) ((Utf8.decodeReplacing data).drop (cutPlace limit data)))),
      cell.place = some place := by
  obtain ⟨cell, traced, stands⟩ := List.mem_map.mp listed
  exact ⟨cell, traced_redacted letters limit data cell traced place stands, stands⟩

theorem covered_kept (cut place : Nat) (text : List Nat) (cell : Cell) (stands : cell.place = some place)
    (covered : cell ∈ redactCredentials Cell.point markCells
      (redactTokens Cell.point letters markCells (placed cut text))) :
    cell ∈ redactTokens Cell.point letters markCells (placed cut text) ∧ cell ∈ placed cut text := by
  refine mem_text mark_cells_marked (placed cut text) cell (fun marks => ?_) covered
  rw [mark_unplaced cell marks] at stands
  cases stands

theorem kept_whole (cut : Nat) (text : List Nat) (cell : Cell) (kept : cell ∈ placed cut (text.drop cut)) :
    cell ∈ placed 0 text := by
  rw [← placed_cut text cut]
  exact List.mem_append_right _ kept

theorem traced_stands (cell : Cell) (traced : cell ∈ tracedTail letters limit data) (place : Nat)
    (stands : cell.place = some place) : (Utf8.decodeReplacing data)[place]? = some cell.point := by
  have kept := (covered_kept letters _ place _ cell stands (traced_redacted letters limit data cell
    traced place stands)).2
  obtain ⟨index, same, point⟩ := placed_point 0 _ cell (kept_whole _ _ cell kept)
  rw [stands, Nat.zero_add] at same
  cases same
  exact point

theorem token_behind (cut : Nat) (text : List Nat) (before word rest : List Cell)
    (token : Token Cell.point letters (placed 0 text) before word rest) (behind : cut ≤ before.length) :
    Token Cell.point letters (placed cut (text.drop cut)) (before.drop cut) word rest := by
  refine ⟨⟨?_, token.real, token.whole, token.fresh, fun cell ends => ?_⟩, token.hides⟩
  · rw [← placed_drop, token.split, List.drop_append_of_le_length behind]
  · refine token.last cell ?_
    rw [List.getLast?_drop] at ends
    split at ends
    · cases ends
    · exact ends

theorem match_cells (text : List Nat) (hit : Hit Cell) (matched : hit ∈ authorizations Cell.point (placed 0 text)) :
    ∀ cell ∈ hit.secret, cell ∈ placed 0 text := by
  obtain ⟨before, after, split, _⟩ := authorization_placed _ hit matched
  intro cell listed
  rw [split, Hit.cells]
  simp [listed]

theorem match_first (text : List Nat) (hit : Hit Cell) (span : Span)
    (matched : hit ∈ authorizations Cell.point (placed 0 text)) (spans : Spans text span hit) :
    ∃ first ∈ hit.kept.head?, first ∈ placed 0 text ∧ first.place = some span.start := by
  obtain ⟨before, after, split, found⟩ := authorization_placed _ hit matched
  obtain ⟨first, more, rest, kept, _⟩ := kept_opens none _ hit found
  have head : first ∈ hit.kept.head? := by
    rw [kept]
    rfl
  refine ⟨first, head, ?_, spans.opens first head⟩
  rw [split, Hit.cells, kept]
  simp

theorem token_sealed (span : Span) (listed : span ∈ tokenSpans letters 0 (Utf8.decodeReplacing data))
    (intact : TokenIntact letters limit data span) (place : Nat) (low : span.start ≤ place)
    (high : place + 20 ≤ span.stop) :
    ¬ (List.range' place 20).map some <:+: (tracedTail letters limit data).map Cell.place := by
  intro leak
  have survivors := traced_covered letters limit data
  unfold TokenIntact at intact
  generalize textEq : Utf8.decodeReplacing data = text at listed intact survivors
  generalize cutEq : cutPlace limit data = cut at intact survivors
  obtain ⟨cell, covered, stands⟩ := survivors place (leak.subset (by simp))
  obtain ⟨tokens, kept⟩ := covered_kept letters cut place _ cell stands covered
  have whole := kept_whole cut text cell kept
  have after := (behind_cut text cut cell whole place stands).mp kept
  refine (kept_place_iff letters cut _ cell kept place stands).mp tokens ?_
  obtain ⟨before, word, rest, token, rfl⟩ := (mem_token_spans_placed letters 0 text span).mp listed
  dsimp only at low high intact
  by_cases behind : cut ≤ before.length
  · rw [in_token_iff letters cut _ cell kept place stands]
    refine ⟨before.drop cut, word, rest, token_behind letters cut text before word rest token behind, ?_⟩
    rw [mem_part 0 text before word rest token.split cell whole place stands]
    omega
  · exact ⟨_, intact (by omega) (by omega), after, by dsimp only; omega⟩

theorem credentials_sealed
    (intact : ∀ span ∈ authorizationSpans (Utf8.decodeReplacing data), HeaderIntact letters limit data span)
    (span : Span) (listed : span ∈ authorizationSpans (Utf8.decodeReplacing data)) (place : Nat)
    (low : span.secret ≤ place) (high : place < span.stop) :
    some place ∉ (tracedTail letters limit data).map Cell.place := by
  intro leak
  have survivors := traced_covered letters limit data
  unfold HeaderIntact at intact
  generalize textEq : Utf8.decodeReplacing data = text at listed intact survivors
  generalize cutEq : cutPlace limit data = cut at intact survivors
  obtain ⟨cell, covered, stands⟩ := survivors place leak
  obtain ⟨_, kept⟩ := covered_kept letters cut place _ cell stands covered
  obtain ⟨hit, matched, spans⟩ := hit_of_span text span listed
  have inside := (spans.covers cell (kept_whole cut text cell kept) place stands).mpr ⟨low, high⟩
  have aligned : Aligned Cell.point markCells ((placed 0 text).take cut ++ placed cut (text.drop cut))
      (redactTokens Cell.point letters markCells (placed cut (text.drop cut))) := by
    refine aligned_cut mark_cells_marked _ _ ?_ ?_
    · rw [placed_cut]
      exact placed_distinct 0 text
    · rw [placed_cut]
      exact placed_unmarked 0 text
  rw [placed_cut] at aligned
  refine aligned (fun other otherMatched => ?_) hit matched cell inside covered
  obtain ⟨otherSpan, otherListed, otherSpans⟩ := span_of_hit text other otherMatched
  obtain ⟨first, firstKept, firstWhole, firstPlace⟩ := match_first text other otherSpan otherMatched otherSpans
  rcases intact otherSpan otherListed with ⟨begins, apart⟩ | tokens
  · have firstBehind := (behind_cut text cut first firstWhole _ firstPlace).mpr begins
    exact .inl ⟨first, firstKept, (kept_place_iff letters cut _ first firstBehind _ firstPlace).mpr apart⟩
  · refine .inr fun secret secretListed keptSecret => ?_
    have secretWhole := match_cells text other otherMatched secret secretListed
    have secretKept := (mem_redact mark_cells_marked _ secret keptSecret).resolve_right
      (placed_unmarked 0 text secret secretWhole)
    obtain ⟨index, secretPlace, after, _⟩ := mem_placed cut _ secret secretKept
    have range := (otherSpans.covers secret secretWhole index secretPlace).mp secretListed
    exact (kept_place_iff letters cut _ secret secretKept index secretPlace).mp keptSecret
      (tokens index range.1 range.2 after)

theorem intact_sealed (intact : Intact letters limit data) : Sealed letters limit data :=
  ⟨fun span listed => token_sealed letters limit data span listed (intact.tokens span listed),
    credentials_sealed letters limit data intact.credentials⟩

section Windows

variable (word : List Cell) (whole : ∀ cell ∈ word, isWord Cell.point letters cell = true)

include whole in
theorem word_avoids (cell : Cell) (apart : isWord Cell.point letters cell = false) : cell ∉ word := by
  intro listed
  rw [whole cell listed] at apart
  cases apart

include whole in
theorem shown_sub (find : Pattern Cell) (lawful : find.Lawful) (cells : List Cell) (long : 20 ≤ word.length)
    (shown : word <:+: sub markCells find cells) : word <:+: cells := by
  have bracket : ∀ value, value < 128 → isAsciiWord value = false → (⟨value, none⟩ : Cell) ∉ word := by
    intro value small apart
    apply word_avoids letters word whole
    exact (letters.ascii value small).trans apart
  apply infix_kept find lawful none ⟨91, none⟩ ⟨93, none⟩
    ([82, 69, 68, 65, 67, 84, 69, 68].map fun point => ⟨point, none⟩)
    word cells ⟨bracket 91 (by decide) (by decide), bracket 93 (by decide) (by decide)⟩ _ shown
  exact Nat.lt_of_lt_of_le (by decide) long

include whole in
theorem shown_kept (long : 20 ≤ word.length)
    (shown : word <:+: redactText Cell.point letters markCells (keptCells limit data)) :
    word <:+: placed (cutPlace limit data) ((Utf8.decodeReplacing data).drop (cutPlace limit data)) := by
  have real : word ≠ [] := List.ne_nil_of_length_pos (by omega)
  have redacted := shown_sub letters word whole _ authorization_lawful _ long shown
  have once := shown_sub letters word whole _ token_pattern_lawful _ long redacted
  have cells := shown_sub letters word whole _ token_pattern_lawful _ long once
  rw [keptCells, placed_drop] at cells
  apply infix_past _ _ word real _ cells
  intro cell listed
  rw [List.eq_of_mem_replicate listed]
  exact word_avoids letters word whole _ letters.replacement

theorem placed_infix (start : Nat) (text : List Nat) (shown : word <:+: placed start text) :
    ∃ skipped, word = placed (start + skipped) (word.map Cell.point) ∧
      (text.drop skipped).take word.length = word.map Cell.point := by
  obtain ⟨before, after, split⟩ := shown
  rw [List.append_assoc] at split
  have points := congrArg (List.map Cell.point) split
  rw [placed_points, List.map_append, List.map_append] at points
  obtain ⟨_, later⟩ := placed_split start text before _ split.symm
  refine ⟨before.length, (placed_split _ _ word after later.symm).1, ?_⟩
  have skip : before.length = (before.map Cell.point).length := List.length_map _ |>.symm
  have size : word.length = (word.map Cell.point).length := List.length_map _ |>.symm
  rw [← points, skip, size, List.drop_left, List.take_left]

end Windows

theorem token_window (text : List Nat) (span : Span) (listed : span ∈ tokenSpans letters 0 text) (place : Nat)
    (low : span.start ≤ place) (high : place + 20 ≤ span.stop) :
    (window text place).length = 20 ∧ ∀ point ∈ window text place, letters.word point = true := by
  obtain ⟨before, word, rest, token, rfl⟩ := (mem_token_spans_placed letters 0 text span).mp listed
  have split := congrArg (List.map Cell.point) token.split
  rw [placed_points, List.map_append, List.map_append] at split
  dsimp only at low high
  have inside : window text place = ((word.map Cell.point).drop (place - before.length)).take 20 := by
    rw [window, split, List.drop_append, List.drop_eq_nil_of_le (by rw [List.length_map]; omega), List.nil_append,
      List.length_map, List.drop_append_of_le_length (by rw [List.length_map]; omega),
      List.take_append_of_le_length (by rw [List.length_drop, List.length_map]; omega)]
  constructor
  · rw [inside, List.length_take, List.length_drop, List.length_map]
    omega
  · intro point found
    rw [inside] at found
    obtain ⟨cell, member, rfl⟩ := List.mem_map.mp (List.mem_of_mem_drop (List.mem_of_mem_take found))
    exact token.whole cell member

theorem window_elsewhere (span : Span) (listed : span ∈ tokenSpans letters 0 (Utf8.decodeReplacing data))
    (place : Nat) (low : span.start ≤ place) (high : place + 20 ≤ span.stop)
    (shown : window (Utf8.decodeReplacing data) place <:+: boundedTail letters limit data) :
    ∃ other, window (Utf8.decodeReplacing data) other = window (Utf8.decodeReplacing data) place ∧
      ∀ inner ∈ tokenSpans letters 0 (Utf8.decodeReplacing data), TokenIntact letters limit data inner →
        inner.start ≤ other → inner.stop < other + 20 := by
  obtain ⟨size, words⟩ := token_window letters _ span listed place low high
  rw [← traced_points] at shown
  obtain ⟨before, after, split⟩ := shown
  obtain ⟨front, back, traced, ahead, _⟩ := List.map_eq_append_iff.mp split.symm
  obtain ⟨early, word, rfl, _, points⟩ := List.map_eq_append_iff.mp ahead
  have long : word.length = 20 := by rw [← List.length_map Cell.point, points, size]
  have whole : ∀ cell ∈ word, isWord Cell.point letters cell = true := fun cell member =>
    words cell.point (points ▸ List.mem_map_of_mem member)
  have inTail : word <:+: tracedTail letters limit data := ⟨early, back, traced.symm⟩
  have inText := inTail.trans (List.drop_suffix _ _).isInfix
  obtain ⟨skipped, places, same⟩ := placed_infix word _ _
    (shown_kept letters limit data word whole (by omega) inText)
  rw [long, points, List.drop_drop] at same
  refine ⟨cutPlace limit data + skipped, same, fun inner held intact early => ?_⟩
  by_contra inside
  apply token_sealed letters limit data inner held intact _ early (Nat.le_of_not_lt inside)
  have stands := congrArg (List.map Cell.place) places
  rw [placed_places, points, size] at stands
  rw [← stands]
  exact inTail.map Cell.place

theorem word_stays (word rest : List Cell) (whole : ∀ cell ∈ word, isWord Cell.point letters cell = true) :
    ∃ later, redactCredentials Cell.point markCells (word ++ rest) = word ++ later := by
  obtain quiet | ⟨before, cell, after, hit, split, quiet, found⟩ :=
    quiet_or_hit (authorizationPattern Cell.point) none word rest
  · exact ⟨_, credentials_quiet markCells word rest quiet⟩
  · obtain ⟨header, later, cut, headed, leading, _⟩ := authorization_split _ _ hit found
    have cells : hit.cells = header.kept ++ header.lead ++ hit.secret := by rw [Hit.cells, headed, leading]
    rw [← cells] at cut
    have colon : ∃ more, hit.kept = cell :: after ++ more := by
      rw [Hit.cells, List.append_assoc hit.kept, List.append_assoc hit.kept] at cut
      rcases List.append_eq_append_iff.mp cut with ⟨more, kept, _⟩ | ⟨more, inside, _⟩
      · exact ⟨more, kept⟩
      · have listed : header.colon ∈ word := by
          rw [split, inside, headed, Header.kept]
          simp
        exact absurd listed (not_in_word word whole _ (colon_apart letters _ header.colon_point))
    obtain ⟨more, kept⟩ := colon
    subst split
    rw [cut] at quiet found
    refine ⟨more ++ (markCells ++ redactCredentials Cell.point markCells later), ?_⟩
    rw [List.append_assoc before, cut, credentials_quiet markCells before _ quiet, credentials_hit markCells hit later
      found, kept]
    simp

theorem sealed_intact (fits : Fits letters limit data) (sealing : Sealed letters limit data) :
    Intact letters limit data := by
  generalize textEq : Utf8.decodeReplacing data = text
  generalize cutEq : cutPlace limit data = cut
  obtain ⟨broken, _, split⟩ := redacted_split letters limit data
  rw [← traced_fits letters limit data fits] at split
  have sealedTokens := sealing.tokens
  have sealedCredentials := sealing.credentials
  rw [textEq, cutEq] at split
  rw [textEq, split, List.map_append] at sealedTokens sealedCredentials
  constructor
  · unfold TokenIntact
    rw [textEq, cutEq]
    intro span listed low high
    obtain ⟨before, word, rest, token, rfl⟩ := (mem_token_spans_placed letters 0 text span).mp listed
    dsimp only at low high ⊢
    have keptCut : placed cut (text.drop cut) = word.drop (cut - before.length) ++ rest := by
      rw [← placed_drop, token.split, List.drop_append, List.drop_eq_nil_of_le (by omega), List.nil_append,
        List.drop_append_of_le_length (by omega)]
    have size : (word.drop (cut - before.length)).length = word.length - (cut - before.length) := List.length_drop
    have whole : ∀ cell ∈ word.drop (cut - before.length), isWord Cell.point letters cell = true := fun cell inside =>
      token.whole cell (List.mem_of_mem_drop inside)
    generalize word.drop (cut - before.length) = kept at keptCut size whole
    have real : kept ≠ [] := List.ne_nil_of_length_pos (by omega)
    rw [mem_token_spans_placed]
    by_contra none
    have shown : hidden Cell.point kept = false := by
      cases hides : hidden Cell.point kept with
      | false => rfl
      | true =>
          refine absurd ⟨[], kept, rest, ⟨⟨keptCut, real, whole, token.fresh, by simp⟩, hides⟩, ?_⟩ none
          rw [List.length_nil, size, Nat.add_zero, Span.mk.injEq]
          omega
    have redacted : redactTokens Cell.point letters markCells (placed cut (text.drop cut)) =
        kept ++ redactTokens Cell.point letters markCells rest := by
      rw [keptCut, redact_word mark_cells_marked kept rest real whole token.fresh, shown, if_neg Bool.false_ne_true]
    obtain ⟨later, stays⟩ := word_stays letters kept (redactTokens Cell.point letters markCells rest) whole
    have places : kept.map Cell.place = (List.range' cut kept.length).map some := by
      have known := (placed_split cut _ kept rest keptCut).1
      rw [known, placed_places, List.length_map, ← known]
    obtain ⟨spare, long⟩ : ∃ spare, kept.length = 20 + spare := ⟨kept.length - 20, by omega⟩
    rw [long, ← List.range'_append_1, List.map_append] at places
    refine sealedTokens _ listed cut (by dsimp only; omega) (by dsimp only; omega)
      ⟨broken.map Cell.place, (List.range' (cut + 20) spare).map some ++ later.map Cell.place, ?_⟩
    rw [redacted, stays, List.map_append, places]
    simp
  · unfold HeaderIntact
    rw [textEq, cutEq]
    intro span listed
    by_contra broke
    rw [not_or] at broke
    obtain ⟨lost, left⟩ := broke
    push Not at left
    obtain ⟨place, low, high, behind, apart⟩ := left
    obtain ⟨hit, matched, spans⟩ := hit_of_span text span listed
    have placedHere : some place ∈ (placed 0 text).map Cell.place := by
      rw [placed_places, List.mem_map]
      refine ⟨place, ?_, rfl⟩
      rw [List.mem_range'_1]
      have bound := spans.bound
      omega
    obtain ⟨cell, cellWhole, stands⟩ := List.mem_map.mp placedHere
    have cellKept := (behind_cut text cut cell cellWhole place stands).mpr behind
    have stays := (kept_place_iff letters cut _ cell cellKept place stands).mpr apart
    have notFirst : ∀ first ∈ hit.kept.head?,
        first ∉ redactTokens Cell.point letters markCells (placed cut (text.drop cut)) := by
      intro first head kept
      have firstPlace := spans.opens first head
      have firstKept := (mem_redact mark_cells_marked _ first kept).resolve_right fun marks => by
        rw [mark_unplaced first marks] at firstPlace
        cases firstPlace
      exact lost ⟨(behind_cut text cut first (kept_whole cut text first firstKept) _ firstPlace).mp firstKept,
        (kept_place_iff letters cut _ first firstKept _ firstPlace).mp kept⟩
    obtain ⟨other, secret, covered⟩ := authorization_leaks mark_cells_marked ((placed 0 text).take cut)
      (placed cut (text.drop cut)) (by rw [placed_cut]; exact placed_distinct 0 text)
      (by rw [placed_cut]; exact placed_unmarked 0 text) hit (by rw [placed_cut]; exact matched) notFirst cell
      ((spans.covers cell cellWhole place stands).mpr ⟨low, high⟩) stays
    have otherWhole := match_cells text hit matched other secret
    obtain ⟨index, otherPlace, _⟩ := mem_placed 0 text other otherWhole
    have range := (spans.covers other otherWhole index otherPlace).mp secret
    refine sealedCredentials span listed index range.1 range.2 (List.mem_append_right _ ?_)
    rw [← otherPlace]
    exact List.mem_map_of_mem covered

-- The texts that are returned for a stream: by the tail of its octets, by the capture of
-- a command's output, and by the capture of the stream in chunks.
inductive Returned : Nat → List Nat → Prop where
  | bounded (limit : Nat) : Returned limit (boundedTail letters limit data)
  | command (tail : Bool) (text : List Nat) (returned : (commandCapture letters data tail).tail = some text) :
      Returned maxCaptureBytes text
  | stream (limit : Nat) (chunks : List (List Nat)) (includeTail : Bool) (text : List Nat)
      (drained : streamOf chunks = data)
      (returned : ((drainStream (.start limit) chunks).result letters includeTail).tail = some text) :
      Returned limit text

theorem returned_bounded (text : List Nat) (returned : Returned letters data limit text) :
    text = boundedTail letters limit data := by
  cases returned with
  | bounded => rfl
  | command tail text returned =>
      rw [commandCapture] at returned
      split at returned
      · exact (Option.some.inj returned).symm
      · cases returned
  | stream _ chunks includeTail text drained returned =>
      rw [drained_tail, drained] at returned
      split at returned
      · exact (Option.some.inj returned).symm
      · cases returned

theorem sealed_iff_intact (fits : Fits letters limit data) : Sealed letters limit data ↔ Intact letters limit data :=
  ⟨sealed_intact letters limit data fits, intact_sealed letters limit data⟩

end Main

section Beheaded

variable (letters : Letters) (length : Nat)

def beheaded (length : Nat) : List Nat := [103, 104, 112, 95] ++ List.replicate length 65

theorem decode_ascii (octets : List Nat) (plain : ∀ octet ∈ octets, octet ≤ 0x7F) :
    Utf8.decodeReplacing octets = octets := by
  rw [Utf8.decodeReplacing, Utf8.lossyFrom, Utf8.lossy_run_of_run _ _ _ _ _ (Utf8.run_ascii octets plain)]
  exact List.append_nil octets

theorem beheaded_ascii : ∀ octet ∈ beheaded length, octet ≤ 0x7F := by
  intro octet listed
  rcases List.mem_append.mp listed with front | back
  · have small : ∀ letter ∈ [103, 104, 112, 95], letter ≤ 0x7F := by decide
    exact small octet front
  · rw [List.eq_of_mem_replicate back]
    decide

theorem beheaded_last (positive : length ≠ 0) : lastBytes length (beheaded length) = List.replicate length 65 := by
  have size : (beheaded length).length - length = [103, 104, 112, 95].length := by
    rw [beheaded, List.length_append, List.length_replicate, Nat.add_sub_cancel]
  rw [lastBytes, if_neg positive, size, beheaded, List.drop_left]

theorem beheaded_shown (positive : length ≠ 0) :
    redactText id letters redactedMark (Utf8.decodeReplacing (lastBytes length (beheaded length))) =
      List.replicate length 65 := by
  have letter : ∀ point ∈ List.replicate length 65, point = 65 := fun point listed => List.eq_of_mem_replicate listed
  rw [beheaded_last length positive, decode_ascii _ fun octet listed => by rw [letter octet listed]; decide, redactText,
    redact_plain (List.map_id _) _ fun point listed => by rw [letter point listed]; decide]
  exact credentials_plain redactedMark _ fun point listed => by
    rw [letter point listed]
    decide

theorem beheaded_encoded : Utf8.encode (List.replicate length 65) = List.replicate length 65 := by
  induction length with
  | zero => rfl
  | succ length ih =>
      rw [List.replicate_succ, Utf8.encode, List.flatMap_cons]
      exact congrArg (65 :: ·) ih

theorem beheaded_token (long : 20 ≤ length) : ⟨0, 0, 4 + length⟩ ∈ tokenSpans letters 0 (beheaded length) := by
  have ascii : ∀ point ∈ beheaded length, isAsciiWord point = true := by
    intro point listed
    rcases List.mem_append.mp listed with front | back
    · have word : ∀ letter ∈ [103, 104, 112, 95], isAsciiWord letter = true := by decide
      exact word point front
    · rw [List.eq_of_mem_replicate back]
      decide
  have shape : shaped id githubToken (beheaded length) = true := by
    have read : spelled id githubToken (beheaded length) = some (List.replicate length 65) := rfl
    rw [shaped, read]
    simp [long, isAsciiWord]
  refine List.mem_append_left _ ((mem_pattern_spans github_token_leads (beheaded length) 0 _).mpr
    ⟨[], beheaded length, [], ⟨by simp, by simp [beheaded], fun point listed => ?_, by simp [Fresh], by simp⟩,
    shape, ?_⟩)
  · exact letters.word_of_ascii point (ascii point listed)
  · have size : (beheaded length).length = 4 + length := by
      rw [beheaded, List.length_append, List.length_replicate]
      rfl
    rw [size, List.length_nil, Nat.zero_add, Nat.zero_add]

theorem beheaded_tail (positive : length ≠ 0) :
    boundedTail letters length (beheaded length) = List.replicate length 65 := by
  rw [boundedTail, beheaded_shown letters length positive, beheaded_encoded, List.length_replicate]
  exact if_pos (Nat.le_refl length)

theorem beheaded_revealed (long : 20 ≤ length) : ¬ Unrevealed letters length (beheaded length) := by
  intro unrevealed
  have positive : length ≠ 0 := by omega
  have shown := unrevealed.tokens
  rw [decode_ascii _ (beheaded_ascii length), beheaded_tail letters length positive] at shown
  refine shown _ (beheaded_token letters length long) 4 (Nat.zero_le 4) (by dsimp only; omega) ?_
  obtain ⟨spare, rfl⟩ : ∃ spare, length = 20 + spare := ⟨length - 20, by omega⟩
  refine ⟨[], List.replicate spare 65, ?_⟩
  rw [window, beheaded, show (4 : Nat) = [103, 104, 112, 95].length from rfl, List.drop_left, List.take_replicate,
    Nat.min_eq_left (Nat.le_add_right _ _), List.nil_append, List.replicate_append_replicate]

end Beheaded

def asciiLetter (point : Nat) : Bool := isAsciiWord point || decide (point = 0x130 ∨ point = 0x131 ∨ point = 0x212A)

variable (point : Nat)

theorem ascii_letter_ascii (small : point < 128) : asciiLetter point = isAsciiWord point := by
  have other : decide (point = 0x130 ∨ point = 0x131 ∨ point = 0x212A) = false := decide_eq_false (by omega)
  rw [asciiLetter, other, Bool.or_false]

theorem ascii_letter_space (space : WorkerLease.isSpace point = true) : asciiLetter point = false := by
  simp only [WorkerLease.isSpace, decide_eq_true_eq] at space
  simp only [asciiLetter, isAsciiWord, Bool.or_eq_false_iff, decide_eq_false_iff_not]
  omega

theorem ascii_letter_replacement : asciiLetter Utf8.replacement = false := by decide

theorem ascii_letter_folded (folds : point = 0x130 ∨ point = 0x131 ∨ point = 0x212A) :
    asciiLetter point = true := by
  rw [asciiLetter, decide_eq_true folds, Bool.or_true]

def asciiLetters : Letters where
  word := asciiLetter
  ascii := ascii_letter_ascii
  space := ascii_letter_space
  replacement := ascii_letter_replacement
  folded := ascii_letter_folded

def repeatedToken : List Nat := [103, 104, 112, 95] ++ List.replicate 24 65 ++ [32] ++ List.replicate 24 65

-- "Authorization: Bearer hunter2 token=hunter2"
def repeatedCredential : List Nat :=
  authorization ++ [58, 32] ++ bearer ++ [32] ++ [104, 117, 110, 116, 101, 114, 50] ++ [32] ++ token ++ [61] ++
    [104, 117, 110, 116, 101, 114, 50]

end OrchestratorEngine.Captures
