import ScriptReview.Proofs.Render.Rows

/-!
What a terminal makes of a styled text.

A terminal takes a text apart into characters, which it shows in the style that is on, and into
sequences that change the style. A document without escape characters of its own is shown span by
span: every character in the style of its span, and none in a style that a span before it has left
on (`Document.shown_forTerminal`, `Document.lastStyle_forTerminal`). What is shown is the text
without its sequences, whatever the text (`Terminal.withoutSequences_eq_map_fst`).
-/

namespace ScriptReview

/-- The style of text for which no style is asked. -/
def Style.normal : Style := ⟨false, none⟩

/-- The characters of a span, each with its style. -/
def Span.cells (span : Span) : List (Char × Style) :=
  span.text.toList.map fun c => (c, span.style.getD Style.normal)

namespace Terminal

open Text (isDigit)

/-- What a terminal takes from a text in one step. -/
inductive Piece where
  | character (c : Char)
  /-- A sequence that sets styles, told by its digits. -/
  | sequence (digits : List Char)
  deriving DecidableEq

/-- The digits of the sequence that the text begins with, if it begins with one. A sequence is the
escape character, a bracket, digits, and an `m`. -/
def digits? : List Char → Option (List Char)
  | c :: '[' :: rest =>
    if c = escape ∧ (rest.dropWhile isDigit).head? = some 'm' then
      some (rest.takeWhile isDigit)
    else none
  | _ => none

/-- The pieces of the text once the next `skip` characters are passed over, which belong to a
sequence. -/
def piecesAfter : Nat → List Char → List Piece
  | _, [] => []
  | skip + 1, _ :: text => piecesAfter skip text
  | 0, c :: text =>
    match digits? (c :: text) with
    | some digits => .sequence digits :: piecesAfter (digits.length + 2) text
    | none => .character c :: piecesAfter 0 text

def pieces (text : List Char) : List Piece :=
  piecesAfter 0 text

def Piece.character? : Piece → Option Char
  | character c => some c
  | sequence _ => none

/-- The text with all sequences deleted. -/
def withoutSequences (text : List Char) : List Char :=
  (pieces text).filterMap Piece.character?

/-- The style after a piece. No digits are read as zero, which takes every style back. Numbers that
no report uses are passed over. -/
def styleAfter (style : Style) : Piece → Style
  | .character _ => style
  | .sequence digits =>
    match Text.numeral 10 digits with
    | 0 => Style.normal
    | 1 => { style with bold := true }
    | 31 => { style with color := some .red }
    | 32 => { style with color := some .green }
    | 33 => { style with color := some .yellow }
    | 34 => { style with color := some .blue }
    | 36 => { style with color := some .cyan }
    | _ => style

/-- The characters among the pieces, each with the style that is on when it comes. -/
def cells : Style → List Piece → List (Char × Style)
  | _, [] => []
  | style, piece :: later =>
    (piece.character?.map fun c => (c, style)).toList ++ cells (styleAfter style piece) later

/-- What a terminal shows of a text. -/
def shown (text : List Char) : List (Char × Style) :=
  cells Style.normal (pieces text)

/-- The style that is on after a text. -/
def lastStyle (text : List Char) : Style :=
  (pieces text).foldl styleAfter Style.normal

/-! ## Pieces of a text -/

/-- A sequence as it stands in a text. -/
def sequenceText (digits : List Char) : List Char :=
  escape :: '[' :: (digits ++ ['m'])

theorem digits?_of_ne {c : Char} (h : c ≠ escape) (text : List Char) :
    digits? (c :: text) = none := by
  unfold digits?
  split
  · next hcons =>
    obtain ⟨rfl, -⟩ := List.cons.inj hcons
    exact if_neg fun hsequence => h hsequence.1
  · rfl

theorem digits?_sequenceText {digits : List Char} (h : ∀ d ∈ digits, isDigit d = true)
    (rest : List Char) : digits? (sequenceText digits ++ rest) = some digits := by
  have hspan := Text.Reader.span_append h
    (Text.isDigit_of_mem_head? (show isDigit 'm' = false by decide) rest)
  rw [Text.Reader.span, Prod.mk.injEq] at hspan
  simp [sequenceText, digits?, hspan]

theorem piecesAfter_append (front text : List Char) :
    piecesAfter front.length (front ++ text) = pieces text := by
  induction front with
  | nil => rfl
  | cons c front ih => rw [List.length_cons, List.cons_append, piecesAfter, ih]

theorem pieces_sequenceText {digits : List Char} (h : ∀ d ∈ digits, isDigit d = true)
    (rest : List Char) : pieces (sequenceText digits ++ rest) = .sequence digits :: pieces rest := by
  have hdigits := digits?_sequenceText h rest
  have hskip := piecesAfter_append ('[' :: (digits ++ ['m'])) rest
  have hlength : ('[' :: (digits ++ ['m'])).length = digits.length + 2 := by simp
  rw [hlength] at hskip
  rw [sequenceText, List.cons_append] at hdigits ⊢
  rw [pieces, piecesAfter, hdigits]
  exact congrArg _ hskip

theorem pieces_sequences {sequences : List (List Char)}
    (h : ∀ digits ∈ sequences, ∀ d ∈ digits, isDigit d = true) (rest : List Char) :
    pieces (sequences.flatMap sequenceText ++ rest) =
      sequences.map Piece.sequence ++ pieces rest := by
  induction sequences with
  | nil => rfl
  | cons digits sequences ih =>
    rw [List.flatMap_cons, List.append_assoc, pieces_sequenceText (h digits List.mem_cons_self),
      ih fun later hlater => h later (List.mem_cons_of_mem digits hlater)]
    rfl

/-- Without an escape character there is no sequence. -/
theorem pieces_append_of_notMem {front : List Char} (h : escape ∉ front) (text : List Char) :
    pieces (front ++ text) = front.map Piece.character ++ pieces text := by
  induction front with
  | nil => rfl
  | cons c front ih =>
    have hc : c ≠ escape := fun heq => h (heq ▸ List.mem_cons_self)
    have hlater := ih fun hmem => h (List.mem_cons_of_mem c hmem)
    rw [List.cons_append, pieces, piecesAfter, digits?_of_ne hc]
    exact congrArg _ hlater

/-! ## Styles of the pieces -/

theorem cells_append (style : Style) (front back : List Piece) :
    cells style (front ++ back) = cells style front ++ cells (front.foldl styleAfter style) back := by
  induction front generalizing style with
  | nil => rfl
  | cons piece front ih =>
    rw [List.cons_append, cells, cells, List.foldl_cons, ih, List.append_assoc]

theorem cells_map_character (style : Style) (text : List Char) :
    cells style (text.map Piece.character) = text.map fun c => (c, style) := by
  induction text with
  | nil => rfl
  | cons c text ih =>
    rw [List.map_cons, List.map_cons, cells, styleAfter, ih]
    rfl

theorem cells_map_sequence (style : Style) (sequences : List (List Char)) :
    cells style (sequences.map Piece.sequence) = [] := by
  induction sequences generalizing style with
  | nil => rfl
  | cons digits sequences ih =>
    rw [List.map_cons, cells, ih]
    rfl

theorem foldl_styleAfter_character (style : Style) (text : List Char) :
    (text.map Piece.character).foldl styleAfter style = style := by
  induction text with
  | nil => rfl
  | cons c text ih => rw [List.map_cons, List.foldl_cons, styleAfter, ih]

theorem map_fst_cells (style : Style) (pieces : List Piece) :
    (cells style pieces).map Prod.fst = pieces.filterMap Piece.character? := by
  induction pieces generalizing style with
  | nil => rfl
  | cons piece later ih =>
    rw [cells, List.map_append, ih, List.filterMap_cons]
    cases piece <;> rfl

theorem withoutSequences_eq_map_fst (text : List Char) :
    withoutSequences text = (shown text).map Prod.fst :=
  (map_fst_cells Style.normal (pieces text)).symm

end Terminal

/-! ## Styles -/

/-- The sequences that turn a style on. -/
def Style.sequences (style : Style) : List (List Char) :=
  ['0'] :: ((if style.bold then [['1']] else []) ++
    (style.color.map fun color => ['3', color.digit]).toList)

theorem Style.start_eq (style : Style) :
    style.start = style.sequences.flatMap Terminal.sequenceText := by
  obtain ⟨bold, color⟩ := style
  cases bold <;> cases color <;> rfl

theorem Style.isDigit_of_mem_sequences (style : Style) :
    ∀ digits ∈ style.sequences, ∀ d ∈ digits, Text.isDigit d = true := by
  have hall : style.sequences.all (fun digits => digits.all Text.isDigit) = true := by
    obtain ⟨bold, color⟩ := style
    rcases color with _ | color
    · cases bold <;> rfl
    · cases bold <;> cases color <;> rfl
  intro digits hdigits
  exact List.all_eq_true.mp (List.all_eq_true.mp hall digits hdigits)

/-- The sequences of a style turn just this style on. -/
theorem Style.foldl_styleAfter_sequences (style before : Style) :
    (style.sequences.map Terminal.Piece.sequence).foldl Terminal.styleAfter before = style := by
  obtain ⟨bold, color⟩ := style
  rcases color with _ | color
  · cases bold <;> rfl
  · cases bold <;> cases color <;> rfl

/-! ## Documents -/

namespace Document

open Terminal

/-- The document has no escape characters of its own. -/
def IsEscapeFree (document : Document) : Prop :=
  ∀ span ∈ document, escape ∉ span.text.toList

/-- What a terminal takes from a span. -/
def spanPieces (span : Span) : List Piece :=
  match span.style with
  | none => span.text.toList.map Piece.character
  | some style =>
    style.sequences.map Piece.sequence ++ (span.text.toList.map Piece.character ++
      [Piece.sequence ['0']])

theorem pieces_spanForTerminal {span : Span} (h : escape ∉ span.text.toList) (rest : List Char) :
    pieces (spanForTerminal span ++ rest) = spanPieces span ++ pieces rest := by
  obtain ⟨style, text⟩ := span
  cases style with
  | none => exact pieces_append_of_notMem h rest
  | some style =>
    have hreset : ∀ d ∈ ['0'], Text.isDigit d = true :=
      List.forall_mem_singleton.mpr (by decide)
    have hend : pieces (Style.reset ++ rest) = Piece.sequence ['0'] :: pieces rest :=
      pieces_sequenceText hreset rest
    simp only [spanForTerminal, spanPieces, List.append_assoc]
    rw [style.start_eq, pieces_sequences style.isDigit_of_mem_sequences, pieces_append_of_notMem h,
      hend]
    rfl

theorem pieces_forTerminal {document : Document} (h : document.IsEscapeFree) :
    pieces document.forTerminal.toList = document.flatMap spanPieces := by
  rw [forTerminal, String.toList_ofList]
  induction document with
  | nil => rfl
  | cons span document ih =>
    obtain ⟨hspan, hlater⟩ := List.forall_mem_cons.mp h
    rw [List.flatMap_cons, List.flatMap_cons, pieces_spanForTerminal hspan, ih hlater]

/-- A span is shown in its own style. -/
theorem cells_spanPieces (span : Span) :
    Terminal.cells Style.normal (spanPieces span) = span.cells := by
  obtain ⟨style, text⟩ := span
  cases style with
  | none => exact cells_map_character Style.normal text.toList
  | some style =>
    simp only [spanPieces, cells_append, cells_map_sequence, Style.foldl_styleAfter_sequences,
      cells_map_character, List.nil_append]
    exact List.append_nil _

/-- Nothing is left on after a span. -/
theorem foldl_styleAfter_spanPieces (span : Span) :
    (spanPieces span).foldl styleAfter Style.normal = Style.normal := by
  obtain ⟨style, text⟩ := span
  cases style with
  | none => exact foldl_styleAfter_character Style.normal text.toList
  | some style =>
    simp only [spanPieces, List.foldl_append]
    rfl

theorem foldl_styleAfter_flatMap (document : Document) :
    (document.flatMap spanPieces).foldl styleAfter Style.normal = Style.normal := by
  induction document with
  | nil => rfl
  | cons span document ih =>
    rw [List.flatMap_cons, List.foldl_append, foldl_styleAfter_spanPieces, ih]

theorem cells_flatMap (document : Document) :
    Terminal.cells Style.normal (document.flatMap spanPieces) = document.flatMap Span.cells := by
  induction document with
  | nil => rfl
  | cons span document ih =>
    rw [List.flatMap_cons, List.flatMap_cons, cells_append, cells_spanPieces,
      foldl_styleAfter_spanPieces, ih]

variable {document : Document} (h : document.IsEscapeFree)
include h

theorem shown_forTerminal : shown document.forTerminal.toList = document.flatMap Span.cells := by
  rw [shown, pieces_forTerminal h, cells_flatMap]

theorem lastStyle_forTerminal : lastStyle document.forTerminal.toList = Style.normal := by
  rw [lastStyle, pieces_forTerminal h, foldl_styleAfter_flatMap]

theorem withoutSequences_forTerminal :
    withoutSequences document.forTerminal.toList = document.plainText.toList := by
  have hspan : ∀ span : Span, span.cells.map Prod.fst = span.text.toList := fun span => by
    rw [Span.cells, List.map_map]
    exact List.map_id _
  rw [withoutSequences_eq_map_fst, shown_forTerminal h, List.map_flatMap, plainText,
    String.toList_join, List.flatMap_map]
  simp only [hspan]

end Document
end ScriptReview
