import Mathlib.Data.List.Forall2
import Mathlib.Data.String.Basic
import PipeShell.Proofs.Command.Agreement

/-!
# The segments of a line

What becomes of every character of a line that is split. A `Segment` is a text of the line with the
white space around it; the segments of a line, with the delimiters between them, are the line
(`IsCutInto`), and the delimiters between them are those outside quotes and no others.

A line can also be split by offsets: the reader notes where a piece begins and where it ends, in
octets, and the pieces are cut out of the line afterwards. `Sweep` is this reader. It gives the same
answers as the one that collects characters (`split_eq_splitBySpans`), and it only ever cuts between
two characters (`isWithin_of_mem_spans`).
-/

namespace PipeShell

/-! ### Splitting by offsets -/

/-- A part of a line, from one offset to another. Offsets count octets. -/
structure Span where
  start : String.Pos.Raw
  stop : String.Pos.Raw
  deriving DecidableEq, Repr

namespace Span

/-- What a span cuts out of a line. -/
def text (s : Span) (line : String) : String :=
  String.Pos.Raw.extract line s.start s.stop

/-- A span can be cut out of a line: it begins and ends at a boundary of two characters, or at an
end of the line, and does not end before it begins. -/
structure IsWithin (s : Span) (line : String) : Prop where
  start : s.start.IsValid line
  stop : s.stop.IsValid line
  ordered : s.start ≤ s.stop

end Span

/-- Where a reading by offsets stands. -/
structure Sweep where
  /-- Whether a quoted run is open. -/
  quoted : Bool := false
  /-- The character before the next one. -/
  previous : Option Char := none
  /-- Where the piece that is being read begins. -/
  start : String.Pos.Raw := 0
  /-- Where the next character begins. -/
  position : String.Pos.Raw := 0
  /-- The finished pieces, last one first. -/
  finished : List Span := []

namespace Sweep

/-- Reads one character. -/
def next (s : Sweep) (c : Char) : Sweep :=
  if c = quote ∧ s.previous ≠ some escape then
    { s with quoted := !s.quoted, previous := some c, position := s.position + c }
  else if c = delimiter ∧ s.quoted = false then
    { s with
      previous := some c
      start := s.position + c
      position := s.position + c
      finished := ⟨s.start, s.position⟩ :: s.finished }
  else
    { s with previous := some c, position := s.position + c }

/-- Reads a line from its first character to its last. -/
def run (line : String) : Sweep :=
  line.toList.foldl next {}

end Sweep

/-- The spans that a line is cut into. The last one ends with the line. -/
def spans (line : String) : List Span :=
  let s := Sweep.run line
  (⟨s.start, line.rawEndPos⟩ :: s.finished).reverse

/-- Splits a line into at most `most` texts, by offsets. -/
def splitBySpans (most : Nat) (line : String) : Except LineError (List String) :=
  if (Sweep.run line).quoted then .error (.unclosedQuote (Text.trimmed line))
  else
    let texts := (spans line).map fun s => Text.trimmed (s.text line)
    if texts.all String.isEmpty then .ok []
    else if most < texts.length then .error (.tooManyStages most)
    else .ok texts

/-! ### Offsets and characters -/

/-- The offset of what stands behind a text. -/
def offset (before : List Char) : String.Pos.Raw :=
  ⟨String.utf8Len before⟩

theorem offset_snoc (before : List Char) (c : Char) :
    offset (before ++ [c]) = offset before + c := by
  simp [offset, String.Pos.Raw.ext_iff]

theorem offset_toList (line : String) : offset line.toList = line.rawEndPos := by
  simp [offset, String.Pos.Raw.ext_iff]

/-- A span from one end of a piece of a line to the other. -/
def Span.Covers (line : List Char) (s : Span) (piece : List Char) : Prop :=
  ∃ before after, line = before ++ piece ++ after ∧
    s = ⟨offset before, offset (before ++ piece)⟩

/-- A span over a piece cuts out the piece. -/
theorem Span.Covers.text_eq {line : String} {s : Span} {piece : List Char}
    (h : s.Covers line.toList piece) : s.text line = String.ofList piece := by
  obtain ⟨before, after, hline, rfl⟩ := h
  have hcut := String.extract_of_valid before piece after
  rw [← hline, String.ofList_toList] at hcut
  simpa [text, offset, String.utf8Len_append] using hcut

/-- A span over a piece begins and ends between two characters. -/
theorem Span.Covers.isWithin {line : String} {s : Span} {piece : List Char}
    (h : s.Covers line.toList piece) : s.IsWithin line := by
  obtain ⟨before, after, hline, rfl⟩ := h
  have hvalid : ∀ first second, line.toList = first ++ second →
      (offset first).IsValid line := by
    intro first second hparts
    refine String.Pos.Raw.isValid_iff_exists_append.mpr
      ⟨String.ofList first, String.ofList second, ?_, ?_⟩
    · rw [← String.ofList_append, ← hparts, String.ofList_toList]
    · rw [← offset_toList, String.toList_ofList]
  refine ⟨hvalid before (piece ++ after) ?_, hvalid (before ++ piece) after hline, ?_⟩
  · rw [hline, List.append_assoc]
  · simp [offset, String.Pos.Raw.le_iff, String.utf8Len_append]

namespace Sweep

/-- A reading by offsets and one that collects characters, behind the same part of a line. -/
structure Agrees (line before : List Char) (s : Sweep) (r : Reading) : Prop where
  quoted : s.quoted = r.quoted
  previous : s.previous = r.previous
  position : s.position = offset before
  /-- Both are in the same piece. -/
  piece : ∃ done, before = done ++ r.piece.reverse ∧ s.start = offset done
  finished : List.Forall₂ (Span.Covers line) s.finished r.finished

variable {line before rest : List Char} {s : Sweep} {r : Reading}

/-- The piece that ends with the part of a line that has been read. -/
theorem Agrees.covers (h : Agrees line before s r) (hline : line = before ++ rest) :
    Span.Covers line ⟨s.start, s.position⟩ r.piece.reverse := by
  obtain ⟨done, hbefore, hstart⟩ := h.piece
  refine ⟨done, rest, ?_, ?_⟩
  · rw [hline, hbefore]
  · rw [hstart, h.position, hbefore]

theorem agrees_next (h : Agrees line before s r) {c : Char} (hline : line = before ++ c :: rest) :
    Agrees line (before ++ [c]) (s.next c) (r.next c) := by
  have hcovers := h.covers hline
  obtain ⟨done, hbefore, hstart⟩ := h.piece
  have hlonger : before ++ [c] = done ++ (c :: r.piece).reverse := by
    rw [hbefore, List.reverse_cons, List.append_assoc]
  have hposition : s.position + c = offset (before ++ [c]) := by
    rw [offset_snoc, h.position]
  rw [next, Reading.next, h.previous, h.quoted]
  split_ifs with hmark hcut
  · exact ⟨rfl, rfl, hposition, ⟨done, hlonger, hstart⟩, h.finished⟩
  · exact ⟨rfl, rfl, hposition, ⟨before ++ [c], (List.append_nil _).symm, hposition⟩,
      .cons hcovers h.finished⟩
  · exact ⟨rfl, rfl, hposition, ⟨done, hlonger, hstart⟩, h.finished⟩

theorem agrees_foldl (h : Agrees line before s r) (hline : line = before ++ rest) :
    Agrees line line (rest.foldl next s) (rest.foldl Reading.next r) := by
  induction rest generalizing before s r with
  | nil =>
    rw [List.append_nil] at hline
    exact hline ▸ h
  | cons c rest ih =>
    have hnext : line = before ++ [c] ++ rest := by rw [hline, List.append_assoc]; rfl
    exact ih (agrees_next h hline) hnext

theorem agrees_run (line : String) :
    Agrees line.toList line.toList (run line) (Reading.run line.toList) := by
  have hstart : Agrees line.toList [] {} {} := ⟨rfl, rfl, rfl, ⟨[], rfl, rfl⟩, .nil⟩
  exact agrees_foldl hstart rfl

end Sweep

/-- **The spans of a line cover its pieces**, one after another. -/
theorem covers_spans {line : String} (h : Even (marks line.toList)) :
    List.Forall₂ (Span.Covers line.toList) (spans line) (pieces line.toList) := by
  have hagrees := Sweep.agrees_run line
  have hlast := hagrees.covers (List.append_nil _).symm
  rw [hagrees.position, offset_toList] at hlast
  have hpieces : (Reading.run line.toList).pieces = pieces line.toList := by
    have hread := pieces?_eq line.toList
    rw [pieces?, if_neg (Nat.not_odd_iff_even.mpr h)] at hread
    split_ifs at hread
    exact Option.some.inj hread
  rw [← hpieces]
  exact List.forall₂_reverse_iff.mpr (.cons hlast hagrees.finished)

/-- The reader by offsets has a run open at the end if the line has an odd number of marks. -/
theorem Sweep.quoted_run (line : String) :
    (run line).quoted = decide (Odd (marks line.toList)) := by
  have hstart : Reading.Knows {} [] := ⟨rfl, by simp⟩
  rw [(agrees_run line).quoted]
  exact (Reading.foldl_next hstart line.toList).1.quoted

/-- What the spans of a line cut out is what the reader collects. -/
theorem map_text_spans {line : String} (h : Even (marks line.toList)) :
    (spans line).map (fun s => s.text line) = (pieces line.toList).map String.ofList := by
  rw [← List.forall₂_eq_eq_eq, List.forall₂_map_left_iff, List.forall₂_map_right_iff]
  exact (covers_spans h).imp fun _ _ hcovers => hcovers.text_eq

/-- **Splitting by offsets is splitting.** -/
theorem split_eq_splitBySpans (most : Nat) (line : String) :
    split most line = splitBySpans most line := by
  rw [split_eq, splitBySpans, Sweep.quoted_run]
  by_cases hodd : Odd (marks line.toList)
  · simp [hodd, Text.trimmed]
  · have htexts : (spans line).map (fun s => Text.trimmed (s.text line)) =
        (texts line.toList).map String.ofList := by
      have hmap := congrArg (List.map Text.trimmed)
        (map_text_spans (Nat.not_odd_iff_even.mp hodd))
      simpa [texts, Text.trimmed, Function.comp_def] using hmap
    simp [hodd, htexts, List.all_map, Function.comp_def]

/-- **The reader by offsets cuts between characters only.** -/
theorem isWithin_of_mem_spans {line : String} (h : Even (marks line.toList)) {s : Span}
    (hs : s ∈ spans line) : s.IsWithin line := by
  have hboth : List.Forall₂ (fun s piece => s.IsWithin line ∧ s.Covers line.toList piece)
      (spans line) (pieces line.toList) :=
    (covers_spans h).imp fun _ _ hcovers => ⟨hcovers.isWithin, hcovers⟩
  exact ((List.forall₂_and_left _ _).mp hboth).1 s hs

/-! ### Segments -/

/-- A text of a line with what stands around it. -/
structure Segment where
  /-- What stands before the text. -/
  front : List Char
  /-- The text. -/
  text : List Char
  /-- What stands behind the text. -/
  back : List Char

namespace Segment

/-- All that stands between two delimiters. -/
def whole (s : Segment) : List Char :=
  s.front ++ s.text ++ s.back

/-- A text that begins and ends without white space, with nothing but white space around it. -/
structure IsTight (s : Segment) : Prop where
  front : ∀ c ∈ s.front, Text.isWhiteSpace c = true
  text : Text.IsTrimmed s.text
  back : ∀ c ∈ s.back, Text.isWhiteSpace c = true

theorem IsTight.white {s : Segment} (h : s.IsTight) :
    ∀ c ∈ s.front ++ s.back, Text.isWhiteSpace c = true := by
  intro c hc
  exact (List.mem_append.mp hc).elim (h.front c) (h.back c)

/-- A piece with its margins set apart. -/
def ofPiece (piece : List Char) : Segment :=
  ⟨Text.front piece, Text.trim piece, Text.back piece⟩

@[simp] theorem whole_ofPiece (piece : List Char) : (ofPiece piece).whole = piece :=
  Text.front_append_trim_append_back piece

@[simp] theorem text_ofPiece (piece : List Char) : (ofPiece piece).text = Text.trim piece := rfl

theorem isTight_ofPiece (piece : List Char) : (ofPiece piece).IsTight where
  front _ := Text.isWhiteSpace_of_mem_front
  text := Text.isTrimmed_trim piece
  back _ := Text.isWhiteSpace_of_mem_back

end Segment

/-- The line that segments make up, with delimiters between them. -/
def joined (segments : List Segment) : List Char :=
  [delimiter].intercalate (segments.map Segment.whole)

/-- White space has no marks, and neither have the delimiters between segments. -/
theorem marks_joined {segments : List Segment}
    (h : ∀ s ∈ segments, ∀ c ∈ s.front ++ s.back, Text.isWhiteSpace c = true) :
    marks (joined segments) = (segments.map fun s => marks s.text).sum := by
  have hwhole : ∀ s ∈ segments, marks s.whole = marks s.text := by
    intro s hs
    rw [Segment.whole, marks_append_white _ fun c hc => h s hs c (List.mem_append_right _ hc),
      marks_append_of_white fun c hc => h s hs c (List.mem_append_left _ hc)]
  induction segments with
  | nil => rfl
  | cons s rest ih =>
    have hs := hwhole s List.mem_cons_self
    have hrest := ih (fun t ht => h t (List.mem_cons_of_mem s ht))
      (fun t ht => hwhole t (List.mem_cons_of_mem s ht))
    by_cases hnil : rest = []
    · simp [hnil, joined, hs]
    · have hmap : rest.map Segment.whole ≠ [] := by simpa using hnil
      rw [joined] at hrest
      rw [joined, List.map_cons, List.intercalate_cons_of_ne_nil hmap, List.append_assoc,
        List.singleton_append, marks_append_delimiter, hs, hrest, List.map_cons, List.sum_cons]

/-- A line is cut into segments: at the delimiters outside quotes and nowhere else, and without a
loss. -/
structure IsCutInto (line : List Char) (segments : List Segment) : Prop where
  line_eq : line = joined segments
  tight : ∀ s ∈ segments, s.IsTight
  /-- Every run in a text is closed. -/
  closed : ∀ s ∈ segments, Even (marks s.text)
  /-- Every delimiter in a text is in a run. -/
  quoted : ∀ s ∈ segments, ∀ before after, s.text = before ++ delimiter :: after →
    Odd (marks before)
  /-- The marks of the line are those of the texts: up to a place in a text the line has the marks
  of the texts before and those of this text. -/
  counted : ∀ first s rest, segments = first ++ s :: rest →
    ∀ before after, s.text = before ++ after →
      marks (joined (first ++ [⟨s.front, before, []⟩])) =
        (first.map fun s => marks s.text).sum + marks before
  /-- The delimiters outside quotes are those between two segments. -/
  cuts : ∀ before after, line = before ++ delimiter :: after →
    (Even (marks before) ↔ ∃ first rest, segments = first ++ rest ∧ first ≠ [] ∧ rest ≠ [] ∧
      before = joined first)

/-- Before a delimiter between two segments every run is closed. -/
theorem even_marks_joined {segments : List Segment} (htight : ∀ s ∈ segments, s.IsTight)
    (hclosed : ∀ s ∈ segments, Even (marks s.text)) : Even (marks (joined segments)) := by
  have hwhite : ∀ s ∈ segments, ∀ c ∈ s.front ++ s.back, Text.isWhiteSpace c = true :=
    fun s hs => (htight s hs).white
  rw [marks_joined hwhite]
  clear hwhite
  induction segments with
  | nil => exact Even.zero
  | cons s rest ih =>
    rw [List.map_cons, List.sum_cons]
    exact (hclosed s List.mem_cons_self).add
      (ih (fun t ht => htight t (List.mem_cons_of_mem s ht))
        fun t ht => hclosed t (List.mem_cons_of_mem s ht))

@[simp] theorem joined_map_ofPiece (list : List (List Char)) :
    joined (list.map Segment.ofPiece) = [delimiter].intercalate list := by
  simp [joined, Function.comp_def]

/-- **The pieces of a closed line are what it is cut into**, once their margins are set apart. -/
theorem isCutInto_pieces {line : List Char} (h : Even (marks line)) :
    IsCutInto line ((pieces line).map Segment.ofPiece) := by
  have htight : ∀ s ∈ (pieces line).map Segment.ofPiece, s.IsTight := by
    intro s hs
    obtain ⟨piece, -, rfl⟩ := List.mem_map.mp hs
    exact Segment.isTight_ofPiece piece
  have hpiece : ∀ s ∈ (pieces line).map Segment.ofPiece, IsPiece s.text := by
    intro s hs
    obtain ⟨piece, hpiece, rfl⟩ := List.mem_map.mp hs
    exact (isPiece_of_mem_pieces h piece hpiece).trim
  refine ⟨?_, htight, fun s hs => (hpiece s hs).closed, ?_, ?_, ?_⟩
  · rw [joined_map_ofPiece, intercalate_pieces]
  · intro s hs before after htext
    have hspot : ⟨before, delimiter⟩ ∈ spots s.text := mem_spots.mpr ⟨after, htext⟩
    simpa [Spot.isCut] using (hpiece s hs).whole _ hspot
  · intro first s rest hsegments before after _
    have hwhite : ∀ t ∈ first ++ [⟨s.front, before, []⟩], ∀ c ∈ t.front ++ t.back,
        Text.isWhiteSpace c = true := by
      intro t ht
      rw [List.mem_append, List.mem_singleton] at ht
      rcases ht with ht | rfl
      · exact (htight t (hsegments ▸ List.mem_append_left _ ht)).white
      · rw [List.append_nil]
        exact (htight s (by simp [hsegments])).front
    rw [marks_joined hwhite]
    simp
  · intro before after hline
    constructor
    · intro heven
      refine ⟨(pieces before).map Segment.ofPiece, (pieces after).map Segment.ofPiece, ?_, ?_, ?_,
        ?_⟩
      · rw [hline, pieces_append_cons heven, List.map_append]
      · simpa using pieces_ne_nil before
      · simpa using pieces_ne_nil after
      · rw [joined_map_ofPiece, intercalate_pieces]
    · rintro ⟨first, rest, hsegments, -, -, rfl⟩
      exact even_marks_joined
        (fun s hs => htight s (hsegments ▸ List.mem_append_left _ hs))
        (fun s hs => (hpiece s (hsegments ▸ List.mem_append_left _ hs)).closed)

/-- **Nothing of a line is lost when it is split.** The line is the texts, with white space around
them and a delimiter between each two; the delimiters between them are those outside quotes. The
same texts come from cutting at offsets, each of them between two characters of the line. -/
theorem isCutInto_of_split {most : Nat} {line : String} {list : List String}
    (h : split most line = .ok list) (hlist : list ≠ []) :
    ∃ segments : List Segment,
      IsCutInto line.toList segments ∧
      list = segments.map (fun s => String.ofList s.text) ∧
      splitBySpans most line = .ok list ∧
      (spans line).map (fun s => s.text line) = segments.map (fun s => String.ofList s.whole) ∧
      ∀ s ∈ spans line, s.IsWithin line := by
  obtain ⟨hclosed, ⟨hnil, -⟩ | htexts⟩ := split_eq_ok_cases h
  · exact absurd hnil hlist
  · refine ⟨(pieces line.toList).map Segment.ofPiece, isCutInto_pieces hclosed, ?_, ?_, ?_, ?_⟩
    · simp [htexts, texts]
    · rw [← split_eq_splitBySpans, h]
    · simp [map_text_spans hclosed, Function.comp_def]
    · exact fun s => isWithin_of_mem_spans hclosed

theorem isCutInto_of_split_accents :
    ∃ segments : List Segment,
      IsCutInto "\u00a0é|\"a|b\" |".toList segments ∧
      ["é", "\"a|b\"", ""] = segments.map (fun s => String.ofList s.text) ∧
      splitBySpans 3 "\u00a0é|\"a|b\" |" = .ok ["é", "\"a|b\"", ""] ∧
      (spans "\u00a0é|\"a|b\" |").map (fun s => s.text "\u00a0é|\"a|b\" |") =
        segments.map (fun s => String.ofList s.whole) ∧
      ∀ s ∈ spans "\u00a0é|\"a|b\" |", s.IsWithin "\u00a0é|\"a|b\" |" := by
  have hsplit : split 3 "\u00a0é|\"a|b\" |" = .ok ["é", "\"a|b\"", ""] := rfl
  exact isCutInto_of_split hsplit (by decide)

/-- The accented character and the space before it take two octets each. -/
example : spans "\u00a0é|\"a|b\" |" = [⟨⟨0⟩, ⟨4⟩⟩, ⟨⟨5⟩, ⟨11⟩⟩, ⟨⟨12⟩, ⟨12⟩⟩] := by decide

end PipeShell
