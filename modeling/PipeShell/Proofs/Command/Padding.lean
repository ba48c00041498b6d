import PipeShell.Proofs.Command.Composition
import PipeShell.Proofs.Command.Margins

/-!
# White space that means nothing

A line means the same with white space at its ends and beside its delimiters outside quotes, of
whatever kind the white space is. For it is in none of the texts, and none of it is a quote or a
backslash, so that every quote behind it is read as before.

* `parse_of_even` and `parse_of_odd` say what a reading depends on: a closed line is known by its
  texts, and an open one is shown whole.
* `texts_padded` and `marks_padded` say what white space beside a delimiter leaves alone.
* `parse_padded` is the theorem.
-/

namespace PipeShell

/-- A text of white space alone. -/
def Text.IsWhite (text : String) : Prop :=
  ∀ c ∈ text.toList, isWhiteSpace c = true

instance (text : String) : Decidable (Text.IsWhite text) :=
  decidable_of_iff (text.toList.all Text.isWhiteSpace = true) List.all_eq_true

/-! ### What a reading depends on -/

section Parse

variable {line line' : String}

/-- Closed lines with the same texts are read in the same way. -/
theorem parse_of_even (settings : Settings) (h : Even (marks line.toList))
    (h' : Even (marks line'.toList)) (htexts : texts line.toList = texts line'.toList) :
    parse settings line = parse settings line' := by
  have hsplit : split settings.maxStages line = split settings.maxStages line' := by
    rw [split_eq, split_eq, if_neg (Nat.not_odd_iff_even.mpr h),
      if_neg (Nat.not_odd_iff_even.mpr h'), htexts]
  rw [parse, parse, readStages, readStages, hsplit]

/-- An open line is refused with nothing but its own text. -/
theorem parse_of_odd (settings : Settings) (h : Odd (marks line.toList)) :
    parse settings line = ⟨[], .error (.unclosedQuote (Text.trimmed line))⟩ := by
  have hsplit : split settings.maxStages line = .error (.unclosedQuote (Text.trimmed line)) := by
    rw [split_eq, if_pos h, Text.trimmed]
  rw [parse, readStages_of_split_error hsplit]

end Parse

/-! ### White space beside a delimiter -/

section Padded

variable {a u v : List Char}

/-- White space beside a delimiter outside quotes is in no text. -/
theorem texts_padded (ha : Even (marks a)) (hu : ∀ c ∈ u, Text.isWhiteSpace c = true)
    (hv : ∀ c ∈ v, Text.isWhiteSpace c = true) (b : List Char) :
    texts (a ++ u ++ delimiter :: (v ++ b)) = texts (a ++ delimiter :: b) := by
  have hau : Even (marks (a ++ u)) := by rwa [marks_append_white a hu]
  calc texts (a ++ u ++ delimiter :: (v ++ b))
      = texts (a ++ u) ++ texts (v ++ b) := texts_append_cons hau _
    _ = texts a ++ texts b := by rw [texts_append_white a hu, texts_append_of_white hv]
    _ = texts (a ++ delimiter :: b) := (texts_append_cons ha b).symm

/-- White space beside a delimiter opens no quote and closes none. -/
theorem marks_padded (a : List Char) (hu : ∀ c ∈ u, Text.isWhiteSpace c = true)
    (hv : ∀ c ∈ v, Text.isWhiteSpace c = true) (b : List Char) :
    marks (a ++ u ++ delimiter :: (v ++ b)) = marks (a ++ delimiter :: b) := by
  rw [marks_append_delimiter, marks_append_delimiter, marks_append_white a hu,
    marks_append_of_white hv]

end Padded

/-! ### Padded lines -/

theorem trimmed_padded {u v : String} (hu : Text.IsWhite u) (hv : Text.IsWhite v) (line : String) :
    Text.trimmed (u ++ line ++ v) = Text.trimmed line := by
  rw [Text.trimmed, String.toList_append, String.toList_append, Text.trim_append_white _ hv,
    Text.trim, Text.trimStart_append hu]
  rfl

theorem toList_padded (a u v b : String) :
    (a ++ u ++ "|" ++ v ++ b).toList =
      a.toList ++ u.toList ++ delimiter :: (v.toList ++ b.toList) := by
  have hline : a ++ u ++ "|" ++ v ++ b = a ++ u ++ "|" ++ (v ++ b) := String.append_assoc
  rw [hline, toList_joined, String.toList_append, String.toList_append]

/-- **White space at the ends of a line or beside a delimiter outside quotes means nothing.** At the
ends it changes nothing at all. Beside a delimiter it changes nothing in a closed line, and in an
open one nothing but the text that is shown, which is the line as it stands. -/
theorem parse_padded (settings : Settings) :
    (∀ u line v : String, Text.IsWhite u → Text.IsWhite v →
      parse settings (u ++ line ++ v) = parse settings line) ∧
    ∀ a u v b : String, Spot.isCut ⟨a.toList, delimiter⟩ = true →
      Text.IsWhite u → Text.IsWhite v →
      parse settings (a ++ u ++ "|" ++ v ++ b) = parse settings (a ++ "|" ++ b) ∨
      (parse settings (a ++ u ++ "|" ++ v ++ b) =
          ⟨[], .error (.unclosedQuote (Text.trimmed (a ++ u ++ "|" ++ v ++ b)))⟩ ∧
        parse settings (a ++ "|" ++ b) =
          ⟨[], .error (.unclosedQuote (Text.trimmed (a ++ "|" ++ b)))⟩) := by
  refine ⟨?_, ?_⟩
  · intro u line v hu hv
    exact parse_congr settings (trimmed_padded hu hv line)
  · intro a u v b hcut hu hv
    have ha : Even (marks a.toList) := by simpa [Spot.isCut] using hcut
    have hmarks : marks (a ++ u ++ "|" ++ v ++ b).toList = marks (a ++ "|" ++ b).toList := by
      rw [toList_padded, toList_joined, marks_padded _ hu hv]
    have htexts : texts (a ++ u ++ "|" ++ v ++ b).toList = texts (a ++ "|" ++ b).toList := by
      rw [toList_padded, toList_joined, texts_padded ha hu hv]
    by_cases hclosed : Even (marks (a ++ "|" ++ b).toList)
    · exact .inl (parse_of_even settings (hmarks ▸ hclosed) hclosed htexts)
    · have hopen : Odd (marks (a ++ "|" ++ b).toList) := Nat.not_even_iff_odd.mp hclosed
      exact .inr ⟨parse_of_odd settings (hmarks ▸ hopen), parse_of_odd settings hopen⟩

/-- A line ending, spaces of two kinds behind a backslash and before a quote, and a line that is
left open: the message shows the space. -/
theorem parse_padded_backslash :
    parse {} (" " ++ "true | x" ++ "\r\n") = parse {} "true | x" ∧
    parse {} ("a\\" ++ "\u3000" ++ "|" ++ "\u00a0" ++ "\"b\"") =
      parse {} ("a\\" ++ "|" ++ "\"b\"") ∧
    parse {} ("a" ++ "\t" ++ "|" ++ "" ++ "\"b") = ⟨[], .error (.unclosedQuote "a\t|\"b")⟩ := by
  obtain ⟨hends, hdelimiter⟩ := parse_padded {}
  refine ⟨hends " " "true | x" "\r\n" (by decide) (by decide), ?_, ?_⟩
  · refine (hdelimiter "a\\" "\u3000" "\u00a0" "\"b\"" (by decide) (by decide)
      (by decide)).resolve_right fun hopen => ?_
    exact absurd (congrArg Parsed.stages hopen.2) (by decide)
  · obtain hsame | ⟨hopen, -⟩ :=
      hdelimiter "a" "\t" "" "\"b" (by decide) (by decide) (by decide)
    · exact absurd (congrArg Parsed.stages hsame) (by decide)
    · exact hopen

end PipeShell
