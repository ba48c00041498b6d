import PipeShell.Proofs.Command.Agreement
import PipeShell.Proofs.Command.Lexemes

/-!
# The reader of commands and the grammar

What the reader of commands finds is what the lexemes of a text denote. `words`, which are known by
the stretches between marks, are followed sign by sign along an outline, and so are the marks.

* `Outline.IsOf.map_words` and `Outline.IsOf.odd_marks_iff` are what an outline tells about its
  text.
* `readWords_of_outline` is the reader's answer under every limit.
* `readWords_by_grammar` says that the reader takes exactly the texts of the grammar, with the words
  that their lexemes denote.
* `readWords_by_limit` says which limits it keeps to, and what a higher limit changes.
-/

namespace PipeShell

/-! ### Words sign by sign -/

section Signs

variable {g : Glyph} {glyphs : List Glyph} {signs : List Sign} {text : List Char}

/-- A glyph goes into what is being read, as the character that it stands for. -/
theorem Spells.exists_of_glyph (h : Spells (.glyph g :: signs) text) :
    ∃ rest, Spells signs rest ∧ marks text = marks rest ∧
      ∀ quoted read, wordsFrom quoted read text = wordsFrom quoted (read ++ [g.meaning]) rest := by
  obtain ⟨rest, rfl, hrest, happart⟩ := h.exists_of_cons
  rcases g with _ | ⟨c, hc⟩
  · exact ⟨rest, hrest, marks_pair_cons rest, fun quoted read => wordsFrom_pair read rest quoted⟩
  · exact ⟨rest, hrest, marks_cons hc happart, fun quoted read =>
      wordsFrom_cons read quoted hc happart⟩

theorem Spells.exists_of_glyphs (h : Spells (glyphs.map .glyph ++ signs) text) :
    ∃ rest, Spells signs rest ∧ marks text = marks rest ∧
      ∀ quoted read,
        wordsFrom quoted read text = wordsFrom quoted (read ++ glyphs.map Glyph.meaning) rest := by
  induction glyphs generalizing text with
  | nil => exact ⟨text, h, rfl, fun quoted read => by rw [List.map_nil, List.append_nil]⟩
  | cons g glyphs ih =>
    obtain ⟨rest, hrest, hmarks, hwords⟩ := h.exists_of_glyph
    obtain ⟨rest', hrest', hmarks', hwords'⟩ := ih hrest
    refine ⟨rest', hrest', hmarks.trans hmarks', fun quoted read => ?_⟩
    rw [hwords, hwords', List.map_cons, List.append_assoc, List.singleton_append]

theorem Spells.exists_of_mark (h : Spells (.mark :: signs) text) :
    ∃ rest, text = quote :: rest ∧ Spells signs rest := by
  obtain ⟨rest, rfl, hrest, -⟩ := h.exists_of_cons
  exact ⟨rest, rfl, hrest⟩

/-- A bare word that has been read ends where no word goes on. -/
theorem Spells.wordsFrom_eq {read : List Char} (h : Spells signs text) (hne : read ≠ [])
    (hbare : ∀ c ∈ read, isBlank c = false) (hend : ∀ s ∈ signs.head?, s.kind ≠ .word) :
    wordsFrom false read text = read :: words text := by
  have hread : bareWords read = [read] := bareWords_eq_singleton hne hbare
  rw [words_eq_wordsFrom]
  rcases signs with _ | ⟨_ | g, signs⟩
  · obtain rfl := spells_nil_iff.mp h
    rw [wordsFrom_bare_nil, wordsFrom_bare_nil, hread]
    rfl
  · obtain ⟨rest, rfl, -⟩ := h.exists_of_mark
    rw [wordsFrom_bare_quote, wordsFrom_bare_quote, hread]
    rfl
  · have hblank : isBlank g.meaning = true := by
      by_contra hg
      exact hend _ rfl (Sign.kind_of_bare (Bool.not_eq_true _ ▸ hg))
    obtain ⟨rest, -, -, hwords⟩ := h.exists_of_glyph
    rw [hwords, hwords, wordsFrom_append_blank read rest hblank [],
      wordsFrom_append_blank [] rest hblank [], hread]
    rfl

end Signs

/-! ### Words lexeme by lexeme -/

namespace Outline

variable {o : Outline} {text : List Char}

/-- What stands behind the first lexeme of a text: its words and its marks. -/
theorem IsOf.exists_of_cons {l : Lexeme} (h : (cons l o).IsOf text) :
    ∃ rest, o.IsOf rest ∧ words text = l.token?.toList ++ words rest ∧
      (Odd (marks text) ↔ Odd (marks rest)) := by
  obtain ⟨hspells, hmax⟩ := h
  obtain ⟨hnext, hbehind⟩ := isMaximal_cons_iff.mp hmax
  rw [signs_cons] at hspells
  rcases l with ⟨c, hc⟩ | ⟨glyphs, hne, hbare⟩ | glyphs
  · obtain ⟨rest, hrest, hmarks, hwords⟩ := hspells.exists_of_glyph
    refine ⟨rest, ⟨hrest, hbehind⟩, ?_, by rw [hmarks]⟩
    rw [words_eq_wordsFrom, words_eq_wordsFrom, hwords]
    exact wordsFrom_append_blank [] rest hc []
  · obtain ⟨rest, hrest, hmarks, hwords⟩ := Spells.exists_of_glyphs hspells
    have hne' : glyphs.map Glyph.meaning ≠ [] := by simpa using hne
    have hbare' : ∀ c ∈ glyphs.map Glyph.meaning, isBlank c = false := by simpa using hbare
    have hend := kind_ne_word_of_head? fun l hl => hnext l hl rfl
    refine ⟨rest, ⟨hrest, hbehind⟩, ?_, by rw [hmarks]⟩
    rw [words_eq_wordsFrom, hwords, List.nil_append, hrest.wordsFrom_eq hne' hbare' hend]
    rfl
  · rw [Lexeme.signs_run_append] at hspells
    obtain ⟨inside, rfl, hinside⟩ := hspells.exists_of_mark
    obtain ⟨closing, hclosing, hmarks, hwords⟩ := hinside.exists_of_glyphs
    obtain ⟨rest, rfl, hrest⟩ := hclosing.exists_of_mark
    refine ⟨rest, ⟨hrest, hbehind⟩, ?_, ?_⟩
    · rw [words_eq_wordsFrom, wordsFrom_bare_quote, hwords, wordsFrom_run_quote,
        ← words_eq_wordsFrom]
      rfl
    · rw [marks_quote_cons, hmarks, marks_quote_cons]
      simp [Nat.odd_add]

/-- What a text without lexemes tells: a run that is left open is no word. -/
theorem IsOf.eq_of_nil {opened : Option (List Glyph)} (h : IsOf ⟨[], opened⟩ text) :
    words text = [] ∧ (Odd (marks text) ↔ opened.isSome = true) := by
  have hspells : Spells (openedSigns opened) text := h.spells
  rcases opened with _ | glyphs
  · obtain rfl := spells_nil_iff.mp hspells
    simp
  · obtain ⟨inside, rfl, hinside⟩ := hspells.exists_of_mark
    rw [← List.append_nil (glyphs.map Sign.glyph)] at hinside
    obtain ⟨rest, hrest, hmarks, hwords⟩ := hinside.exists_of_glyphs
    obtain rfl := spells_nil_iff.mp hrest
    refine ⟨?_, by simp [hmarks]⟩
    rw [words_eq_wordsFrom, wordsFrom_bare_quote, hwords, wordsFrom_run_nil]
    rfl

/-- What an outline tells about its text. -/
theorem IsOf.tells (h : o.IsOf text) :
    words text = o.lexemes.filterMap Lexeme.token? ∧
      (Odd (marks text) ↔ o.opened.isSome = true) := by
  obtain ⟨lexemes, opened⟩ := o
  induction lexemes generalizing text with
  | nil => exact h.eq_of_nil
  | cons l lexemes ih =>
    have hcons : (cons l ⟨lexemes, opened⟩).IsOf text := h
    obtain ⟨rest, hrest, hwords, hodd⟩ := hcons.exists_of_cons
    obtain ⟨hwords', hodd'⟩ := ih hrest
    refine ⟨?_, hodd.trans hodd'⟩
    rw [hwords, hwords']
    rcases htoken : l.token? with _ | token
    · rw [List.filterMap_cons_none htoken]
      rfl
    · rw [List.filterMap_cons_some htoken]
      rfl

/-- **The words of a text are what its lexemes denote.** -/
theorem IsOf.map_words (h : o.IsOf text) : (words text).map String.ofList = o.tokens := by
  rw [h.tells.1, tokens]

/-- A text has an odd number of marks exactly if a run is left open. -/
theorem IsOf.odd_marks_iff (h : o.IsOf text) : Odd (marks text) ↔ o.opened.isSome = true :=
  h.tells.2

theorem IsOf.length_words (h : o.IsOf text) : (words text).length = o.tokens.length := by
  rw [← h.map_words, List.length_map]

end Outline

/-! ### The reader of commands -/

/-- The answer of the reader of commands under a limit: of two faults it reports the one that it
meets first, and the words before a run that is left open have all been counted by then. -/
theorem readWords_of_outline {o : Outline} {text : String} (h : o.IsOf text.toList) (most : Nat) :
    readWords most text =
      if most < o.tokens.length then .error (.tooManyWords text most)
      else if o.opened.isSome then .error (.unclosedQuote text)
      else .ok o.tokens := by
  rw [readWords_eq, h.length_words, h.map_words]
  simp only [h.odd_marks_iff]

/-- A text is a row of lexemes if its outline is. -/
theorem reads_iff {o : Outline} {text : List Char} (h : o.IsOf text) {lexemes : List Lexeme} :
    Reads text lexemes ↔ o = ⟨lexemes, none⟩ := by
  constructor
  · intro hreads
    exact (existsUnique_outline text).unique h hreads
  · rintro rfl
    exact h

theorem exists_reads_iff {o : Outline} {text : List Char} (h : o.IsOf text) :
    (∃ lexemes, Reads text lexemes) ↔ o.opened.isSome = false := by
  constructor
  · rintro ⟨lexemes, hreads⟩
    rw [(reads_iff h).mp hreads]
    rfl
  · intro hnone
    obtain ⟨lexemes, opened⟩ := o
    obtain rfl : opened = none := Option.isNone_iff_eq_none.mp (Option.isSome_eq_false_iff.mp hnone)
    exact ⟨lexemes, h⟩

/-! ### Texts without quotes -/

section Plain

variable {text : List Char}

theorem marks_of_quote_notMem (h : quote ∉ text) : marks text = 0 := by
  rw [marks, List.countP_eq_zero]
  intro s hs hmark
  obtain ⟨after, rfl⟩ := mem_spots.mp hs
  have hquote : s.char = quote := (of_decide_eq_true hmark).1
  exact h (by simp [hquote])

theorem unescape_of_quote_notMem (h : quote ∉ text) : unescape text = text := by
  induction text with
  | nil => rfl
  | cons c rest ih =>
    have hrest : quote ∉ rest := fun hmem => h (List.mem_cons_of_mem c hmem)
    have hhead : ¬(c = escape ∧ rest.head? = some quote) := fun hpair =>
      hrest (List.mem_of_head? hpair.2)
    rw [unescape, if_neg hhead, ih hrest]

/-- The words of a text without quotes are what stands between its blanks. -/
theorem words_of_quote_notMem (h : quote ∉ text) : words text = bareWords text := by
  rw [words, stretches_eq_singleton (marks_of_quote_notMem h), unescape_of_quote_notMem h,
    spelled_false_cons]
  exact List.append_nil _

end Plain

/-! ### Grammar and limits -/

/-- **The reader of commands follows the grammar.** Where the limit does not matter, it takes the
texts that are rows of blanks, bare words and quoted runs and no others; a text is such a row in one
way only, and its words are what the lexemes of this row denote. All other texts are refused for a
run that is left open. A text without quotes is taken apart at its blanks. -/
theorem readWords_by_grammar {most : Nat} {text : String} (h : Admits most text) :
    ((∃ found, readWords most text = .ok found) ↔ ∃ lexemes, Reads text.toList lexemes) ∧
    (∀ lexemes, Reads text.toList lexemes →
      (∀ lexemes', Reads text.toList lexemes' → lexemes' = lexemes) ∧
      readWords most text = .ok ((lexemes.filterMap Lexeme.token?).map String.ofList)) ∧
    ((¬∃ lexemes, Reads text.toList lexemes) → readWords most text = .error (.unclosedQuote text)) ∧
    (quote ∉ text.toList →
      readWords most text = .ok ((bareWords text.toList).map String.ofList)) := by
  obtain ⟨o, ho, huniq⟩ := existsUnique_outline text.toList
  have hfew : ¬most < o.tokens.length := by
    rw [← ho.length_words]
    exact Nat.not_lt.mpr (admits_iff.mp h)
  have hanswer := readWords_of_outline ho most
  rw [if_neg hfew] at hanswer
  refine ⟨?_, ?_, ?_, ?_⟩
  · rw [hanswer, exists_reads_iff ho]
    by_cases hopen : o.opened.isSome = true <;> simp [hopen]
  · intro lexemes hreads
    obtain rfl := (reads_iff ho).mp hreads
    refine ⟨fun lexemes' hreads' => ?_, hanswer⟩
    exact congrArg Outline.lexemes ((reads_iff ho).mp hreads').symm
  · intro hnone
    rw [exists_reads_iff ho, Bool.not_eq_false] at hnone
    rw [hanswer, if_pos hnone]
  · intro hquote
    have hclosed : ¬o.opened.isSome = true := by
      rw [← ho.odd_marks_iff, marks_of_quote_notMem hquote]
      decide
    rw [hanswer, if_neg hclosed, ← ho.map_words, words_of_quote_notMem hquote]

/-- A word with a pair in it, two runs that touch it and each other, and a backslash by itself. -/
theorem readWords_by_grammar_touching :
    ∃ lexemes, Reads "a\\\"b\"c d\"\"\"x\\ y".toList lexemes ∧
      (∀ lexemes', Reads "a\\\"b\"c d\"\"\"x\\ y".toList lexemes' → lexemes' = lexemes) ∧
      readWords 5 "a\\\"b\"c d\"\"\"x\\ y" = .ok ["a\"b", "c d", "", "x\\", "y"] := by
  have hadmits : Admits 5 "a\\\"b\"c d\"\"\"x\\ y" := by
    unfold Admits
    decide
  have hreads : Reads "a\\\"b\"c d\"\"\"x\\ y".toList
      [.word [.plain 'a' (by decide), .pair, .plain 'b' (by decide)] (by decide) (by decide),
        .run [.plain 'c' (by decide), .plain ' ' (by decide), .plain 'd' (by decide)], .run [],
        .word [.plain 'x' (by decide), .plain '\\' (by decide)] (by decide) (by decide),
        .blank ' ' (by decide), .word [.plain 'y' (by decide)] (by decide) (by decide)] := by
    decide
  obtain ⟨-, htokens, -⟩ := readWords_by_grammar hadmits
  obtain ⟨huniq, hread⟩ := htokens _ hreads
  exact ⟨_, hreads, huniq, hread⟩

/-- **The limit on words neither cuts a command short nor refuses one that keeps to it.** The words
that count are those of the lexemes, up to the end or up to the mark of a run that is left open: the
reader finds just these in that part of the text. There are too many of them exactly where the
reader says so, whatever follows, and otherwise the limit does not matter. -/
theorem readWords_by_limit (text : String) :
    ∃ o : Outline, o.IsOf text.toList ∧ (∀ o' : Outline, o'.IsOf text.toList → o' = o) ∧
      (∀ most, (readWords most text = .error (.tooManyWords text most) ↔ most < o.tokens.length) ∧
        (o.tokens.length ≤ most →
          readWords most (String.ofList o.completed) = .ok o.tokens ∧
          readWords most text =
            if o.opened.isSome then .error (.unclosedQuote text) else .ok o.tokens)) ∧
      ∀ most most', most ≤ most' →
        (∀ found, readWords most text = .ok found → readWords most' text = .ok found) ∧
        (readWords most text = readWords most' text ∨
          readWords most text = .error (.tooManyWords text most)) := by
  obtain ⟨o, ho, huniq⟩ := existsUnique_outline text.toList
  have hmany : ∀ most, most < o.tokens.length →
      readWords most text = .error (.tooManyWords text most) := by
    intro most hmost
    rw [readWords_of_outline ho, if_pos hmost]
  have hfew : ∀ most, o.tokens.length ≤ most → readWords most text =
      if o.opened.isSome then .error (.unclosedQuote text) else .ok o.tokens := by
    intro most hmost
    rw [readWords_of_outline ho, if_neg (Nat.not_lt.mpr hmost)]
  have hcompleted : ∀ most, o.tokens.length ≤ most →
      readWords most (String.ofList o.completed) = .ok o.tokens := by
    intro most hmost
    have hreads : Reads (String.ofList o.completed).toList o.lexemes := by
      rw [String.toList_ofList]
      exact ho.reads_completed
    exact (readWords_of_outline hreads most).trans (if_neg (Nat.not_lt.mpr hmost))
  refine ⟨o, ho, huniq, fun most => ⟨⟨?_, hmany most⟩, fun hmost => ?_⟩, ?_⟩
  · intro herror
    by_contra hmost
    rw [hfew most (Nat.not_lt.mp hmost)] at herror
    split_ifs at herror
    cases herror
  · exact ⟨hcompleted most hmost, hfew most hmost⟩
  · intro most most' hle
    rcases Nat.lt_or_ge most o.tokens.length with hmost | hmost
    · refine ⟨fun found hfound => ?_, .inr (hmany most hmost)⟩
      rw [hmany most hmost] at hfound
      cases hfound
    · have hsame : readWords most text = readWords most' text := by
        rw [hfew most hmost, hfew most' (hmost.trans hle)]
      exact ⟨fun found hfound => hsame ▸ hfound, .inl hsame⟩

/-- A run that is left open right behind a word: four words count, and the fault that is reported
changes with the fourth. -/
theorem readWords_by_limit_open :
    readWords 3 "a b\"c\"d\"e" = .error (.tooManyWords "a b\"c\"d\"e" 3) ∧
      readWords 4 "a b\"c\"d\"e" = .error (.unclosedQuote "a b\"c\"d\"e") ∧
      readWords 4 "a b\"c\"d" = .ok ["a", "b", "c", "d"] := by
  obtain ⟨o, -, huniq, hlimit, -⟩ := readWords_by_limit "a b\"c\"d\"e"
  have ho : Outline.IsOf
      ⟨[.word [.plain 'a' (by decide)] (by decide) (by decide), .blank ' ' (by decide),
        .word [.plain 'b' (by decide)] (by decide) (by decide), .run [.plain 'c' (by decide)],
        .word [.plain 'd' (by decide)] (by decide) (by decide)], some [.plain 'e' (by decide)]⟩
      "a b\"c\"d\"e".toList := by
    decide
  obtain rfl := huniq _ ho
  obtain ⟨hcompleted, hopen⟩ := (hlimit 4).2 (by decide)
  exact ⟨(hlimit 3).1.mpr (by decide), hopen, hcompleted⟩

end PipeShell
