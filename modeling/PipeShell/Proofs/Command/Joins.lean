import PipeShell.Proofs.Command.Words
import PipeShell.Proofs.Text.WhiteSpace

/-!
# Words where texts meet

The words of a text that is put together from others. A blank outside runs keeps the words of its
two sides apart (`words_append_cons`), so blanks around a text do not matter (`words_append_blank`),
and a run keeps apart what stands before and behind it (`words_run`). Which characters are in words
is said by `mem_words_iff`: every one that is no blank, quote or backslash.
-/

namespace PipeShell

/-! ### Characters -/

theorem ne_quote_of_isBlank {c : Char} (h : isBlank c = true) : c ≠ quote := by
  rintro rfl
  exact absurd h (by decide)

theorem ne_escape_of_isBlank {c : Char} (h : isBlank c = true) : c ≠ escape := by
  rintro rfl
  exact absurd h (by decide)

theorem isWhiteSpace_of_isBlank {c : Char} (h : isBlank c = true) : Text.isWhiteSpace c = true := by
  simp only [isBlank, Bool.or_eq_true, beq_iff_eq] at h
  rcases h with ((rfl | rfl) | rfl) | rfl <;> decide

theorem isBlank_of_not_isWhiteSpace {c : Char} (h : Text.isWhiteSpace c = false) :
    isBlank c = false := by
  by_contra hblank
  simp [isWhiteSpace_of_isBlank (Bool.not_eq_false _ ▸ hblank)] at h

theorem ne_quote_of_isWhiteSpace {c : Char} (h : Text.isWhiteSpace c = true) : c ≠ quote := by
  rintro rfl
  exact absurd h (by decide)

theorem ne_escape_of_isWhiteSpace {c : Char} (h : Text.isWhiteSpace c = true) : c ≠ escape := by
  rintro rfl
  exact absurd h (by decide)

/-! ### Blanks -/

/-- A blank outside runs separates the words before it from those behind it. -/
theorem wordsFrom_append_cons (quoted : Bool) (read : List Char) {a : List Char} {c : Char}
    (hc : isBlank c = true) (b : List Char) (ha : Even (marks a + quoted.toNat)) :
    wordsFrom quoted read (a ++ c :: b) = wordsFrom quoted read a ++ words b := by
  have hq := ne_quote_of_isBlank hc
  have he := ne_escape_of_isBlank hc
  induction a using quotes_induction generalizing quoted read with
  | nil =>
    have hbare : quoted = false := by
      cases quoted
      · rfl
      · exact absurd ha (by decide)
    subst hbare
    rw [List.nil_append, wordsFrom_cons _ _ hq (apart_singleton he b),
      wordsFrom_append_blank _ _ hc, wordsFrom_bare_nil, words_eq_wordsFrom]
  | mark rest ih =>
    rw [marks_quote_cons] at ha
    cases quoted
    · have hrest := ih true [] ha
      simp [hrest]
    · have hrest := ih false [] (by simpa [Nat.even_add] using ha)
      simp [hrest]
  | plain d rest hd h ih =>
    have happart : Apart [d] (rest ++ c :: b) := by
      rcases rest with _ | ⟨e, rest⟩
      · exact apart_cons _ hq _
      · exact h
    rw [marks_cons hd h] at ha
    rw [List.cons_append, wordsFrom_cons _ _ hd happart, wordsFrom_cons _ _ hd h, ih _ _ ha]
  | pair rest ih =>
    rw [marks_pair_cons] at ha
    rw [List.cons_append, List.cons_append, wordsFrom_pair, wordsFrom_pair, ih _ _ ha]

theorem words_append_cons {a : List Char} (ha : Even (marks a)) {c : Char} (hc : isBlank c = true)
    (b : List Char) : words (a ++ c :: b) = words a ++ words b := by
  rw [words_eq_wordsFrom, wordsFrom_append_cons _ _ hc b (by simpa using ha), ← words_eq_wordsFrom]

@[simp] theorem words_nil : words [] = [] := rfl

theorem words_append_of_blank {u : List Char} (hu : ∀ c ∈ u, isBlank c = true) (text : List Char) :
    words (u ++ text) = words text := by
  induction u with
  | nil => rfl
  | cons c rest ih =>
    have hrest := ih fun d hd => hu d (List.mem_cons_of_mem c hd)
    have hcons := words_append_cons (a := []) ⟨0, rfl⟩ (hu c List.mem_cons_self) (rest ++ text)
    rw [List.nil_append, words_nil, List.nil_append] at hcons
    rw [List.cons_append, hcons, hrest]

theorem words_append_blank {text : List Char} (h : Even (marks text)) {v : List Char}
    (hv : ∀ c ∈ v, isBlank c = true) : words (text ++ v) = words text := by
  rcases v with _ | ⟨c, rest⟩
  · rw [List.append_nil]
  · have hrest := words_append_of_blank (fun d hd => hv d (List.mem_cons_of_mem c hd)) []
    rw [List.append_nil, words_nil] at hrest
    rw [words_append_cons h (hv c List.mem_cons_self), hrest, List.append_nil]

/-! ### White space around a text -/

theorem marks_append_of_white {u : List Char} (hu : ∀ c ∈ u, Text.isWhiteSpace c = true)
    (text : List Char) : marks (u ++ text) = marks text := by
  induction u with
  | nil => rfl
  | cons c rest ih =>
    have hc := hu c List.mem_cons_self
    rw [List.cons_append, marks_cons (ne_quote_of_isWhiteSpace hc)
      (apart_singleton (ne_escape_of_isWhiteSpace hc) _),
      ih fun d hd => hu d (List.mem_cons_of_mem c hd)]

theorem marks_append_white (text : List Char) {v : List Char}
    (hv : ∀ c ∈ v, Text.isWhiteSpace c = true) : marks (text ++ v) = marks text := by
  rcases v with _ | ⟨c, rest⟩
  · rw [List.append_nil]
  · have hc := hv c List.mem_cons_self
    have hrest := marks_append_of_white (fun d hd => hv d (List.mem_cons_of_mem c hd)) []
    rw [List.append_nil, marks_nil] at hrest
    rw [marks_append_cons text (ne_quote_of_isWhiteSpace hc) (ne_escape_of_isWhiteSpace hc), hrest,
      Nat.add_zero]

/-- Trimming takes no mark away. -/
theorem marks_trim (text : List Char) : marks (Text.trim text) = marks text := by
  have h := Text.front_append_trim_append_back text
  conv_rhs => rw [← h]
  rw [marks_append_white _ fun _ => Text.isWhiteSpace_of_mem_back,
    marks_append_of_white fun _ => Text.isWhiteSpace_of_mem_front]

/-! ### Runs -/

theorem spelled_append : ∀ {first : List (List Char)} (_ : Odd first.length)
    (rest : List (List Char)),
    spelled false (first ++ rest) = spelled false first ++ spelled true rest
  | [bare], _, rest => by simp [spelled]
  | bare :: run :: first, hodd, rest => by
    have hfirst : Odd first.length := by simpa [Nat.odd_add] using hodd
    have hne : first ≠ [] := by
      rintro rfl
      exact absurd hfirst (by decide)
    have happend : first ++ rest ≠ [] := by simp [hne]
    simp only [List.cons_append, spelled_false_cons, spelled_true_cons run hne,
      spelled_true_cons run happend, spelled_append hfirst rest, List.append_assoc]

theorem stretches_eq_singleton {text : List Char} (h : marks text = 0) :
    stretches text = [unescape text] := by
  have hnone : ∀ s ∈ spots text, s.isMark = false := by
    simpa [marks, List.countP_eq_zero] using h
  rw [stretches, cutBy, List.splitOnP_eq_singleton hnone]
  simp [map_char_spots]

/-- A closed run is a word between those before it and those behind it. -/
theorem words_run {a run : List Char} (ha : Even (marks a)) (ha' : a.getLast? ≠ some escape)
    (hrun : marks run = 0) (hrun' : run.getLast? ≠ some escape) (b : List Char) :
    words (a ++ quote :: (run ++ quote :: b)) = words a ++ unescape run :: words b := by
  have hodd : Odd (stretches a).length := by
    rw [length_stretches]
    exact ha.add_one
  rw [words, stretches_append_quote ha', stretches_append_quote hrun', spelled_append hodd,
    stretches_eq_singleton hrun, List.singleton_append, spelled_true_cons _ (stretches_ne_nil b)]
  rfl

/-! ### What is in words -/

theorem mem_splitOnP_iff {α : Type} {p : α → Bool} {x : α} (hx : p x = false) {l : List α} :
    (∃ part ∈ l.splitOnP p, x ∈ part) ↔ x ∈ l := by
  induction l with
  | nil => simp
  | cons y rest ih =>
    obtain ⟨first, others, hsplit⟩ := List.exists_cons_of_ne_nil (List.splitOnP_ne_nil p rest)
    rw [List.splitOnP_cons_eq_if_modifyHead, List.mem_cons, ← ih, hsplit]
    by_cases hy : p y = true
    · have hne : x ≠ y := by
        rintro rfl
        simp [hx] at hy
      simp [hy, hne]
    · simp [hy, or_assoc]

/-- No part contains what the list is split at. -/
theorem of_mem_splitOnP {α : Type} {p : α → Bool} {l part : List α} (h : part ∈ l.splitOnP p) :
    ∀ x ∈ part, p x = false := by
  induction l generalizing part with
  | nil => simp_all
  | cons y rest ih =>
    obtain ⟨first, others, hsplit⟩ := List.exists_cons_of_ne_nil (List.splitOnP_ne_nil p rest)
    rw [List.splitOnP_cons_eq_if_modifyHead] at h
    by_cases hy : p y = true
    · rw [if_pos hy] at h
      rcases List.mem_cons.mp h with rfl | hpart
      · simp
      · exact ih hpart
    · rw [if_neg hy, hsplit, List.modifyHead_cons] at h
      rcases List.mem_cons.mp h with rfl | hpart
      · have hfirst := ih (hsplit ▸ List.mem_cons_self)
        simpa [hy] using hfirst
      · exact ih (hsplit ▸ List.mem_cons_of_mem first hpart)

theorem isBlank_of_mem_bareWords {text word : List Char} (h : word ∈ bareWords text) :
    ∀ c ∈ word, isBlank c = false :=
  of_mem_splitOnP (List.mem_filter.mp h).1

theorem mem_bareWords_iff {c : Char} (hc : isBlank c = false) {text : List Char} :
    (∃ word ∈ bareWords text, c ∈ word) ↔ c ∈ text := by
  rw [← mem_splitOnP_iff hc]
  constructor
  · rintro ⟨word, hword, hmem⟩
    exact ⟨word, (List.mem_filter.mp hword).1, hmem⟩
  · rintro ⟨word, hword, hmem⟩
    exact ⟨word, List.mem_filter.mpr ⟨hword, by simpa using List.ne_nil_of_mem hmem⟩, hmem⟩

theorem mem_wordsFrom_iff {c : Char} (hblank : isBlank c = false) (hquote : c ≠ quote)
    (hescape : c ≠ escape) (quoted : Bool) (read text : List Char)
    (h : Even (marks text + quoted.toNat)) :
    (∃ word ∈ wordsFrom quoted read text, c ∈ word) ↔ c ∈ read ∨ c ∈ text := by
  induction text using quotes_induction generalizing quoted read with
  | nil =>
    have hbare : quoted = false := by
      cases quoted
      · rfl
      · exact absurd h (by decide)
    subst hbare
    simpa using mem_bareWords_iff hblank
  | mark rest ih =>
    rw [marks_quote_cons] at h
    cases quoted
    · have hrest := ih true [] h
      simp only [wordsFrom_bare_quote, List.mem_append, or_and_right, exists_or, hrest,
        mem_bareWords_iff hblank]
      simp [hquote]
    · have hrest := ih false [] (by simpa [Nat.even_add] using h)
      simp only [wordsFrom_run_quote, List.mem_cons, or_and_right, exists_or, exists_eq_left, hrest]
      simp [hquote]
  | plain d rest hd happart ih =>
    rw [marks_cons hd happart] at h
    rw [wordsFrom_cons _ _ hd happart, ih _ _ h]
    simp [or_assoc]
  | pair rest ih =>
    rw [marks_pair_cons] at h
    rw [wordsFrom_pair, ih _ _ h]
    simp [hquote, hescape]

/-- A character that is no blank, quote or backslash is in a word wherever it stands. -/
theorem mem_words_iff {c : Char} (hblank : isBlank c = false) (hquote : c ≠ quote)
    (hescape : c ≠ escape) {text : List Char} (h : Even (marks text)) :
    (∃ word ∈ words text, c ∈ word) ↔ c ∈ text := by
  rw [words_eq_wordsFrom, mem_wordsFrom_iff hblank hquote hescape false [] text (by simpa using h)]
  simp

/-- A run that will be closed, or a bare word that has begun, is still to come. -/
theorem wordsFrom_ne_nil (quoted : Bool) (read text : List Char)
    (h : Even (marks text + quoted.toNat))
    (hbegun : quoted = true ∨ ∃ c ∈ read, isBlank c = false) : wordsFrom quoted read text ≠ [] := by
  induction text using quotes_induction generalizing quoted read with
  | nil =>
    cases quoted
    · obtain ⟨c, hmem, hc⟩ := hbegun.resolve_left Bool.false_ne_true
      obtain ⟨word, hword, -⟩ := (mem_bareWords_iff hc).mpr hmem
      rw [wordsFrom_bare_nil]
      exact List.ne_nil_of_mem hword
    · exact absurd h (by decide)
  | mark rest ih =>
    rw [marks_quote_cons] at h
    cases quoted
    · simp [ih true [] h (.inl rfl)]
    · simp
  | plain d rest hd happart ih =>
    rw [marks_cons hd happart] at h
    rw [wordsFrom_cons _ _ hd happart]
    exact ih _ _ h (hbegun.imp_right fun ⟨c, hmem, hc⟩ => ⟨c, List.mem_append_left _ hmem, hc⟩)
  | pair rest ih =>
    rw [marks_pair_cons] at h
    rw [wordsFrom_pair]
    exact ih _ _ h (hbegun.imp_right fun ⟨c, hmem, hc⟩ => ⟨c, List.mem_append_left _ hmem, hc⟩)

/-- A text that begins with no blank has a word. -/
theorem words_ne_nil {c : Char} (hc : isBlank c = false) {rest : List Char}
    (h : Even (marks (c :: rest))) : words (c :: rest) ≠ [] := by
  rw [words_eq_wordsFrom]
  by_cases hquote : c = quote
  · subst hquote
    rw [marks_quote_cons] at h
    simp [wordsFrom_ne_nil true [] rest h (.inl rfl)]
  · by_cases happart : Apart [c] rest
    · rw [marks_cons hquote happart] at h
      rw [wordsFrom_cons _ _ hquote happart]
      exact wordsFrom_ne_nil _ _ _ (by simpa using h) (.inr ⟨c, by simp, hc⟩)
    · obtain ⟨rfl, hhead⟩ : c = escape ∧ rest.head? = some quote := by simpa [Apart] using happart
      obtain ⟨rest, rfl⟩ : ∃ rest', rest = quote :: rest' := by
        rcases rest with _ | ⟨d, rest⟩
        · cases hhead
        · exact ⟨rest, by rw [Option.some.inj hhead]⟩
      rw [marks_pair_cons] at h
      rw [wordsFrom_pair]
      exact wordsFrom_ne_nil _ _ _ (by simpa using h) (.inr ⟨quote, by simp, by decide⟩)

end PipeShell
