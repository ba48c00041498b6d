import PipeShell.Proofs.Command.Quotes
import PipeShell.Command.Word

/-!
# The words of a text

The marks of a text cut it into stretches, bare and quoted in turn. A bare stretch is a row of bare
words between blanks; a quoted stretch is a word as it stands, if a mark closes it. In both a
backslash right before a quote is dropped, so that the quote is left.

* `words` are the words of a text in this sense, without any limit.
* `wordsFrom` are the words still to come in the middle of a text. Its equations, one for each thing
  a reader takes at once, carry the inductions of this module and of those that build on it.
* `readWords_eq` says that the reader of commands finds these words, that it refuses a text exactly
  if there are too many or a run is open, and which fault it reports.
* `words_append_cons` and `words_run` take a text apart at a blank and at a run.
-/

namespace PipeShell

/-- A text without the backslashes that stand right before a quote. -/
def unescape : List Char → List Char
  | [] => []
  | c :: rest => if c = escape ∧ rest.head? = some quote then unescape rest else c :: unescape rest

/-- What stands between the marks of a text, bare and quoted in turn. -/
def stretches (text : List Char) : List (List Char) :=
  (cutBy Spot.isMark text).map unescape

/-- The words between the blanks of a text. -/
def bareWords (text : List Char) : List (List Char) :=
  (text.splitOnP isBlank).filter (· ≠ [])

/-- The words of stretches that are bare and quoted in turn. A quoted one is a word, unless it is
the last one: then no mark closes it. -/
def spelled : (quoted : Bool) → List (List Char) → List (List Char)
  | _, [] => []
  | false, bare :: rest => bareWords bare ++ spelled true rest
  | true, [_] => []
  | true, run :: rest => run :: spelled false rest

/-- The words of a text, whatever their number. -/
def words (text : List Char) : List (List Char) :=
  spelled false (stretches text)

/-! ### Stretches -/

theorem stretches_ne_nil (text : List Char) : stretches text ≠ [] := by
  simp [stretches, cutBy_ne_nil]

/-- A mark ends a stretch. -/
theorem stretches_append_quote {a : List Char} (ha : a.getLast? ≠ some escape) (b : List Char) :
    stretches (a ++ quote :: b) = stretches a ++ stretches b := by
  have hmark : Spot.isMark ⟨a, quote⟩ = true := by simp [Spot.isMark, ha]
  have hshift : ∀ s ∈ spots b, (s.shift (a ++ [quote])).isMark = s.isMark := fun s hs =>
    Spot.isMark_shift (apart_snoc a (by decide) b) hs
  rw [stretches, cutBy_append_cons a b hmark hshift, List.map_append]
  rfl

@[simp] theorem stretches_nil : stretches [] = [[]] := rfl

@[simp] theorem stretches_quote_cons (rest : List Char) :
    stretches (quote :: rest) = [] :: stretches rest :=
  stretches_append_quote (a := []) (by simp) rest

/-- A character that stands for itself goes into its stretch. -/
theorem stretches_cons {c : Char} (hc : c ≠ quote) {rest : List Char} (h : Apart [c] rest) :
    stretches (c :: rest) = (stretches rest).modifyHead (c :: ·) := by
  have hone : ∀ s ∈ spots [c], s.isMark = false := by simp [spots_cons, Spot.isMark, hc]
  have hcut := cutBy_append_of_forall hone fun s hs => Spot.isMark_shift h hs
  obtain ⟨first, others, hfirst⟩ := List.exists_cons_of_ne_nil (cutBy_ne_nil Spot.isMark rest)
  -- the character is no backslash before a quote of its stretch, since that begins the text
  have hkeep : ¬(c = escape ∧ first.head? = some quote) := by
    rintro ⟨rfl, hhead⟩
    obtain ⟨after, rfl⟩ := prefix_of_cutBy_eq_cons hfirst
    exact h rfl (by simp [List.head?_append, hhead])
  rw [List.singleton_append] at hcut
  rw [stretches, hcut, stretches, hfirst]
  simp [unescape, hkeep]

/-- A backslash with the quote behind it goes into its stretch as a quote. -/
@[simp] theorem stretches_pair_cons (rest : List Char) :
    stretches (escape :: quote :: rest) = (stretches rest).modifyHead (quote :: ·) := by
  have hpair : ∀ s ∈ spots [escape, quote], s.isMark = false := by decide
  have hcut := cutBy_append_of_forall hpair fun s hs =>
    Spot.isMark_shift (apart_snoc [escape] (by decide : quote ≠ escape) rest) hs
  obtain ⟨first, others, hfirst⟩ := List.exists_cons_of_ne_nil (cutBy_ne_nil Spot.isMark rest)
  have hquote : ¬(quote = escape ∧ first.head? = some quote) := by simp [quote, escape]
  rw [stretches, show escape :: quote :: rest = [escape, quote] ++ rest from rfl, hcut, stretches,
    hfirst]
  simp [unescape, hquote]

theorem length_stretches (text : List Char) : (stretches text).length = marks text + 1 := by
  induction text using quotes_induction with
  | nil => rfl
  | mark rest ih => simp [ih]
  | plain c rest hc h ih => simp [stretches_cons hc h, marks_cons hc h, ih]
  | pair rest ih => simp [ih]

/-! ### Bare words -/

@[simp] theorem bareWords_nil : bareWords [] = [] := rfl

theorem bareWords_append_cons (a : List Char) {c : Char} (hc : isBlank c = true) (b : List Char) :
    bareWords (a ++ c :: b) = bareWords a ++ bareWords b := by
  rw [bareWords, List.splitOnP_append_cons _ _ hc, List.filter_append]
  rfl

/-- A text without blanks is one word. -/
theorem bareWords_eq_singleton {text : List Char} (hne : text ≠ [])
    (h : ∀ c ∈ text, isBlank c = false) : bareWords text = [text] := by
  rw [bareWords, List.splitOnP_eq_singleton h]
  simp [hne]

/-! ### Words still to come -/

@[simp] theorem spelled_false_cons (bare : List Char) (rest : List (List Char)) :
    spelled false (bare :: rest) = bareWords bare ++ spelled true rest := by
  rw [spelled]

theorem spelled_true_cons (run : List Char) {rest : List (List Char)} (h : rest ≠ []) :
    spelled true (run :: rest) = run :: spelled false rest := by
  obtain ⟨first, others, rfl⟩ := List.exists_cons_of_ne_nil h
  rfl

/-- The words still to come before a text, when `read` is what has been read of its first stretch.
-/
def wordsFrom (quoted : Bool) (read text : List Char) : List (List Char) :=
  spelled quoted ((stretches text).modifyHead (read ++ ·))

theorem words_eq_wordsFrom (text : List Char) : words text = wordsFrom false [] text := by
  obtain ⟨first, others, h⟩ := List.exists_cons_of_ne_nil (stretches_ne_nil text)
  simp [words, wordsFrom, h]

section WordsFrom

variable (read rest : List Char)

@[simp] theorem wordsFrom_bare_nil : wordsFrom false read [] = bareWords read := by
  simp [wordsFrom, spelled]

@[simp] theorem wordsFrom_run_nil : wordsFrom true read [] = [] := by
  simp [wordsFrom, spelled]

@[simp] theorem wordsFrom_bare_quote :
    wordsFrom false read (quote :: rest) = bareWords read ++ wordsFrom true [] rest := by
  obtain ⟨first, others, h⟩ := List.exists_cons_of_ne_nil (stretches_ne_nil rest)
  simp [wordsFrom, h]

@[simp] theorem wordsFrom_run_quote :
    wordsFrom true read (quote :: rest) = read :: wordsFrom false [] rest := by
  obtain ⟨first, others, h⟩ := List.exists_cons_of_ne_nil (stretches_ne_nil rest)
  simp [wordsFrom, h, spelled_true_cons]

theorem wordsFrom_cons (quoted : Bool) {c : Char} (hc : c ≠ quote) {rest : List Char}
    (h : Apart [c] rest) :
    wordsFrom quoted read (c :: rest) = wordsFrom quoted (read ++ [c]) rest := by
  rw [wordsFrom, stretches_cons hc h, List.modifyHead_modifyHead, wordsFrom]
  simp [Function.comp_def]

@[simp] theorem wordsFrom_pair (quoted : Bool) :
    wordsFrom quoted read (escape :: quote :: rest) = wordsFrom quoted (read ++ [quote]) rest := by
  rw [wordsFrom, stretches_pair_cons, List.modifyHead_modifyHead, wordsFrom]
  simp [Function.comp_def]

/-- A blank ends the bare words before it. -/
theorem wordsFrom_append_blank {c : Char} (hc : isBlank c = true) (read' : List Char) :
    wordsFrom false (read ++ c :: read') rest = bareWords read ++ wordsFrom false read' rest := by
  obtain ⟨first, others, h⟩ := List.exists_cons_of_ne_nil (stretches_ne_nil rest)
  simp [wordsFrom, h, bareWords_append_cons, hc]

end WordsFrom

/-! ### The reader of commands -/

namespace Reader

/-- Whether a quoted run is being read. -/
def isQuoted : Reader → Bool
  | run _ => true
  | _ => false

/-- What has been read of the stretch that is being read. -/
def text : Reader → List Char
  | between => []
  | word read => read.reverse
  | run read => read.reverse

/-- A bare word that is being read has a character, and no blanks. -/
def IsSound : Reader → Prop
  | word read => read ≠ [] ∧ ∀ c ∈ read, isBlank c = false
  | _ => True

end Reader

namespace Scan

/-- What the reader of commands gives when it has finished some words, and these are still to come.
-/
def outcome (most : Nat) (finished : List String) (coming : List (List Char)) (left : Nat) :
    Except WordFault Scan :=
  if most < finished.length + coming.length then .error .tooMany
  else if Odd left then .error .unclosed
  else .ok ⟨(coming.map String.ofList).reverse ++ finished, .between⟩

variable {most : Nat} {s : Scan}

theorem run_cons {c : Char} {rest : List Char} (hc : c ≠ escape ∨ rest.head? ≠ some quote) :
    s.run most (c :: rest) = (s.next most c).bind fun s => s.run most rest := by
  rcases rest with _ | ⟨d, rest⟩
  · rfl
  · have hpair : ¬(c = escape ∧ d = quote) := by simpa [imp_iff_not_or] using hc
    rw [run, if_neg hpair]
    rfl

theorem run_pair (rest : List Char) :
    s.run most (escape :: quote :: rest) = (s.take quote).run most rest := by
  rw [run, if_pos ⟨rfl, rfl⟩]

/-- A word that is finished comes first, unless the limit refuses it. -/
theorem bind_finish (hs : s.finished.length ≤ most) (read : List Char) (reader : Reader)
    {coming : List (List Char)} {left : Nat} {next : Scan → Except WordFault Scan}
    (hnext : ∀ s' : Scan, s'.finished.length ≤ most → s'.reader = reader →
      next s' = outcome most s'.finished coming left) :
    (s.finish most read reader).bind next =
      outcome most s.finished (read.reverse :: coming) left := by
  rw [finish]
  by_cases hfull : s.finished.length = most
  · have hmany : most < s.finished.length + (read.reverse :: coming).length := by
      rw [List.length_cons]; omega
    rw [if_pos hfull, outcome, if_pos hmany]
    rfl
  · have hroom : (String.ofList read.reverse :: s.finished).length ≤ most := by
      rw [List.length_cons]; omega
    have hlength : (String.ofList read.reverse :: s.finished).length + coming.length =
        s.finished.length + (read.reverse :: coming).length := by
      simp only [List.length_cons]; omega
    rw [if_neg hfull]
    refine (hnext _ hroom rfl).trans ?_
    simp only [outcome, hlength]
    simp

/-- What is read of a bare word when it ends is a word. -/
theorem bind_flush (hs : s.finished.length ≤ most) (hsound : s.reader.IsSound)
    (hbare : s.reader.isQuoted = false) (reader : Reader) {coming : List (List Char)} {left : Nat}
    {next : Scan → Except WordFault Scan}
    (hnext : ∀ s' : Scan, s'.finished.length ≤ most → s'.reader = reader →
      next s' = outcome most s'.finished coming left) :
    (s.flush most reader).bind next =
      outcome most s.finished (bareWords s.reader.text ++ coming) left := by
  obtain ⟨finished, old⟩ := s
  match old, hbare with
  | .between, _ => exact hnext ⟨finished, reader⟩ hs rfl
  | .word read, _ =>
    have hne : read.reverse ≠ [] := by simpa using hsound.1
    have hblank : ∀ c ∈ read.reverse, isBlank c = false := by simpa using hsound.2
    have hword : bareWords (Reader.word read).text = [read.reverse] :=
      bareWords_eq_singleton hne hblank
    rw [hword]
    exact bind_finish hs read reader hnext

theorem isQuoted_take (c : Char) : (s.take c).reader.isQuoted = s.reader.isQuoted := by
  obtain ⟨finished, reader⟩ := s
  cases reader <;> rfl

theorem text_take (c : Char) : (s.take c).reader.text = s.reader.text ++ [c] := by
  obtain ⟨finished, reader⟩ := s
  cases reader <;> simp [take, Reader.text]

theorem finished_take (c : Char) : (s.take c).finished = s.finished := by
  obtain ⟨finished, reader⟩ := s
  cases reader <;> rfl

theorem isSound_take {c : Char} (hs : s.reader.IsSound)
    (hc : s.reader.isQuoted = false → isBlank c = false) : (s.take c).reader.IsSound := by
  obtain ⟨finished, reader⟩ := s
  match reader with
  | .between => exact ⟨List.cons_ne_nil _ _, by simpa using hc rfl⟩
  | .word read =>
    refine ⟨List.cons_ne_nil _ _, fun d hd => ?_⟩
    rcases List.mem_cons.mp hd with rfl | hd
    · exact hc rfl
    · exact hs.2 d hd
  | .run read => trivial

theorem next_of_bare (hbare : s.reader.isQuoted = false) (c : Char) :
    s.next most c = if c = quote then s.flush most (.run [])
      else if isBlank c then s.flush most .between else .ok (s.take c) := by
  obtain ⟨finished, reader⟩ := s
  match reader, hbare with
  | .between, _ => rfl
  | .word read, _ => rfl

theorem next_of_run {read : List Char} (hrun : s.reader = .run read) (c : Char) :
    s.next most c = if c = quote then s.finish most read .between else .ok (s.take c) := by
  obtain ⟨finished, reader⟩ := s
  subst hrun
  rfl

theorem exists_of_isQuoted (h : s.reader.isQuoted = true) : ∃ read, s.reader = .run read := by
  obtain ⟨finished, reader⟩ := s
  match reader, h with
  | .run read, _ => exact ⟨read, rfl⟩

/-- A run that has been opened and closed leaves nothing open. -/
theorem outcome_add_two (finished : List String) (coming : List (List Char)) (left : Nat) :
    outcome most finished coming (left + 2) = outcome most finished coming left := by
  simp [outcome, Nat.odd_add]

/-- From any point on, the reader of commands finds the words that are still to come before a text.
-/
def Finds (most : Nat) (text : List Char) : Prop :=
  ∀ s : Scan, s.finished.length ≤ most → s.reader.IsSound →
    s.run most text = outcome most s.finished (wordsFrom s.reader.isQuoted s.reader.text text)
      (marks text + s.reader.isQuoted.toNat)

theorem finds_nil : Finds most [] := by
  intro s hs hsound
  by_cases hquoted : s.reader.isQuoted = true
  · obtain ⟨read, hread⟩ := exists_of_isQuoted hquoted
    have hfew : ¬most < s.finished.length := Nat.not_lt.mpr hs
    simp [run, hread, outcome, Reader.isQuoted, hfew]
  · rw [Bool.not_eq_true] at hquoted
    have hrun : s.run most [] = (s.flush most .between).bind .ok := by
      have hflush : (s.flush most .between).bind .ok = s.flush most .between := by
        cases s.flush most .between <;> rfl
      obtain ⟨finished, reader⟩ := s
      cases reader with
      | between => rfl
      | word read => rw [hflush, run]
      | run read => cases hquoted
    have hend : ∀ s' : Scan, s'.finished.length ≤ most → s'.reader = .between →
        Except.ok s' = outcome most s'.finished [] 0 := by
      rintro ⟨finished, reader⟩ hlength rfl
      simp [outcome, Nat.not_lt.mpr hlength]
    rw [hrun, bind_flush hs hsound hquoted .between hend, hquoted]
    simp

/-- A mark ends a run, or what has been read of a bare word. -/
theorem Finds.mark {rest : List Char} (h : Finds most rest) : Finds most (quote :: rest) := by
  intro s hs hsound
  rw [run_cons (.inl (by decide)), marks_quote_cons]
  by_cases hquoted : s.reader.isQuoted = true
  · obtain ⟨read, hread⟩ := exists_of_isQuoted hquoted
    have hrest : ∀ s' : Scan, s'.finished.length ≤ most → s'.reader = .between →
        s'.run most rest = outcome most s'.finished (wordsFrom false [] rest) (marks rest) := by
      intro s' hlength hreader
      rw [h s' hlength (by rw [hreader]; trivial), hreader]
      rfl
    rw [next_of_run hread, if_pos rfl, bind_finish hs read .between hrest, hread]
    simp [Reader.isQuoted, Reader.text, outcome_add_two]
  · rw [Bool.not_eq_true] at hquoted
    have hrest : ∀ s' : Scan, s'.finished.length ≤ most → s'.reader = .run [] →
        s'.run most rest = outcome most s'.finished (wordsFrom true [] rest) (marks rest + 1) := by
      intro s' hlength hreader
      rw [h s' hlength (by rw [hreader]; trivial), hreader]
      rfl
    rw [next_of_bare hquoted, if_pos rfl, bind_flush hs hsound hquoted (.run []) hrest, hquoted]
    simp

/-- A character that stands for itself is taken into what is being read. -/
theorem Finds.run_take {c : Char} {rest : List Char} (h : Finds most rest) (hc : c ≠ quote)
    (happart : Apart [c] rest) (hs : s.finished.length ≤ most)
    (hsound : (s.take c).reader.IsSound) :
    (s.take c).run most rest =
      outcome most s.finished (wordsFrom s.reader.isQuoted s.reader.text (c :: rest))
        (marks (c :: rest) + s.reader.isQuoted.toNat) := by
  rw [h _ (by rwa [finished_take]) hsound, isQuoted_take, text_take, finished_take,
    wordsFrom_cons _ _ hc happart, marks_cons hc happart]

theorem Finds.plain {c : Char} {rest : List Char} (h : Finds most rest) (hc : c ≠ quote)
    (happart : Apart [c] rest) : Finds most (c :: rest) := by
  intro s hs hsound
  have hpair : c ≠ escape ∨ rest.head? ≠ some quote := by
    by_cases he : c = escape
    · exact .inr (happart (congrArg some he))
    · exact .inl he
  rw [run_cons hpair]
  by_cases hquoted : s.reader.isQuoted = true
  · obtain ⟨read, hread⟩ := exists_of_isQuoted hquoted
    rw [next_of_run hread, if_neg hc]
    exact h.run_take hc happart hs (isSound_take hsound fun hbare => by simp [hquoted] at hbare)
  · rw [Bool.not_eq_true] at hquoted
    rw [next_of_bare hquoted, if_neg hc]
    by_cases hblank : isBlank c = true
    · -- a blank ends what has been read of a bare word
      have hrest : ∀ s' : Scan, s'.finished.length ≤ most → s'.reader = .between →
          s'.run most rest = outcome most s'.finished (wordsFrom false [] rest) (marks rest) := by
        intro s' hlength hreader
        rw [h s' hlength (by rw [hreader]; trivial), hreader]
        rfl
      rw [if_pos hblank, bind_flush hs hsound hquoted .between hrest, hquoted,
        wordsFrom_cons _ _ hc happart, wordsFrom_append_blank _ _ hblank, marks_cons hc happart]
      rfl
    · rw [if_neg hblank]
      exact h.run_take hc happart hs (isSound_take hsound fun _ => by simpa using hblank)

theorem Finds.pair {rest : List Char} (h : Finds most rest) :
    Finds most (escape :: quote :: rest) := by
  intro s hs hsound
  have htake := h (s.take quote) (by rwa [finished_take]) (isSound_take hsound fun _ => by decide)
  rw [run_pair, htake, isQuoted_take, text_take, finished_take, wordsFrom_pair, marks_pair_cons]

theorem finds (most : Nat) (text : List Char) : Finds most text := by
  induction text using quotes_induction with
  | nil => exact finds_nil
  | mark rest ih => exact ih.mark
  | plain c rest hc h ih => exact ih.plain hc h
  | pair rest ih => exact ih.pair

end Scan

/-- **The words that the reader of commands finds**, and the fault that it reports: too many words
come before a run that is open. -/
theorem readWords_eq (most : Nat) (text : String) :
    readWords most text =
      if most < (words text.toList).length then .error (.tooManyWords text most)
      else if Odd (marks text.toList) then .error (.unclosedQuote text)
      else .ok ((words text.toList).map String.ofList) := by
  have hrun := Scan.finds most text.toList {} (Nat.zero_le most) trivial
  have hwords : wordsFrom false [] text.toList = words text.toList :=
    (words_eq_wordsFrom _).symm
  rw [readWords, hrun]
  simp only [Reader.isQuoted, Reader.text, hwords, Scan.outcome]
  split_ifs <;> simp_all

end PipeShell
