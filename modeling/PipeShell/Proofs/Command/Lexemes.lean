import Mathlib.Data.List.Chain
import PipeShell.Proofs.Command.Joins

/-!
# Lexemes

The lexical grammar of a command, said without a reader. A text is written with *signs*: marks, and
glyphs, each of which stands for one character. A backslash with the quote behind it is one glyph,
and it is never read in any other way. The signs make up *lexemes*: blanks, bare words, which are as
long as they can be, and quoted runs between two marks. An `Outline` is a row of lexemes and, where
a text breaks off inside a run, the run that is left open at its end.

* `existsUnique_spells` says that every text is written with signs in exactly one way, by the three
  things that a reader takes at once (`quotes_induction`).
* `existsUnique_outline_of_signs` says that signs make up lexemes in exactly one way, by the first
  sign of each lexeme.
* `existsUnique_outline` puts both together: every text has exactly one outline.
-/

namespace PipeShell

/-! ### Signs -/

/-- What stands for one character. -/
inductive Glyph where
  /-- A backslash with the quote behind it. It stands for the quote. -/
  | pair
  /-- A character other than a quote. It stands for itself. -/
  | plain (c : Char) (ne_quote : c ≠ quote)
  deriving DecidableEq

namespace Glyph

/-- How a glyph is written. -/
def written : Glyph → List Char
  | pair => [escape, quote]
  | plain c _ => [c]

/-- The character that a glyph stands for. -/
def meaning : Glyph → Char
  | pair => quote
  | plain c _ => c

end Glyph

/-- What a text is written with. -/
inductive Sign where
  /-- A quote that opens or closes a run. -/
  | mark
  /-- What stands for a character. -/
  | glyph (g : Glyph)
  deriving DecidableEq

/-- How a sign is written. -/
def Sign.written : Sign → List Char
  | mark => [quote]
  | glyph g => g.written

/-- Whether one sign may stand right before another: a backslash before a quote is always read
together with it. -/
def Sign.MayPrecede (s t : Sign) : Prop :=
  s.written = [escape] → t ≠ mark

instance (s t : Sign) : Decidable (s.MayPrecede t) :=
  inferInstanceAs (Decidable (_ → _))

/-- Whether a text is written with these signs. -/
structure Spells (signs : List Sign) (text : List Char) : Prop where
  text_eq : signs.flatMap Sign.written = text
  paired : signs.IsChain Sign.MayPrecede

instance (signs : List Sign) (text : List Char) : Decidable (Spells signs text) :=
  decidable_of_iff (signs.flatMap Sign.written = text ∧ signs.IsChain Sign.MayPrecede)
    ⟨fun h => ⟨h.1, h.2⟩, fun h => ⟨h.text_eq, h.paired⟩⟩

/-! ### Lexemes and outlines -/

/-- What lexemes there are. -/
inductive Kind where
  | blank
  | word
  | run
  deriving DecidableEq

/-- What a command is made up of. -/
inductive Lexeme where
  /-- A blank outside runs. -/
  | blank (c : Char) (isBlank : isBlank c = true)
  /-- A bare word. -/
  | word (glyphs : List Glyph) (ne_nil : glyphs ≠ [])
    (bare : ∀ g ∈ glyphs, isBlank g.meaning = false)
  /-- A quoted run. -/
  | run (glyphs : List Glyph)

namespace Lexeme

def kind : Lexeme → Kind
  | blank _ _ => .blank
  | word _ _ _ => .word
  | run _ => .run

/-- The signs of a lexeme. -/
def signs : Lexeme → List Sign
  | blank c h => [.glyph (.plain c (ne_quote_of_isBlank h))]
  | word glyphs _ _ => glyphs.map .glyph
  | run glyphs => .mark :: (glyphs.map .glyph ++ [.mark])

theorem signs_run_append (glyphs : List Glyph) (signs : List Sign) :
    (run glyphs).signs ++ signs = .mark :: (glyphs.map .glyph ++ .mark :: signs) := by
  rw [Lexeme.signs, List.cons_append, List.append_assoc, List.singleton_append]

/-- What a word or a run denotes; a blank denotes nothing. -/
def token? : Lexeme → Option (List Char)
  | blank _ _ => none
  | word glyphs _ _ => some (glyphs.map Glyph.meaning)
  | run glyphs => some (glyphs.map Glyph.meaning)

end Lexeme

/-- A row of lexemes, and a run behind them that is left open, if there is one. -/
structure Outline where
  /-- The lexemes. -/
  lexemes : List Lexeme
  /-- What stands in the run that no mark closes. -/
  opened : Option (List Glyph) := none

namespace Outline

/-- The signs of a run that no mark closes. -/
def openedSigns (opened : Option (List Glyph)) : List Sign :=
  opened.elim [] fun glyphs => .mark :: glyphs.map .glyph

/-- The signs of an outline. -/
def signs (o : Outline) : List Sign :=
  o.lexemes.flatMap Lexeme.signs ++ openedSigns o.opened

/-- The part of a text that lexemes are written as: all of it, or what stands before the mark of the
run that is left open. -/
def completed (o : Outline) : List Char :=
  (o.lexemes.flatMap Lexeme.signs).flatMap Sign.written

/-- What the words and the runs of an outline denote, in their order. A run that is left open
denotes nothing. -/
def tokens (o : Outline) : List String :=
  (o.lexemes.filterMap Lexeme.token?).map String.ofList

/-- Words are as long as they can be: no word stands right before another one. -/
def IsMaximal (o : Outline) : Prop :=
  o.lexemes.IsChain fun a b => a.kind = .word → b.kind ≠ .word

instance (o : Outline) : Decidable o.IsMaximal :=
  inferInstanceAs (Decidable (List.IsChain _ _))

/-- Whether an outline is one of a text. -/
structure IsOf (o : Outline) (text : List Char) : Prop where
  spells : Spells o.signs text
  maximal : o.IsMaximal

instance (o : Outline) (text : List Char) : Decidable (o.IsOf text) :=
  decidable_of_iff (Spells o.signs text ∧ o.IsMaximal)
    ⟨fun h => ⟨h.1, h.2⟩, fun h => ⟨h.spells, h.maximal⟩⟩

end Outline

/-- Whether a text is a row of blanks, bare words and quoted runs. -/
def Reads (text : List Char) (lexemes : List Lexeme) : Prop :=
  Outline.IsOf ⟨lexemes, none⟩ text

instance (text : List Char) (lexemes : List Lexeme) : Decidable (Reads text lexemes) :=
  inferInstanceAs (Decidable (Outline.IsOf _ _))

/-! ### Every text is written with signs in one way -/

section Spells

variable {s t : Sign} {signs : List Sign} {text : List Char}

theorem spells_nil : Spells [] [] :=
  ⟨rfl, .nil⟩

theorem spells_nil_iff : Spells [] text ↔ text = [] :=
  ⟨fun h => h.text_eq.symm, fun h => h ▸ spells_nil⟩

/-- Nothing but a backslash that stands for itself ends in a backslash. -/
theorem Sign.written_eq_of_getLast? (h : s.written.getLast? = some escape) :
    s.written = [escape] := by
  rcases s with _ | _ | ⟨c, hc⟩
  · exact absurd h (by decide)
  · exact absurd h (by decide)
  · have hlast : c = escape := Option.some.inj h
    rw [← hlast]
    rfl

/-- Nothing but a mark begins with a quote. -/
theorem Sign.eq_mark_of_head? (h : s.written.head? = some quote) : s = mark := by
  rcases s with _ | _ | ⟨c, hc⟩
  · rfl
  · exact absurd h (by decide)
  · exact absurd (Option.some.inj h) hc

theorem Sign.written_ne_nil (s : Sign) : s.written ≠ [] := by
  rcases s with _ | _ | ⟨c, hc⟩ <;> exact List.cons_ne_nil _ _

/-- A sign may be written before a text unless that would make a pair. -/
theorem Spells.cons (h : Spells signs text) (happart : Apart s.written text) :
    Spells (s :: signs) (s.written ++ text) := by
  refine ⟨by rw [List.flatMap_cons, h.text_eq], h.paired.cons ?_⟩
  intro t ht hs hmark
  have hhead : text.head? = some quote := by
    obtain ⟨rest, rfl⟩ := List.head?_eq_some_iff.mp ht
    rw [← h.text_eq, hmark]
    rfl
  exact happart (by rw [hs]; rfl) hhead

/-- What is written with signs is the first of them and then the others. -/
theorem Spells.exists_of_cons (h : Spells (s :: signs) text) :
    ∃ rest, text = s.written ++ rest ∧ Spells signs rest ∧ Apart s.written rest := by
  have hchain := List.isChain_cons.mp h.paired
  refine ⟨signs.flatMap Sign.written, h.text_eq.symm, ⟨rfl, hchain.2⟩, ?_⟩
  intro hlast hhead
  rcases signs with _ | ⟨t, signs⟩
  · cases hhead
  · have hmark : t = .mark := by
      rw [List.flatMap_cons, List.head?_append_of_ne_nil _ t.written_ne_nil] at hhead
      exact Sign.eq_mark_of_head? hhead
    exact hchain.1 t rfl (Sign.written_eq_of_getLast? hlast) hmark

theorem exists_spells (text : List Char) : ∃ signs, Spells signs text := by
  induction text using quotes_induction with
  | nil => exact ⟨[], spells_nil⟩
  | mark rest ih =>
    obtain ⟨signs, h⟩ := ih
    have happart : Apart [quote] rest := apart_singleton (by decide) rest
    exact ⟨.mark :: signs, h.cons happart⟩
  | plain c rest hc happart ih =>
    obtain ⟨signs, h⟩ := ih
    exact ⟨.glyph (.plain c hc) :: signs, h.cons happart⟩
  | pair rest ih =>
    obtain ⟨signs, h⟩ := ih
    have happart : Apart [escape, quote] rest := apart_snoc [escape] (by decide) rest
    exact ⟨.glyph .pair :: signs, h.cons happart⟩

/-- A character that begins with a pair is a backslash torn from its quote. -/
theorem not_apart_of_pair {c : Char} {a b : List Char} (h : [escape, quote] ++ a = [c] ++ b) :
    ¬Apart [c] b := by
  obtain ⟨rfl, rfl⟩ : escape = c ∧ quote :: a = b := List.cons.inj h
  exact fun happart => happart rfl rfl

/-- Two signs that begin the same text are the same. -/
theorem Sign.eq_of_append_eq {a b : List Char} (heq : s.written ++ a = t.written ++ b)
    (hs : Apart s.written a) (ht : Apart t.written b) : s = t := by
  have hhead : ∀ {c d : Char} {u v : List Char}, c :: u = d :: v → c = d :=
    fun h => (List.cons.inj h).1
  rcases s with _ | _ | ⟨c, hc⟩ <;> rcases t with _ | _ | ⟨d, hd⟩
  · rfl
  · exact absurd (hhead heq) (by decide)
  · exact absurd (hhead heq).symm hd
  · exact absurd (hhead heq) (by decide)
  · rfl
  · exact absurd ht (not_apart_of_pair heq)
  · exact absurd (hhead heq) hc
  · exact absurd hs (not_apart_of_pair heq.symm)
  · obtain rfl : c = d := hhead heq
    rfl

theorem Spells.unique {signs' : List Sign} (h : Spells signs text) (h' : Spells signs' text) :
    signs = signs' := by
  induction signs generalizing signs' text with
  | nil =>
    obtain rfl := spells_nil_iff.mp h
    rcases signs' with _ | ⟨t, signs'⟩
    · rfl
    · obtain ⟨rest, hrest, -⟩ := h'.exists_of_cons
      exact absurd (List.append_eq_nil_iff.mp hrest.symm).1 t.written_ne_nil
  | cons s signs ih =>
    obtain ⟨rest, rfl, hrest, happart⟩ := h.exists_of_cons
    rcases signs' with _ | ⟨t, signs'⟩
    · exact absurd (List.append_eq_nil_iff.mp (spells_nil_iff.mp h')).1 s.written_ne_nil
    · obtain ⟨rest', heq, hrest', happart'⟩ := h'.exists_of_cons
      obtain rfl := Sign.eq_of_append_eq heq happart happart'
      obtain rfl := List.append_cancel_left heq
      rw [ih hrest hrest']

/-- **Every text is written with signs in exactly one way.** -/
theorem existsUnique_spells (text : List Char) : ∃! signs, Spells signs text := by
  obtain ⟨signs, h⟩ := exists_spells text
  exact ⟨signs, h, fun signs' h' => h'.unique h⟩

end Spells

/-! ### Signs make up lexemes in one way -/

/-- The kind of the lexeme that begins with a sign outside runs. -/
def Sign.kind : Sign → Kind
  | mark => .run
  | glyph g => if isBlank g.meaning then .blank else .word

theorem Sign.kind_of_isBlank {g : Glyph} (h : isBlank g.meaning = true) :
    (glyph g).kind = .blank := by
  rw [kind, if_pos h]

theorem Sign.kind_of_bare {g : Glyph} (h : isBlank g.meaning = false) : (glyph g).kind = .word := by
  rw [kind, if_neg (by simp [h])]

/-- A lexeme is of the kind of its first sign. -/
theorem Lexeme.exists_signs_eq (l : Lexeme) : ∃ s more, l.signs = s :: more ∧ s.kind = l.kind := by
  rcases l with ⟨c, h⟩ | ⟨_ | ⟨g, glyphs⟩, hne, hbare⟩ | glyphs
  · exact ⟨_, [], rfl, Sign.kind_of_isBlank h⟩
  · exact absurd rfl hne
  · exact ⟨_, _, rfl, Sign.kind_of_bare (hbare g List.mem_cons_self)⟩
  · exact ⟨_, _, rfl, rfl⟩

/-- What satisfies a predicate up to some place, and not there, is taken off in one way. -/
theorem append_inj_of_forall {α : Type} {p : α → Bool} {a a' b b' : List α}
    (ha : ∀ x ∈ a, p x = true) (ha' : ∀ x ∈ a', p x = true) (hb : ∀ x ∈ b.head?, p x = false)
    (hb' : ∀ x ∈ b'.head?, p x = false) (h : a ++ b = a' ++ b') : a = a' ∧ b = b' := by
  have htake : ∀ {u v : List α}, (∀ x ∈ u, p x = true) → (∀ x ∈ v.head?, p x = false) →
      (u ++ v).takeWhile p = u := by
    intro u v hu hv
    rw [List.takeWhile_append_of_pos hu]
    rcases v with _ | ⟨x, v⟩
    · simp
    · simp [hv x rfl]
  obtain rfl : a = a' := by rw [← htake ha hb, h, htake ha' hb']
  exact ⟨rfl, List.append_cancel_left h⟩

namespace Outline

variable {o : Outline}

/-- An outline with a lexeme before it. -/
def cons (l : Lexeme) (o : Outline) : Outline :=
  ⟨l :: o.lexemes, o.opened⟩

@[simp] theorem signs_cons (l : Lexeme) (o : Outline) : (cons l o).signs = l.signs ++ o.signs := by
  rw [signs, cons, List.flatMap_cons, List.append_assoc]
  rfl

theorem isMaximal_nil (opened : Option (List Glyph)) : IsMaximal ⟨[], opened⟩ :=
  .nil

theorem isMaximal_cons_iff {l : Lexeme} : (cons l o).IsMaximal ↔
    (∀ l' ∈ o.lexemes.head?, l.kind = .word → l'.kind ≠ .word) ∧ o.IsMaximal :=
  List.isChain_cons

/-- Behind a word that is as long as it can be, no word begins. -/
theorem kind_ne_word_of_head? (h : ∀ l ∈ o.lexemes.head?, l.kind ≠ .word) :
    ∀ s ∈ o.signs.head?, s.kind ≠ .word := by
  intro s hs
  obtain ⟨_ | ⟨l, lexemes⟩, opened⟩ := o
  · rcases opened with _ | glyphs
    · cases hs
    · obtain rfl : Sign.mark = s := Option.some.inj hs
      decide
  · obtain ⟨t, more, hsigns, hkind⟩ := l.exists_signs_eq
    have hfirst : signs ⟨l :: lexemes, opened⟩ = t :: (more ++ signs ⟨lexemes, opened⟩) := by
      rw [← List.cons_append, ← hsigns]
      exact signs_cons l ⟨lexemes, opened⟩
    rw [hfirst] at hs
    obtain rfl : t = s := Option.some.inj hs
    rw [hkind]
    exact h l rfl

/-- A glyph that is no blank goes into the word behind it, or is a word. -/
theorem exists_signs_eq_bare {g : Glyph} (hg : isBlank g.meaning = false) (hmax : o.IsMaximal) :
    ∃ o' : Outline, o'.signs = .glyph g :: o.signs ∧ o'.IsMaximal := by
  have hsingle : ∀ g' ∈ [g], isBlank g'.meaning = false := List.forall_mem_singleton.mpr hg
  by_cases hword : ∃ l ∈ o.lexemes.head?, l.kind = .word
  · obtain ⟨_ | ⟨l, lexemes⟩, opened⟩ := o
    · obtain ⟨l, hl, -⟩ := hword
      cases hl
    · obtain ⟨l', hl', hkind⟩ := hword
      obtain rfl : l = l' := Option.some.inj hl'
      rcases l with ⟨c, h⟩ | ⟨glyphs, hne, hbare⟩ | glyphs
      · cases hkind
      · refine ⟨⟨.word (g :: glyphs) (List.cons_ne_nil _ _) ?_ :: lexemes, opened⟩, rfl, ?_⟩
        · exact List.forall_mem_cons.mpr ⟨hg, hbare⟩
        · exact List.isChain_cons.mpr (List.isChain_cons.mp hmax)
      · cases hkind
  · refine ⟨cons (.word [g] (List.cons_ne_nil _ _) hsingle) o, signs_cons _ o, ?_⟩
    exact isMaximal_cons_iff.mpr ⟨fun l hl _ hkind => hword ⟨l, hl, hkind⟩, hmax⟩

/-- Signs make up an outline. Behind a mark there are glyphs up to the end, or up to a mark with an
outline behind it. -/
theorem exists_signs_eq (signs : List Sign) :
    (∃ o : Outline, o.signs = signs ∧ o.IsMaximal) ∧
      ∃ glyphs : List Glyph, signs = glyphs.map .glyph ∨
        ∃ o : Outline, signs = glyphs.map .glyph ++ .mark :: o.signs ∧ o.IsMaximal := by
  -- a mark leads from outside a run into it or back, so both sides go through one induction
  induction signs with
  | nil => exact ⟨⟨⟨[], none⟩, rfl, isMaximal_nil none⟩, [], .inl rfl⟩
  | cons s signs ih =>
    obtain ⟨⟨o, rfl, hmax⟩, glyphs, hrun⟩ := ih
    rcases s with _ | g
    · refine ⟨?_, [], .inr ⟨o, rfl, hmax⟩⟩
      rcases hrun with hopen | ⟨o', hclosed, hmax'⟩
      · exact ⟨⟨[], some glyphs⟩, by rw [hopen]; rfl, isMaximal_nil _⟩
      · refine ⟨cons (.run glyphs) o', ?_, isMaximal_cons_iff.mpr ⟨nofun, hmax'⟩⟩
        rw [signs_cons, hclosed, Lexeme.signs_run_append]
    · refine ⟨?_, g :: glyphs, ?_⟩
      · by_cases hg : isBlank g.meaning = true
        · rcases g with _ | ⟨c, hc⟩
          · exact absurd hg (by decide)
          · exact ⟨cons (.blank c hg) o, signs_cons _ o, isMaximal_cons_iff.mpr ⟨nofun, hmax⟩⟩
        · exact exists_signs_eq_bare (Bool.not_eq_true _ ▸ hg) hmax
      · refine hrun.imp (fun hopen => by rw [hopen]; rfl) ?_
        rintro ⟨o', hclosed, hmax'⟩
        exact ⟨o', by rw [hclosed]; rfl, hmax'⟩

theorem map_glyph_injective : Function.Injective (List.map Sign.glyph) :=
  List.map_injective_iff.mpr fun _ _ h => Sign.glyph.inj h

/-- Where runs are closed in the same signs, they are the same. -/
theorem run_inj {glyphs glyphs' : List Glyph} {a b : List Sign}
    (h : glyphs.map .glyph ++ .mark :: a = glyphs'.map .glyph ++ .mark :: b) :
    glyphs = glyphs' ∧ a = b := by
  have hglyph : ∀ gs : List Glyph, ∀ s ∈ gs.map Sign.glyph, (s != .mark) = true := by
    intro gs s hs
    obtain ⟨g, -, rfl⟩ := List.mem_map.mp hs
    rfl
  have hmark : ∀ signs : List Sign, ∀ s ∈ (Sign.mark :: signs).head?, (s != .mark) = false := by
    intro signs s hs
    obtain rfl : Sign.mark = s := Option.some.inj hs
    rfl
  obtain ⟨hmap, hrest⟩ :=
    append_inj_of_forall (hglyph glyphs) (hglyph glyphs') (hmark a) (hmark b) h
  exact ⟨map_glyph_injective hmap, (List.cons.inj hrest).2⟩

/-- A run that is left open has no mark. -/
theorem opened_ne_closed {glyphs glyphs' : List Glyph} {a : List Sign} :
    glyphs.map .glyph ≠ glyphs'.map .glyph ++ .mark :: a := by
  intro h
  have hmem : Sign.mark ∈ glyphs.map Sign.glyph := by simp [h]
  simp at hmem

/-- Where words end in the same signs, they are the same. -/
theorem word_inj {glyphs glyphs' : List Glyph} {a b : List Sign}
    (hbare : ∀ g ∈ glyphs, isBlank g.meaning = false)
    (hbare' : ∀ g ∈ glyphs', isBlank g.meaning = false) (ha : ∀ s ∈ a.head?, s.kind ≠ .word)
    (hb : ∀ s ∈ b.head?, s.kind ≠ .word)
    (h : glyphs.map .glyph ++ a = glyphs'.map .glyph ++ b) : glyphs = glyphs' ∧ a = b := by
  have hkind : ∀ {gs : List Glyph}, (∀ g ∈ gs, isBlank g.meaning = false) →
      ∀ s ∈ gs.map Sign.glyph, decide (s.kind = .word) = true := by
    intro gs hgs s hs
    obtain ⟨g, hg, rfl⟩ := List.mem_map.mp hs
    exact decide_eq_true (Sign.kind_of_bare (hgs g hg))
  obtain ⟨hmap, hrest⟩ := append_inj_of_forall (hkind hbare) (hkind hbare')
    (fun s hs => decide_eq_false (ha s hs)) (fun s hs => decide_eq_false (hb s hs)) h
  exact ⟨map_glyph_injective hmap, hrest⟩

/-- A run that is left open begins no lexeme. -/
theorem openedSigns_ne_signs_cons (opened : Option (List Glyph)) (l : Lexeme) (o : Outline) :
    openedSigns opened ≠ (cons l o).signs := by
  intro h
  obtain ⟨t, more, hsigns, hkind⟩ := l.exists_signs_eq
  rcases opened with _ | glyphs
  · rw [signs_cons, hsigns] at h
    exact List.cons_ne_nil _ _ h.symm
  · have hmark : Sign.mark = t := by
      rw [signs_cons, hsigns] at h
      exact (List.cons.inj h).1
    rw [← hmark] at hkind
    rcases l with ⟨c, hc⟩ | ⟨glyphs', hne, hbare⟩ | glyphs'
    · cases hkind
    · cases hkind
    · rw [signs_cons, Lexeme.signs_run_append] at h
      exact opened_ne_closed (List.cons.inj h).2

theorem kind_eq_of_signs_eq {l l' : Lexeme} {o o' : Outline}
    (h : (cons l o).signs = (cons l' o').signs) : l.kind = l'.kind := by
  obtain ⟨s, more, hsigns, hkind⟩ := l.exists_signs_eq
  obtain ⟨s', more', hsigns', hkind'⟩ := l'.exists_signs_eq
  rw [signs_cons, signs_cons, hsigns, hsigns'] at h
  have hfirst : s = s' := (List.cons.inj h).1
  rw [← hkind, hfirst, hkind']

/-- The first lexeme and the signs behind it are told by the signs. -/
theorem cons_inj_of_signs_eq {l l' : Lexeme} {o o' : Outline}
    (h : (cons l o).signs = (cons l' o').signs) (hmax : (cons l o).IsMaximal)
    (hmax' : (cons l' o').IsMaximal) : l = l' ∧ o.signs = o'.signs := by
  have hkind := kind_eq_of_signs_eq h
  have hnext := (isMaximal_cons_iff.mp hmax).1
  have hnext' := (isMaximal_cons_iff.mp hmax').1
  rw [signs_cons, signs_cons] at h
  rcases l with ⟨c, hc⟩ | ⟨glyphs, hne, hbare⟩ | glyphs <;>
    rcases l' with ⟨c', hc'⟩ | ⟨glyphs', hne', hbare'⟩ | glyphs' <;> cases hkind
  · obtain ⟨hsign, hrest⟩ := List.cons.inj h
    obtain rfl : c = c' := (Glyph.plain.inj (Sign.glyph.inj hsign))
    exact ⟨rfl, hrest⟩
  · have hbehind := kind_ne_word_of_head? fun l hl => hnext l hl rfl
    have hbehind' := kind_ne_word_of_head? fun l hl => hnext' l hl rfl
    obtain ⟨rfl, hrest⟩ := word_inj hbare hbare' hbehind hbehind' h
    exact ⟨rfl, hrest⟩
  · rw [Lexeme.signs_run_append, Lexeme.signs_run_append] at h
    obtain ⟨rfl, hrest⟩ := run_inj (List.cons.inj h).2
    exact ⟨rfl, hrest⟩

theorem openedSigns_injective : Function.Injective openedSigns := by
  intro opened opened' h
  rcases opened with _ | glyphs <;> rcases opened' with _ | glyphs'
  · rfl
  · exact absurd h.symm (List.cons_ne_nil _ _)
  · exact absurd h (List.cons_ne_nil _ _)
  · rw [map_glyph_injective (List.cons.inj h).2]

/-- Signs make up lexemes in one way only. -/
theorem eq_of_signs_eq {o o' : Outline} (hmax : o.IsMaximal) (hmax' : o'.IsMaximal)
    (h : o.signs = o'.signs) : o = o' := by
  obtain ⟨lexemes, opened⟩ := o
  obtain ⟨lexemes', opened'⟩ := o'
  induction lexemes generalizing lexemes' with
  | nil =>
    rcases lexemes' with _ | ⟨l', lexemes'⟩
    · obtain rfl : opened = opened' := openedSigns_injective h
      rfl
    · exact absurd h (openedSigns_ne_signs_cons opened l' ⟨lexemes', opened'⟩)
  | cons l lexemes ih =>
    rcases lexemes' with _ | ⟨l', lexemes'⟩
    · exact absurd h.symm (openedSigns_ne_signs_cons opened' l ⟨lexemes, opened⟩)
    · have hcons : (cons l ⟨lexemes, opened⟩).signs = (cons l' ⟨lexemes', opened'⟩).signs := h
      obtain ⟨rfl, hrest⟩ := cons_inj_of_signs_eq hcons hmax hmax'
      have heq := ih hmax.tail lexemes' hmax'.tail hrest
      exact congrArg (cons l) heq

/-- **Signs make up lexemes in exactly one way.** -/
theorem existsUnique_outline_of_signs (signs : List Sign) :
    ∃! o : Outline, o.signs = signs ∧ o.IsMaximal := by
  obtain ⟨o, hsigns, hmax⟩ := (exists_signs_eq signs).1
  refine ⟨o, ⟨hsigns, hmax⟩, ?_⟩
  rintro o' ⟨hsigns', hmax'⟩
  exact eq_of_signs_eq hmax' hmax (hsigns'.trans hsigns.symm)

end Outline

/-- What the lexemes of a text are written as is a row of these lexemes. -/
theorem Outline.IsOf.reads_completed {o : Outline} {text : List Char} (h : o.IsOf text) :
    Reads o.completed o.lexemes := by
  have hsigns : signs ⟨o.lexemes, none⟩ = o.lexemes.flatMap Lexeme.signs := List.append_nil _
  refine ⟨?_, h.maximal⟩
  rw [hsigns]
  exact ⟨rfl, h.spells.paired.left_of_append⟩

/-- **Every text has exactly one outline**: it is read as lexemes in one way, up to its end or up to
the mark of a run that is left open. -/
theorem existsUnique_outline (text : List Char) : ∃! o : Outline, o.IsOf text := by
  obtain ⟨signs, hspells, huniq⟩ := existsUnique_spells text
  obtain ⟨o, ⟨rfl, hmax⟩, huniq'⟩ := Outline.existsUnique_outline_of_signs signs
  refine ⟨o, ⟨hspells, hmax⟩, ?_⟩
  intro o' h'
  exact huniq' o' ⟨huniq _ h'.spells, h'.maximal⟩

end PipeShell
