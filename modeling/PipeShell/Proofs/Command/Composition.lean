import PipeShell.Proofs.Command.Writing

/-!
# Lines put together

Two lines with a delimiter between them are read as one line: its commands are those of the first
and, further on, those of the second. For a line is accepted by looking at its texts one by one, and
at nothing else but how many there are. Only the status of a lone terminator needs the whole line,
and where there are two commands none of them is alone.

* `IsSound` gathers what is asked of a line apart from that status; `isSound_append_cons_iff` says
  that it is asked of the two sides of a delimiter by themselves.
* `isSound_of_parse` and `IsSound.isReadAs` tie it to the reader.
* `exists_cut` finds the delimiter behind a given number of texts.
* `parse_joined` puts lines together and takes them apart again.
-/

namespace PipeShell

/-! ### Stages further on -/

/-- A stage that stands `n` places further on in a line. -/
def Stage.shift (n : Nat) (stage : Stage) : Stage :=
  { stage with index := stage.index + n }

/-- The stages that texts are read as. -/
def stagesOfTexts (list : List (List Char)) : List Stage :=
  list.mapIdx Stage.ofText

@[simp] theorem length_stagesOfTexts (list : List (List Char)) :
    (stagesOfTexts list).length = list.length :=
  List.length_mapIdx

/-- Texts behind others are read as the same stages further on. -/
theorem stagesOfTexts_append (a b : List (List Char)) :
    stagesOfTexts (a ++ b) = stagesOfTexts a ++ (stagesOfTexts b).map (Stage.shift a.length) := by
  have hshift : (stagesOfTexts b).map (Stage.shift a.length) =
      b.mapIdx fun i => Stage.ofText (i + a.length) := by
    refine List.ext_getElem? fun i => ?_
    rw [stagesOfTexts, List.getElem?_map, List.getElem?_mapIdx, List.getElem?_mapIdx,
      Option.map_map]
    rfl
  rw [hshift, stagesOfTexts, List.mapIdx_append]
  rfl

/-! ### Sound lines -/

/-- A command without a fault that may have `most` words. -/
structure IsGood (most : Nat) (text : List Char) : Prop where
  filled : text ≠ []
  few : (words text).length ≤ most
  clean : '\x00' ∉ text

/-- The faults of a command are the same wherever it stands. -/
theorem isGood_iff {most : Nat} (index : Nat) {text : List Char} :
    IsGood most text ↔ ∀ fault, ¬StageFault most index text fault := by
  constructor
  · intro h fault hfault
    cases hfault with
    | empty hnone => exact h.filled hnone
    | tooMany hmany => exact Nat.not_lt.mpr h.few hmany
    | nul _ hnul => exact h.clean hnul
  · intro h
    have hfew : (words text).length ≤ most := Nat.not_lt.mp fun hmany => h _ (.tooMany hmany)
    exact ⟨fun hnone => h _ (.empty hnone), hfew, fun hnul => h _ (.nul hfew hnul)⟩

/-- A line with which nothing is wrong, but perhaps the status that a terminator asks for. -/
structure IsSound (settings : Settings) (line : List Char) : Prop where
  closed : Even (marks line)
  few : (texts line).length ≤ settings.maxStages
  good : ∀ text ∈ texts line, IsGood settings.maxWords text

theorem texts_ne_nil (line : List Char) : texts line ≠ [] := by
  simpa [texts] using pieces_ne_nil line

section IsSound

variable {settings : Settings}

/-- The commands of a sound line are not all empty, since none is. -/
theorem IsSound.busy {line : List Char} (h : IsSound settings line) : ¬IsIdle line := by
  intro hidle
  obtain ⟨text, rest, htexts⟩ := List.exists_cons_of_ne_nil (texts_ne_nil line)
  have hempty : text.isEmpty = true := by
    have hall := (texts_all_isEmpty_iff line).mpr hidle
    exact List.all_eq_true.mp hall text (by simp [htexts])
  exact (h.good text (by simp [htexts])).filled (List.isEmpty_iff.mp hempty)

/-- A line is read as these stages, unless it is a terminator alone with a bad status, which is what
is reported then. -/
def IsReadAs (settings : Settings) (line : String) (stages : List Stage) : Prop :=
  (parse settings line).stages = .ok stages ∨
    ∃ word, BadStatus settings.terminator line.toList word ∧
      (parse settings line).stages = .error (.badExitStatus (String.ofList word))

/-- **A sound line is read as its texts.** -/
theorem IsSound.isReadAs {line : String} (h : IsSound settings line.toList) :
    IsReadAs settings line (stagesOfTexts (texts line.toList)) := by
  have hgood : ∀ i text, (texts line.toList)[i]? = some text →
      ∀ fault, ¬StageFault settings.maxWords i text fault := by
    intro i text htext
    exact (isGood_iff i).mp (h.good text (List.mem_of_getElem? htext))
  by_cases hbad : ∃ word, BadStatus settings.terminator line.toList word
  · obtain ⟨word, hword⟩ := hbad
    exact .inr ⟨word, hword, (Verdict.status h.closed h.busy h.few hgood hword).parse_eq⟩
  · have hfine : ∀ word, ¬BadStatus settings.terminator line.toList word :=
      fun word hword => hbad ⟨word, hword⟩
    exact .inl (Verdict.accepted h.closed h.busy h.few hgood hfine).parse_eq

/-- A line that gives stages is sound, and they are its texts. -/
theorem isSound_of_parse {line : String} {stages : List Stage}
    (h : (parse settings line).stages = .ok stages) (hne : stages ≠ []) :
    IsSound settings line.toList ∧ stages = stagesOfTexts (texts line.toList) := by
  obtain ⟨result, hresult⟩ := exists_verdict settings line.toList
  obtain rfl : result = .ok stages := hresult.parse_eq.symm.trans h
  -- the other rules report a fault
  cases hresult with
  | idle => exact absurd rfl hne
  | accepted hclosed _ hfew hgood _ =>
    refine ⟨⟨hclosed, hfew, fun text htext => ?_⟩, rfl⟩
    obtain ⟨i, hi⟩ := List.mem_iff_getElem?.mp htext
    exact (isGood_iff i).mpr (hgood i text hi)

/-- **A line is sound if the two sides of a delimiter are**, as long as they have not too many
commands together. -/
theorem isSound_append_cons_iff {a : List Char} (ha : Even (marks a)) {b : List Char} :
    IsSound settings (a ++ delimiter :: b) ↔ IsSound settings a ∧ IsSound settings b ∧
      (texts a).length + (texts b).length ≤ settings.maxStages := by
  have hmarks : Even (marks (a ++ delimiter :: b)) ↔ Even (marks b) :=
    even_marks_append_delimiter_iff ha
  have htexts := texts_append_cons ha b
  constructor
  · intro h
    have hfew := h.few
    have hgood := h.good
    rw [htexts, List.length_append] at hfew
    rw [htexts, List.forall_mem_append] at hgood
    exact ⟨⟨ha, by omega, hgood.1⟩, ⟨hmarks.mp h.closed, by omega, hgood.2⟩, hfew⟩
  · rintro ⟨hleft, hright, hfew⟩
    refine ⟨hmarks.mpr hright.closed, ?_, ?_⟩
    · rwa [htexts, List.length_append]
    · rw [htexts]
      exact List.forall_mem_append.mpr ⟨hleft.good, hright.good⟩

end IsSound

/-! ### Cutting a line in two -/

/-- **Behind every text but the last one there is a delimiter.** -/
theorem exists_cut {line : List Char} {j : Nat} (hpos : 0 < j) (hj : j < (texts line).length) :
    ∃ a b, line = a ++ delimiter :: b ∧ Even (marks a) ∧ (texts a).length = j := by
  induction line using pieces_induction generalizing j with
  | one line hline =>
    have hlength : (texts line).length = 1 := by simp [texts, pieces_eq_singleton hline]
    omega
  | more a b ha iha ihb =>
    rw [texts_append_cons ha, List.length_append] at hj
    -- the cut is in `a`, at the delimiter, or in `b`
    rcases Nat.lt_trichotomy j (texts a).length with hlt | rfl | hgt
    · obtain ⟨before, after, rfl, hbefore, hlength⟩ := iha hpos hlt
      exact ⟨before, after ++ delimiter :: b, by simp, hbefore, hlength⟩
    · exact ⟨a, b, rfl, ha, rfl⟩
    · have hrest : j - (texts a).length < (texts b).length := by omega
      obtain ⟨before, after, rfl, hbefore, hlength⟩ := ihb (by omega) hrest
      refine ⟨a ++ delimiter :: before, after, by simp,
        (even_marks_append_delimiter_iff ha).mpr hbefore, ?_⟩
      rw [texts_append_cons ha, List.length_append, hlength]
      omega

/-! ### Lines put together -/

/-- A line with two commands has no lone terminator. -/
theorem not_badStatus_append_cons {terminator : String} {a : List Char} (ha : Even (marks a))
    (b word : List Char) : ¬BadStatus terminator (a ++ delimiter :: b) word := by
  rintro ⟨text, htexts, -⟩
  have ha' : 0 < (texts a).length := List.length_pos_iff.mpr (texts_ne_nil a)
  have hb' : 0 < (texts b).length := List.length_pos_iff.mpr (texts_ne_nil b)
  have hlength := congrArg List.length htexts
  rw [texts_append_cons ha, List.length_append, List.length_singleton] at hlength
  omega

theorem toList_joined (a b : String) :
    (a ++ "|" ++ b).toList = a.toList ++ delimiter :: b.toList := by
  rw [String.toList_append, String.toList_append, List.append_assoc]
  rfl

section Joined

variable {settings : Settings}

/-- Lines that are accepted are read side by side. -/
theorem parse_append {a b : String} {first rest : List Stage}
    (ha : (parse settings a).stages = .ok first) (hb : (parse settings b).stages = .ok rest)
    (hfirst : first ≠ []) (hrest : rest ≠ [])
    (hfew : first.length + rest.length ≤ settings.maxStages) :
    (parse settings (a ++ "|" ++ b)).stages =
      .ok (first ++ rest.map (Stage.shift first.length)) := by
  obtain ⟨hsound, rfl⟩ := isSound_of_parse ha hfirst
  obtain ⟨hsound', rfl⟩ := isSound_of_parse hb hrest
  rw [length_stagesOfTexts, length_stagesOfTexts] at hfew
  have hboth : IsSound settings (a ++ "|" ++ b).toList := by
    rw [toList_joined, isSound_append_cons_iff hsound.closed]
    exact ⟨hsound, hsound', hfew⟩
  -- what is read as a lone terminator has one text only
  obtain hparse | ⟨word, hbad, -⟩ := hboth.isReadAs
  · rw [hparse, toList_joined, texts_append_cons hsound.closed, stagesOfTexts_append,
      length_stagesOfTexts]
  · rw [toList_joined] at hbad
    exact absurd hbad (not_badStatus_append_cons hsound.closed _ _)

/-- A line with several stages can be taken apart before any of them but the first. -/
theorem exists_isReadAs_of_parse {line : String} {stages : List Stage}
    (h : (parse settings line).stages = .ok stages) {j : Nat} (hpos : 0 < j)
    (hj : j < stages.length) :
    ∃ (a b : String) (first rest : List Stage), line = a ++ "|" ++ b ∧
      stages = first ++ rest.map (Stage.shift j) ∧ first.length = j ∧
      IsReadAs settings a first ∧ IsReadAs settings b rest := by
  have hne : stages ≠ [] := List.ne_nil_of_length_pos (hpos.trans hj)
  obtain ⟨hsound, rfl⟩ := isSound_of_parse h hne
  rw [length_stagesOfTexts] at hj
  obtain ⟨before, after, hcut, hclosed, hlength⟩ := exists_cut hpos hj
  obtain ⟨a, rfl⟩ : ∃ a : String, before = a.toList := ⟨_, String.toList_ofList.symm⟩
  obtain ⟨b, rfl⟩ : ∃ b : String, after = b.toList := ⟨_, String.toList_ofList.symm⟩
  have hline : line = a ++ "|" ++ b := by rw [← String.toList_inj, hcut, toList_joined]
  rw [hcut, isSound_append_cons_iff hclosed] at hsound
  obtain ⟨hleft, hright, -⟩ := hsound
  refine ⟨a, b, _, _, hline, ?_, ?_, hleft.isReadAs, hright.isReadAs⟩
  · rw [hcut, texts_append_cons hclosed, stagesOfTexts_append, hlength]
  · rw [length_stagesOfTexts, hlength]

end Joined

/-- **Lines are read side by side.** The line of two accepted lines with a delimiter between them is
accepted, and its stages are those of the first and, further on, those of the second, as long as
they are not too many. And a line with several stages can be taken apart before any of them but the
first: at one of its delimiters, and so that each side is read as its stages. -/
theorem parse_joined (settings : Settings) :
    (∀ (a b : String) (first rest : List Stage),
      (parse settings a).stages = .ok first → (parse settings b).stages = .ok rest →
      first ≠ [] → rest ≠ [] → first.length + rest.length ≤ settings.maxStages →
      (parse settings (a ++ "|" ++ b)).stages =
        .ok (first ++ rest.map (Stage.shift first.length))) ∧
    ∀ (line : String) (stages : List Stage), (parse settings line).stages = .ok stages →
      ∀ j, 0 < j → j < stages.length →
        ∃ (a b : String) (first rest : List Stage), line = a ++ "|" ++ b ∧
          stages = first ++ rest.map (Stage.shift j) ∧ first.length = j ∧
          IsReadAs settings a first ∧ IsReadAs settings b rest := by
  refine ⟨?_, ?_⟩
  · intro a b first rest ha hb hfirst hrest hfew
    exact parse_append ha hb hfirst hrest hfew
  · intro line stages hstages j hpos hj
    exact exists_isReadAs_of_parse hstages hpos hj

/-- A backslash before the delimiter and a quote behind it, and a terminator that is refused only
where it stands alone. -/
theorem parse_joined_exit :
    (parse {} "echo \\|\"x\" y").stages =
      .ok [⟨0, "echo \\", ["echo", "\\"]⟩, ⟨1, "\"x\" y", ["x", "y"]⟩] ∧
    ∃ (a b : String) (first rest : List Stage), "true | exit x" = a ++ "|" ++ b ∧
      [⟨0, "true", ["true"]⟩, ⟨1, "exit x", ["exit", "x"]⟩] = first ++ rest.map (Stage.shift 1) ∧
      first.length = 1 ∧ IsReadAs {} a first ∧ IsReadAs {} b rest := by
  obtain ⟨hjoin, hcut⟩ := parse_joined {}
  refine ⟨?_, ?_⟩
  · exact hjoin "echo \\" "\"x\" y" [⟨0, "echo \\", ["echo", "\\"]⟩] [⟨0, "\"x\" y", ["x", "y"]⟩]
      (by decide) (by decide) (by decide) (by decide) (by decide)
  · exact hcut "true | exit x" _ (by decide) 1 (by decide) (by decide)

end PipeShell
