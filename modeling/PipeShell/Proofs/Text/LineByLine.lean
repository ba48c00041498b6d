import Mathlib.Data.String.Basic
import PipeShell.Proofs.Text.Lines

/-!
# Decoding line by line

Octets that are no text are replaced, and how much a replacement takes depends on the octets around
it. Nevertheless a text may be decoded line by line: a line feed never belongs to a character that
has been begun before it, so whatever is open there is given up, and the decoder goes on as from its
beginning.

* `Decoder.behind` is a decoder that has read something before; that changes nothing but what it has
  read (`Decoder.next_behind`).
* `Decoder.Tame` says that a decoder has found no line feed and will find none but in its octet: a
  character that has been begun is at least 64.
* `decodeLossy_append_cons` takes a text apart at a line feed.
* `IsCut` says what the lines of a text are, `isCut_iff` that there is one way to cut it, and
  `join_decodeLossy_lines` that the lines together are decoded as the text is.
-/

namespace PipeShell.Text

/-! ### Characters that have been begun -/

/-- What has been begun waits for octets of 128 or more, and is more than 64 when it is
complete. -/
structure Expect.IsTall (e : Expect) : Prop where
  low : 0x80 ≤ e.low.toNat
  value : 0 < e.value ∨ e.more ≠ 0 ∧ 0x80 < e.low.toNat

theorem isTall_of_lead {b : UInt8} {e : Expect} (h : lead b = .begun e) : e.IsTall := by
  rw [lead] at h
  split_ifs at h <;> cases h
  all_goals
    refine ⟨by simp, ?_⟩
    first
    | exact .inr ⟨by decide, by decide⟩
    | exact .inl (by dsimp only; omega)

theorem lead_lineFeed : lead lineFeed = .whole '\n' := rfl

/-- Only ten is the number of a line feed. -/
theorem eq_of_ofNat_eq_lineFeed {n : Nat} (h : Char.ofNat n = '\n') : n = 10 := by
  by_cases hn : n.isValidChar
  · rw [Char.ofNat, dif_pos hn] at h
    exact congrArg Char.toNat h
  · rw [Char.ofNat, dif_neg hn] at h
    exact absurd (congrArg Char.toNat h) (by decide)

/-- Only a line feed is read as a line feed. -/
theorem eq_lineFeed_of_lead {b : UInt8} (h : lead b = .whole '\n') : b = lineFeed := by
  rw [lead] at h
  split_ifs at h
  exact UInt8.toNat_inj.mp (eq_of_ofNat_eq_lineFeed (Lead.whole.inj h))

namespace Expect.IsTall

variable {e e' : Expect} {b : UInt8} {c : Char}

/-- A line feed cannot belong to what has been begun. -/
theorem next_lineFeed (h : e.IsTall) : e.next lineFeed = none := by
  have hlow : ¬e.low ≤ lineFeed := by
    rw [UInt8.le_iff_toNat_le]
    have hten : lineFeed.toNat = 10 := rfl
    have hbound := h.low
    omega
  rw [next, if_neg fun hmay => hlow hmay.1]

/-- What is still to come of it is more than 64. -/
theorem value_next (h : e.IsTall) (hb : e.low ≤ b) :
    0 < 64 * e.value + (b.toNat - 0x80) ∧ (e.more = 0 → 64 ≤ 64 * e.value) := by
  have hlow := h.low
  rw [UInt8.le_iff_toNat_le] at hb
  obtain hvalue | ⟨hmore, hlow'⟩ := h.value <;> omega

theorem next_inr (h : e.IsTall) (hnext : e.next b = some (.inr e')) : e'.IsTall := by
  rw [next] at hnext
  split_ifs at hnext with hmay
  obtain ⟨hvalue, -⟩ := h.value_next hmay.1
  split at hnext <;> cases hnext
  exact ⟨by simp, .inl hvalue⟩

theorem next_inl (h : e.IsTall) (hnext : e.next b = some (.inl c)) : c ≠ '\n' := by
  rw [next] at hnext
  split_ifs at hnext with hmay
  obtain ⟨-, hvalue⟩ := h.value_next hmay.1
  split at hnext
  · rename_i hmore
    rintro rfl
    have hten := eq_of_ofNat_eq_lineFeed (Sum.inl.inj (Option.some.inj hnext))
    have hlarge := hvalue hmore
    omega
  · cases hnext

end Expect.IsTall

/-! ### Decoders -/

namespace Decoder

/-- A decoder that has read something before. -/
def behind (d before : Decoder) : Decoder :=
  ⟨d.read ++ before.read, d.replaced || before.replaced, d.open?⟩

section Behind

variable (d before : Decoder)

theorem abandon_behind : (d.behind before).abandon = d.abandon.behind before := by
  cases hopen : d.open? <;> simp [abandon, behind, hopen]

theorem start_behind (b : UInt8) : (d.behind before).start b = (d.start b).behind before := by
  cases hlead : lead b <;> simp [start, behind, hlead]

theorem next_behind (b : UInt8) : (d.behind before).next b = (d.next b).behind before := by
  have hsame : (d.behind before).open? = d.open? := rfl
  rw [next, next, hsame]
  cases d.open? with
  | none => exact start_behind d before b
  | some e =>
    cases hnext : e.next b with
    | none =>
      simp only [hnext]
      rw [abandon_behind, start_behind]
    | some outcome => cases outcome <;> simp [hnext, behind]

theorem foldl_next_behind (bytes : Bytes) :
    bytes.foldl next (d.behind before) = (bytes.foldl next d).behind before := by
  induction bytes generalizing d with
  | nil => rfl
  | cons b rest ih => rw [List.foldl_cons, List.foldl_cons, next_behind, ih]

end Behind

variable {d : Decoder} {b : UInt8}

/-- A decoder with nothing open goes on as from its beginning. -/
theorem abandon_foldl_next (hopen : d.open? = none) (bytes : Bytes) :
    (bytes.foldl next d).abandon = (run bytes).behind d := by
  have hstart : d = behind {} d := by
    obtain ⟨read, replaced, open?⟩ := d
    obtain rfl : open? = none := hopen
    rfl
  conv_lhs => rw [hstart]
  rw [foldl_next_behind, abandon_behind, run]

/-- Whatever has been begun is more than a line feed when it is complete. -/
def Tame (d : Decoder) : Prop :=
  ∀ e, d.open? = some e → e.IsTall

theorem tame_start (d : Decoder) (b : UInt8) : (d.start b).Tame := by
  intro e hopen
  rw [start] at hopen
  cases hlead : lead b with
  | whole c => simp [hlead] at hopen
  | begun e' =>
    obtain rfl : e' = e := by simpa [hlead] using hopen
    exact isTall_of_lead hlead
  | refused => simp [hlead] at hopen

theorem Tame.next (h : d.Tame) (b : UInt8) : (d.next b).Tame := by
  rw [Decoder.next]
  cases hopen : d.open? with
  | none => exact tame_start d b
  | some e =>
    cases hnext : e.next b with
    | none => simpa only [hnext] using tame_start d.abandon b
    | some outcome =>
      simp only [hnext]
      cases outcome with
      | inl c => rintro _ ⟨⟩
      | inr e' =>
        rintro _ ⟨⟩
        exact (h e hopen).next_inr hnext

theorem Tame.foldl_next (h : d.Tame) (bytes : Bytes) : (bytes.foldl Decoder.next d).Tame := by
  induction bytes generalizing d with
  | nil => exact h
  | cons b rest ih => exact ih (h.next b)

/-- **At a line feed everything that is open is given up.** -/
theorem Tame.next_lineFeed (h : d.Tame) : d.next lineFeed = d.abandon.push '\n' := by
  rw [Decoder.next]
  cases hopen : d.open? with
  | none =>
    simp only [start, lead_lineFeed, abandon, hopen, push]
  | some e =>
    simp only [(h e hopen).next_lineFeed, start, lead_lineFeed, push]

/-- Without its octet no line feed is read. -/
theorem lineFeed_notMem_start (hb : b ≠ lineFeed) (h : '\n' ∉ d.read) :
    '\n' ∉ (d.start b).read := by
  cases hlead : lead b with
  | whole c =>
    have hc : '\n' ≠ c := by
      rintro rfl
      exact hb (eq_lineFeed_of_lead hlead)
    simp only [start, hlead]
    exact List.not_mem_cons_of_ne_of_not_mem hc h
  | begun e => simpa only [start, hlead] using h
  | refused =>
    simp only [start, hlead]
    exact List.not_mem_cons_of_ne_of_not_mem (by decide) h

theorem lineFeed_notMem_abandon (h : '\n' ∉ d.read) : '\n' ∉ d.abandon.read := by
  rw [abandon]
  cases d.open? with
  | none => exact h
  | some e => exact List.not_mem_cons_of_ne_of_not_mem (by decide) h

theorem Tame.lineFeed_notMem_next (hd : d.Tame) (hb : b ≠ lineFeed) (h : '\n' ∉ d.read) :
    '\n' ∉ (d.next b).read := by
  rw [Decoder.next]
  cases hopen : d.open? with
  | none => exact lineFeed_notMem_start hb h
  | some e =>
    cases hnext : e.next b with
    | none => simpa only [hnext] using lineFeed_notMem_start hb (lineFeed_notMem_abandon h)
    | some outcome =>
      simp only [hnext]
      cases outcome with
      | inl c =>
        exact List.not_mem_cons_of_ne_of_not_mem ((hd e hopen).next_inl hnext).symm h
      | inr e' => exact h

theorem Tame.lineFeed_notMem_foldl_next (hd : d.Tame) (h : '\n' ∉ d.read) {bytes : Bytes}
    (hbytes : lineFeed ∉ bytes) : '\n' ∉ (bytes.foldl Decoder.next d).read := by
  induction bytes generalizing d with
  | nil => exact h
  | cons b rest ih =>
    rw [List.mem_cons, not_or] at hbytes
    exact ih (hd.next b) (hd.lineFeed_notMem_next (Ne.symm hbytes.1) h) hbytes.2

/-- A decoder is tame at its beginning. -/
theorem tame_empty : Tame {} :=
  nofun

/-- Whatever octet has been read last, something has been found or is open. -/
theorem abandon_next_ne_nil (d : Decoder) (b : UInt8) : (d.next b).abandon.read ≠ [] := by
  have hstart : ∀ d : Decoder, (d.start b).abandon.read ≠ [] := by
    intro d
    cases hlead : lead b <;> simp [start, abandon, hlead]
  rw [Decoder.next]
  cases d.open? with
  | none => exact hstart d
  | some e =>
    cases hnext : e.next b with
    | none => simpa only [hnext] using hstart d.abandon
    | some outcome => cases outcome <;> simp [hnext, abandon]

end Decoder

/-! ### Texts -/

/-- **A text is decoded line by line**: what stands before a line feed and what stands behind it
have nothing to do with each other. -/
theorem decodeLossy_append_cons (a b : Bytes) :
    decodeLossy (a ++ lineFeed :: b) = decodeLossy a ++ "\n" ++ decodeLossy b := by
  have hfeed := (Decoder.tame_empty.foldl_next a).next_lineFeed
  have hrun : Decoder.run (a ++ lineFeed :: b) =
      (Decoder.run b).behind ((Decoder.run a).push '\n') := by
    rw [Decoder.run, List.foldl_append, List.foldl_cons, hfeed, Decoder.abandon_foldl_next rfl,
      Decoder.run, Decoder.run]
  rw [decodeLossy, hrun, Decoder.behind, Decoder.push, List.reverse_append, List.reverse_cons,
    String.ofList_append, String.ofList_append]
  rfl

/-- A character that is cut short by a line feed, and what would have been the rest of it. -/
example : decodeLossy [0xe2, 0x82, 10, 0xac, 97] = "\ufffd\n\ufffda" := by decide

@[simp] theorem decodeLossy_nil : decodeLossy [] = "" := rfl

theorem decodeLossy_snoc_lineFeed (bytes : Bytes) :
    decodeLossy (bytes ++ [lineFeed]) = decodeLossy bytes ++ "\n" := by
  rw [decodeLossy_append_cons, decodeLossy_nil, String.append_empty]

/-- A line feed is found only where there is one. -/
theorem lineFeed_notMem_decodeLossy {bytes : Bytes} (h : lineFeed ∉ bytes) :
    '\n' ∉ (decodeLossy bytes).toList := by
  rw [decodeLossy, String.toList_ofList, List.mem_reverse]
  exact Decoder.lineFeed_notMem_abandon
    (Decoder.tame_empty.lineFeed_notMem_foldl_next List.not_mem_nil h)

/-- Whatever the octets are, something is found in them. -/
theorem decodeLossy_ne_empty {bytes : Bytes} (h : bytes ≠ []) : decodeLossy bytes ≠ "" := by
  obtain ⟨front, b, rfl⟩ := (List.eq_nil_or_concat' bytes).resolve_left h
  have hread := Decoder.abandon_next_ne_nil (front.foldl Decoder.next {}) b
  intro hempty
  have hlist := congrArg String.toList hempty
  rw [decodeLossy, String.toList_ofList, Decoder.run, List.foldl_append] at hlist
  exact hread (List.reverse_eq_nil_iff.mp hlist)

/-! ### Lines -/

theorem lines_append_cons {body : Bytes} (h : lineFeed ∉ body) (rest : Bytes) :
    lines (body ++ lineFeed :: rest) = (body ++ [lineFeed]) :: lines rest := by
  rw [lines, cutLine_append h]

theorem lines_of_notMem {bytes : Bytes} (h : lineFeed ∉ bytes) :
    lines bytes = if bytes.isEmpty then [] else [bytes] := by
  rw [lines, cutLine_of_notMem h]

@[simp] theorem lines_nil : lines [] = [] :=
  lines_of_notMem List.not_mem_nil

/-- **Induction over a text** by its lines. -/
@[elab_as_elim]
theorem lines_induction {motive : Bytes → Prop} (last : ∀ bytes, lineFeed ∉ bytes → motive bytes)
    (cons : ∀ body rest, lineFeed ∉ body → motive rest → motive (body ++ lineFeed :: rest))
    (bytes : Bytes) : motive bytes := by
  fun_induction lines bytes with
  | case1 bytes hcut hempty => exact last bytes (lineFeed_notMem_of_cutLine hcut)
  | case2 bytes hcut hempty => exact last bytes (lineFeed_notMem_of_cutLine hcut)
  | case3 bytes line rest hcut ih =>
    obtain ⟨body, hbody, rfl, rfl⟩ := exists_of_cutLine hcut
    exact cons body rest hbody ih

/-- What is cut off a text is its first line. -/
theorem lines_of_cutLine {bytes line rest : Bytes} (h : cutLine bytes = some (line, rest))
    (later : Bytes) : lines (bytes ++ later) = line :: lines (rest ++ later) := by
  obtain ⟨body, hbody, rfl, rfl⟩ := exists_of_cutLine h
  rw [List.append_assoc, List.cons_append, lines_append_cons hbody]

/-- Whether a text is cut into pieces: behind each line feed and nowhere else. -/
structure IsCut (bytes : Bytes) (pieces : List Bytes) : Prop where
  flatten : pieces.flatten = bytes
  ne_nil : ∀ piece ∈ pieces, piece ≠ []
  /-- A line feed is the last octet of its piece, -/
  last : ∀ piece ∈ pieces, ∀ a b, piece = a ++ lineFeed :: b → b = []
  /-- and only the last piece may have none. -/
  closed : ∀ piece ∈ pieces.dropLast, ∃ body, piece = body ++ [lineFeed]

/-- The first line feed of a row of octets that ends with it stands at its end. -/
theorem eq_nil_of_snoc_eq {α : Type} {x : α} {body a b : List α} (h : x ∉ body)
    (heq : body ++ [x] = a ++ x :: b) : b = [] := by
  obtain rfl | ⟨b, y, rfl⟩ := List.eq_nil_or_concat' b
  · rfl
  · rw [← List.cons_append, ← List.append_assoc] at heq
    have hbody := List.append_inj_left' heq rfl
    exact absurd (by simp [hbody]) h

theorem isCut_lines (bytes : Bytes) : IsCut bytes (lines bytes) := by
  induction bytes using lines_induction with
  | last bytes h =>
    rw [lines_of_notMem h]
    by_cases hempty : bytes = []
    · subst hempty
      exact ⟨rfl, nofun, nofun, nofun⟩
    · rw [if_neg (by simpa using hempty)]
      refine ⟨by simp, by simpa using hempty, ?_, by simp⟩
      intro piece hpiece a b heq
      rw [← List.mem_singleton.mp hpiece, heq] at h
      simp at h
  | cons body rest h ih =>
    rw [lines_append_cons h]
    refine ⟨?_, ?_, ?_, ?_⟩
    · rw [List.flatten_cons, ih.flatten, List.append_assoc, List.singleton_append]
    · exact List.forall_mem_cons.mpr ⟨by simp, ih.ne_nil⟩
    · exact List.forall_mem_cons.mpr ⟨fun a b heq => eq_nil_of_snoc_eq h heq, ih.last⟩
    · by_cases hnil : lines rest = []
      · rw [hnil]
        exact nofun
      · rw [List.dropLast_cons_of_ne_nil hnil]
        exact List.forall_mem_cons.mpr ⟨⟨body, rfl⟩, ih.closed⟩

/-- **There is one way to cut a text into its lines.** -/
theorem isCut_iff {bytes : Bytes} {pieces : List Bytes} :
    IsCut bytes pieces ↔ pieces = lines bytes := by
  refine ⟨fun hcut => ?_, fun h => h ▸ isCut_lines bytes⟩
  induction pieces generalizing bytes with
  | nil =>
    obtain rfl : [] = bytes := hcut.flatten
    exact lines_nil.symm
  | cons piece rest ih =>
    obtain ⟨hflatten, hne, hlast, hclosed⟩ := hcut
    rw [List.forall_mem_cons] at hne hlast
    have hrest : IsCut rest.flatten rest := by
      refine ⟨rfl, hne.2, hlast.2, fun piece' hpiece' => hclosed piece' ?_⟩
      have hnil : rest ≠ [] := by
        rintro rfl
        cases hpiece'
      rw [List.dropLast_cons_of_ne_nil hnil]
      exact List.mem_cons_of_mem piece hpiece'
    rw [List.flatten_cons] at hflatten
    by_cases hfeed : lineFeed ∈ piece
    · obtain ⟨body, b, rfl, hbody⟩ := List.eq_append_cons_of_mem hfeed
      obtain rfl := hlast.1 body b rfl
      rw [List.append_assoc, List.cons_append, List.nil_append] at hflatten
      rw [← hflatten, lines_append_cons hbody, ← ih hrest]
    · -- a piece without a line feed is the last one
      obtain rfl : rest = [] := by
        by_contra hnil
        rw [List.dropLast_cons_of_ne_nil hnil] at hclosed
        obtain ⟨body, rfl⟩ := hclosed piece List.mem_cons_self
        simp at hfeed
      rw [List.flatten_nil, List.append_nil] at hflatten
      rw [← hflatten, lines_of_notMem hfeed, if_neg (by simpa using hne.1)]

/-! ### Lines as texts -/

/-- **The lines of a text together are decoded as the text is.** -/
theorem join_decodeLossy_lines (bytes : Bytes) :
    String.join ((lines bytes).map decodeLossy) = decodeLossy bytes := by
  induction bytes using lines_induction with
  | last bytes h =>
    rw [lines_of_notMem h]
    by_cases hempty : bytes = []
    · subst hempty
      rfl
    · rw [if_neg (by simpa using hempty), List.map_singleton, String.join_cons, String.join_nil,
        String.append_empty]
  | cons body rest h ih =>
    rw [lines_append_cons h, List.map_cons, String.join_cons, ih, decodeLossy_snoc_lineFeed,
      decodeLossy_append_cons]

/-- **A line is decoded to a text that is not empty**, with a line feed at its end or none. -/
theorem of_mem_decodeLossy_lines {bytes : Bytes} {text : String}
    (h : text ∈ (lines bytes).map decodeLossy) :
    text ≠ "" ∧ ∀ a b, text.toList = a ++ '\n' :: b → b = [] := by
  obtain ⟨piece, hpiece, rfl⟩ := List.mem_map.mp h
  have hcut := isCut_lines bytes
  refine ⟨decodeLossy_ne_empty (hcut.ne_nil piece hpiece), fun a b heq => ?_⟩
  by_cases hfeed : lineFeed ∈ piece
  · obtain ⟨body, b', rfl, hbody⟩ := List.eq_append_cons_of_mem hfeed
    obtain rfl := hcut.last _ hpiece body b' rfl
    rw [decodeLossy_snoc_lineFeed, String.toList_append] at heq
    exact eq_nil_of_snoc_eq (lineFeed_notMem_decodeLossy hbody) heq
  · have hnone := lineFeed_notMem_decodeLossy hfeed
    rw [heq] at hnone
    simp at hnone

end PipeShell.Text
