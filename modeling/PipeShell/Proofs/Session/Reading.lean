import PipeShell.Proofs.Command.Margins
import PipeShell.Proofs.Session.Feed
import PipeShell.Proofs.Text.Lines
import PipeShell.Session.LineReader

/-!
# Reading lines from a feed

A reader takes the blocks that it is fed apart into lines, each with the ending that stands behind
it. Of what it still awaits it only matters which lines that is; how the octets are spread over the
blocks does not.

* `LineReader.Awaits` says what a reader still awaits.
* `LineReader.exists_yields` is the inversion: what an attempt comes to.
* `Text.trimmed_append` says that the ending does not matter to a shell.
-/

namespace PipeShell

/-- What stands behind a line that has been read: an ending, or nothing at the end of the input. -/
def IsTail (tail : String) : Prop :=
  tail = "" ∨ ∃ withReturn, tail = Text.ending withReturn

/-! ### Endings are margins -/

theorem IsTail.isWhiteSpace {tail : String} (h : IsTail tail) :
    ∀ c ∈ tail.toList, Text.isWhiteSpace c = true := by
  obtain rfl | ⟨withReturn, rfl⟩ := h
  · nofun
  · have hfeed : Text.isWhiteSpace '\n' = true := by decide
    have hreturn : Text.isWhiteSpace '\r' = true := by decide
    cases withReturn with
    | false => exact List.forall_mem_singleton.mpr hfeed
    | true => exact List.forall_mem_cons.mpr ⟨hreturn, List.forall_mem_singleton.mpr hfeed⟩

theorem Text.trimmed_append {tail : String} (line : String)
    (h : ∀ c ∈ tail.toList, isWhiteSpace c = true) : trimmed (line ++ tail) = trimmed line := by
  rw [trimmed, String.toList_append, trim_append_white _ h, trimmed]

theorem Text.trimmed_append_return (line : String) : trimmed (line ++ "\r") = trimmed line := by
  have hreturn : isWhiteSpace '\r' = true := by decide
  exact trimmed_append line (List.forall_mem_singleton.mpr hreturn)

/-! ### The reader -/

namespace LineReader

/-- Whether a reader still awaits these lines: what it has read and what it is still fed are the
lines, put together. -/
def Awaits (r : LineReader) (f : Feed) (lines : List String) : Prop :=
  [] ∉ f.blocks ∧
    ∃ text, Text.Joined lines text ∧ r.pending ++ f.blocks.flatten = Text.encode text

/-- What an attempt comes to when lines are awaited: the first of them, or some of its octets, or
nothing if there is no line to come. -/
inductive Yields (f : Feed) : List String → LineReader × LineRead → Feed → Prop where
  | line {r : LineReader} {first : String} {others : List String} (tail : String)
    (tails : IsTail tail) (awaits : r.Awaits f others) :
    Yields f (first :: others) (r, .line (Text.encode (first ++ tail))) f
  | more {r : LineReader} {lines : List String} (blocks : List Bytes)
    (fewer : blocks.length < f.blocks.length) (awaits : r.Awaits { f with blocks } lines) :
    Yields f lines (r, .more) { f with blocks }
  | ended {lines : List String} (blank : ∀ line ∈ lines, line = "") :
    Yields f lines ({}, .ended) f

/-- **Inversion.** An attempt to read comes to what the lines say. -/
theorem exists_yields {r : LineReader} {f : Feed} {lines : List String} (h : r.Awaits f lines)
    (hlines : ∀ line ∈ lines, '\n' ∉ line.toList) :
    ∃ out f', r.next.feed f = .done (out, f') ∧ Yields f lines out f' := by
  obtain ⟨hblocks, text, hjoined, hbytes⟩ := h
  cases hcut : Text.cutLine r.pending with
  | some cut =>
    obtain ⟨line, rest⟩ := cut
    obtain ⟨first, others, withReturn, text', rfl, hothers, rfl, hrest⟩ :=
      hjoined.of_cutLine hlines hcut hbytes
    refine ⟨_, _, ?_, .line _ (.inr ⟨withReturn, rfl⟩) ⟨hblocks, text', hothers, hrest⟩⟩
    rw [next, hcut]
    rfl
  | none =>
    cases hfed : f.blocks with
    | cons block blocks =>
      have hmore : Awaits ⟨r.pending ++ block⟩ { f with blocks } lines := by
        rw [hfed] at hblocks hbytes
        refine ⟨fun hmem => hblocks (List.mem_cons_of_mem _ hmem), text, hjoined, ?_⟩
        rw [← hbytes, List.flatten_cons, List.append_assoc]
      have hne : block ≠ [] := by
        rintro rfl
        exact hblocks (hfed ▸ List.mem_cons_self)
      have hanswer :
          f.answer? (.read Fd.stdin blockSize) = some (.ok block, { f with blocks }) := by
        rw [Feed.answer?, hfed]
      refine ⟨_, _, ?_, .more blocks (by rw [hfed]; exact Nat.lt_succ_self _) hmore⟩
      rw [next, hcut, Interaction.feed_persist _ hanswer]
      obtain ⟨b, rest, rfl⟩ := List.exists_cons_of_ne_nil hne
      rfl
    | nil =>
      rw [hfed, List.flatten_nil, List.append_nil] at hbytes
      have hanswer : f.answer? (.read Fd.stdin blockSize) = some (.ok [], f) := by
        rw [Feed.answer?, hfed]
      have hnothing : Awaits {} f [] := by
        refine ⟨hblocks, "", .nil, ?_⟩
        rw [hfed, Text.encode_eq]
        rfl
      rw [next, hcut, Interaction.feed_persist _ hanswer]
      by_cases hempty : text = ""
      · subst hempty
        have hpending : r.pending = [] := by
          rw [hbytes, Text.encode_eq]
          rfl
        rw [hpending]
        refine ⟨_, _, rfl, .ended ?_⟩
        obtain ⟨rfl, -⟩ | rfl := hjoined.of_cutLine_none hcut hbytes
        · exact List.forall_mem_nil _
        · exact fun line hline => List.mem_singleton.mp hline
      · obtain ⟨-, rfl⟩ | rfl := hjoined.of_cutLine_none hcut hbytes
        · exact absurd rfl hempty
        · have hpending : r.pending.isEmpty = false := by
            rw [List.isEmpty_eq_false_iff]
            intro hnil
            apply hempty
            rw [← Text.decodeLossy_encode text, ← hbytes, hnil]
            rfl
          have hyields : Yields f [text] ({}, .line (Text.encode (text ++ ""))) f :=
            .line "" (.inl rfl) hnothing
          rw [String.append_empty, ← hbytes] at hyields
          refine ⟨_, _, ?_, hyields⟩
          rw [hpending]
          rfl

end LineReader

end PipeShell
