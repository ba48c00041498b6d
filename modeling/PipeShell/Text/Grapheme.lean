import PipeShell.Text.GraphemeBreak
import PipeShell.Text.GraphemeExtend

/-!
# Grapheme clusters

The characters that a reader takes for one: a letter with its marks, a syllable, a flag, an emoji
with its parts. A text is cut into clusters from left to right; whether two neighbours stay
together follows from their classes and from a little memory of the cluster so far.

* `graphemes` cuts a text.
* `eraseBackspaces` lets every backspace take away the cluster before it.
-/

namespace PipeShell.Text

/-- The classes of characters that the rules about clusters know. -/
inductive GraphemeClass where
  /-- The carriage return. -/
  | carriageReturn
  /-- The line feed. -/
  | lineFeed
  /-- Other characters that stand alone. -/
  | control
  /-- Marks on the character before. -/
  | extend
  /-- The joiner. -/
  | joiner
  /-- Half a flag. -/
  | regional
  /-- Signs that belong to the character behind. -/
  | prepend
  /-- Signs that belong to the character before. -/
  | spacingMark
  /-- The beginning of a Korean syllable. -/
  | leading
  /-- The middle of a Korean syllable. -/
  | vowel
  /-- The end of a Korean syllable. -/
  | trailing
  /-- A Korean syllable without an end. -/
  | openSyllable
  /-- A Korean syllable with an end. -/
  | closedSyllable
  /-- All other characters. -/
  | other
  deriving DecidableEq, Repr

namespace GraphemeClass

/-- Whether a code point is in a range, both ends included. -/
def within (c : Char) (low high : Nat) : Bool :=
  low ≤ c.toNat && c.toNat ≤ high

/-- The class of a character. -/
def ofChar (c : Char) : GraphemeClass :=
  if c = '\r' then carriageReturn
  else if c = '\n' then lineFeed
  else if within c 0x20 0x7e then other
  else if graphemeControlRanges.holds c then control
  else if c.toNat = 0x200d then joiner
  else if graphemeExtendRanges.holds c || within c 0x1f3fb 0x1f3ff then extend
  else if within c 0x1f1e6 0x1f1ff then regional
  else if graphemePrependRanges.holds c then prepend
  else if graphemeSpacingMarkRanges.holds c then spacingMark
  else if within c 0x1100 0x115f || within c 0xa960 0xa97c then leading
  else if within c 0x1160 0x11a7 || within c 0xd7b0 0xd7c6 || c.toNat = 0x16d63 ||
    within c 0x16d67 0x16d6a then vowel
  else if within c 0x11a8 0x11ff || within c 0xd7cb 0xd7fb then trailing
  else if within c 0xac00 0xd7a3 then
    if (c.toNat - 0xac00) % 28 = 0 then openSyllable else closedSyllable
  else other

/-- Whether a character of this class always stands alone. -/
def standsAlone : GraphemeClass → Bool
  | carriageReturn => true
  | lineFeed => true
  | control => true
  | _ => false

/-- Whether two classes belong to one Korean syllable. -/
def inSyllable : GraphemeClass → GraphemeClass → Bool
  | leading, next => next == leading || next == vowel || next == openSyllable ||
      next == closedSyllable
  | openSyllable, next => next == vowel || next == trailing
  | vowel, next => next == vowel || next == trailing
  | closedSyllable, next => next == trailing
  | trailing, next => next == trailing
  | _, _ => false

end GraphemeClass

/-- How far a consonant and its linker have been seen. -/
inductive Conjunct where
  /-- Not at all. -/
  | none
  /-- The consonant. -/
  | consonant
  /-- The consonant and a linker. -/
  | linked
  deriving DecidableEq, Repr

/-- How far an emoji and its joiner have been seen. -/
inductive Pictograph where
  /-- Not at all. -/
  | none
  /-- The emoji, with marks. -/
  | begun
  /-- The emoji and the joiner. -/
  | joined
  deriving DecidableEq, Repr

/-- What is known of the cluster so far. -/
structure ClusterState where
  /-- The class of the last character. -/
  last : GraphemeClass
  /-- Emoji and joiner. -/
  pictograph : Pictograph
  /-- Whether the halves of flags so far are odd in number. -/
  halfFlag : Bool
  /-- Consonant and linker. -/
  conjunct : Conjunct
  deriving DecidableEq, Repr

namespace ClusterState

/-- The signs that join the consonants around them. -/
def linkers : List Nat :=
  [0x94d, 0x9cd, 0xacd, 0xb4d, 0xc4d, 0xd4d, 0x1039, 0x17d2, 0x1a60, 0x1b44, 0x1bab, 0xa9c0,
    0xaaf6, 0x10a3f, 0x11133, 0x113d0, 0x1193e, 0x11a47, 0x11a99, 0x11f42]

/-- What is known behind one more character; `before` is what was known of the same cluster. -/
def take (before : Option ClusterState) (c : Char) : ClusterState :=
  let kind := GraphemeClass.ofChar c
  { last := kind
    pictograph :=
      if pictographRanges.holds c then .begun
      else match before.map ClusterState.pictograph, kind with
        | some .begun, .extend => .begun
        | some .begun, .joiner => .joined
        | _, _ => .none
    halfFlag := kind == .regional && !(before.map ClusterState.halfFlag).getD false
    conjunct :=
      if conjunctConsonantRanges.holds c then .consonant
      else match before.map ClusterState.conjunct with
        | some .consonant =>
          if linkers.contains c.toNat then .linked
          else if (kind == .extend || kind == .joiner) && c.toNat ≠ 0x200c then .consonant
          else .none
        | some .linked =>
          if (kind == .extend || kind == .joiner) && c.toNat ≠ 0x200c then .linked else .none
        | _ => .none }

/-- Whether a character belongs to the cluster so far. -/
def admits (s : ClusterState) (c : Char) : Bool :=
  let kind := GraphemeClass.ofChar c
  if s.last = .carriageReturn ∧ kind = .lineFeed then true
  else if s.last.standsAlone || kind.standsAlone then false
  else s.last.inSyllable kind || kind == .extend || kind == .joiner || kind == .spacingMark ||
    s.last == .prepend ||
    (s.conjunct == .linked && conjunctConsonantRanges.holds c) ||
    (s.pictograph == .joined && pictographRanges.holds c) ||
    (s.halfFlag && kind == .regional)

end ClusterState

/-- Where the cutting of a text stands: everything is given last one first. -/
structure ClusterReader where
  /-- The finished clusters. -/
  finished : List (List Char) := []
  /-- The characters of the cluster that has begun. -/
  cluster : List Char := []
  /-- What is known of it, if one has begun. -/
  state : Option ClusterState := none

namespace ClusterReader

/-- Takes a character. -/
def take (r : ClusterReader) (c : Char) : ClusterReader :=
  match r.state with
  | none => { r with cluster := [c], state := some (.take none c) }
  | some s =>
    if s.admits c then { r with cluster := c :: r.cluster, state := some (.take (some s) c) }
    else
      { finished := r.cluster.reverse :: r.finished, cluster := [c], state := some (.take none c) }

/-- The clusters in their order. -/
def clusters (r : ClusterReader) : List (List Char) :=
  (if r.cluster.isEmpty then r.finished else r.cluster.reverse :: r.finished).reverse

end ClusterReader

/-- The clusters of a text, in their order. -/
def graphemes (text : List Char) : List (List Char) :=
  (text.foldl ClusterReader.take {}).clusters

/-- Takes as many octets from the end of a text, last character first. A character that would be
split goes as a whole. -/
def dropOctets : Nat → List Char → List Char
  | _, [] => []
  | 0, c :: text => c :: text
  | n + 1, c :: text => dropOctets (n + 1 - c.utf8Size) text

/-- A text under the eraser: everything is given last one first. -/
structure Erasure where
  /-- The characters that are left. -/
  left : List Char := []
  /-- How many octets a backspace will take away, for every cluster that can still go. -/
  sizes : List UInt8 := []

namespace Erasure

/-- Takes one cluster. The size of a cluster is kept in one octet, so that of a cluster of 256
octets or more a backspace takes away the remainder only. -/
def take (e : Erasure) (cluster : List Char) : Erasure :=
  if cluster = ['\x08'] then
    match e.sizes with
    | [] => e
    | size :: sizes => { left := dropOctets size.toNat e.left, sizes }
  else
    { left := cluster.reverse ++ e.left
      sizes := ((cluster.map Char.utf8Size).foldl (· + ·) 0).toUInt8 :: e.sizes }

end Erasure

/-- The text that is left when every backspace takes away the cluster before it. A text without
backspaces is not cut at all. -/
def eraseBackspaces (text : String) : String :=
  if text.toList.contains '\x08' then
    String.ofList ((graphemes text.toList).foldl Erasure.take {}).left.reverse
  else text

end PipeShell.Text
