import PipeShell.Text.CharacterClass

/-!
# Regular expressions

Regular expressions as trees, and what they match. All ways to match are followed at once: a match
is a step from places in a text to places further on, and an expression takes a set of places to
the set of those where it can end. So the time that this takes does not depend on the order in
which alternatives stand.

* `Regex.ends` is that step.
* `Regex.isIn` looks for any match in a text, `Regex.find?` for the first one, and of those the
  longest one.
-/

namespace PipeShell.Programs

/-- A regular expression. -/
inductive Regex where
  /-- The empty text. -/
  | empty
  /-- One character of a kind. -/
  | char (belongs : Char → Bool)
  /-- One text behind the other. -/
  | sequence (a b : Regex)
  /-- One of two texts. -/
  | choice (a b : Regex)
  /-- A text again and again, so often at least, and so often at most. -/
  | many (least : Nat) (most : Option Nat) (a : Regex)
  /-- A group with a number. -/
  | group (number : Nat) (a : Regex)
  /-- What a group has matched. -/
  | back (number : Nat)
  /-- A place of a kind: what stands before it and behind it. -/
  | place (fits : Option Char → Option Char → Bool)

namespace Regex

/-- A place in a text, and what groups have matched on the way: their numbers, beginnings and
ends. -/
structure Spot where
  /-- How many characters stand before the place. -/
  offset : Nat
  /-- The groups. -/
  groups : List (Nat × Nat × Nat) := []
  deriving DecidableEq, Repr

/-- Keeps one of neighbours that are equal. -/
def dropRepeats : List Spot → List Spot
  | [] => []
  | [a] => [a]
  | a :: b :: rest => if a = b then dropRepeats (b :: rest) else a :: dropRepeats (b :: rest)

/-- Two ascending lists of places as one. -/
def join (a b : List Spot) : List Spot :=
  dropRepeats (List.merge a b fun x y => x.offset ≤ y.offset)

/-- The places of an ascending list that another one does not have. -/
def without : List Spot → List Spot → List Spot
  | [], _ => []
  | as, [] => as
  | a :: as, b :: bs =>
    if a.offset < b.offset then a :: without as (b :: bs)
    else if b.offset < a.offset then without (a :: as) bs
    else if (b :: bs.takeWhile fun c => c.offset = a.offset).contains a then without as (b :: bs)
    else a :: without as (b :: bs)
termination_by as bs => as.length + bs.length

/-- Makes a step so many times. -/
def times (step : List Spot → List Spot) : Nat → List Spot → List Spot
  | 0, spots => spots
  | n + 1, spots => times step n (step spots)

/-- The places that any number of steps leads to, so many at most: those that have been found, and
those of them from which no step has been made. -/
def reach (step : List Spot → List Spot) : Nat → List Spot → List Spot → List Spot
  | 0, found, _ => found
  | n + 1, found, fresh =>
    match without (step fresh) found with
    | [] => found
    | fresh => reach step n (join found fresh) fresh

/-- What stands before a place. -/
def before (text : Array Char) (offset : Nat) : Option Char :=
  if offset = 0 then none else text[offset - 1]?

/-- The places where an expression can end that begins at one of the given places; `keeps` says
whether groups are kept. -/
def ends (text : Array Char) (keeps : Bool) : Regex → List Spot → List Spot
  | empty, spots => spots
  | char belongs, spots => spots.filterMap fun s =>
    match text[s.offset]? with
    | some c => if belongs c then some { s with offset := s.offset + 1 } else none
    | none => none
  | sequence a b, spots => ends text keeps b (ends text keeps a spots)
  | choice a b, spots => join (ends text keeps a spots) (ends text keeps b spots)
  | many least most a, spots =>
    let first := times (ends text keeps a) least spots
    let rounds := match most with
      | some most => most - least
      | none => text.size + 1
    reach (ends text keeps a) rounds first first
  | group number a, spots =>
    if keeps then
      let found := spots.flatMap fun s => (ends text keeps a [s]).map fun e =>
        { e with
          groups := (number, s.offset, e.offset) :: e.groups.filter fun g => g.1 ≠ number }
      found.mergeSort fun x y => x.offset ≤ y.offset
    else ends text keeps a spots
  | back number, spots =>
    (spots.filterMap fun s =>
      match s.groups.lookup number with
      | some (first, last) =>
        let size := last - first
        if s.offset + size ≤ text.size &&
            (List.range size).all fun i => text[first + i]? == text[s.offset + i]? then
          some { s with offset := s.offset + size }
        else none
      | none => none).mergeSort fun x y => x.offset ≤ y.offset
  | place fits, spots => spots.filter fun s => fits (before text s.offset) text[s.offset]?

/-- Whether an expression looks at what groups have matched. -/
def looksBack : Regex → Bool
  | back _ => true
  | sequence a b => a.looksBack || b.looksBack
  | choice a b => a.looksBack || b.looksBack
  | many _ _ a => a.looksBack
  | group _ a => a.looksBack
  | _ => false

/-- Whether an expression matches anything in a text. -/
def isIn (r : Regex) (text : Array Char) : Bool :=
  !(r.ends text r.looksBack ((List.range (text.size + 1)).map fun offset => { offset })).isEmpty

/-- The longest match that begins at a place. -/
def longestAt (r : Regex) (text : Array Char) (keeps : Bool) (offset : Nat) : Option Spot :=
  let found := r.ends text (keeps || r.looksBack) [{ offset }]
  found.getLast?.map fun last => (found.find? fun s => s.offset = last.offset).getD last

/-- The first match from a place on, so many places further at most: where it begins and ends. -/
def findFrom (r : Regex) (text : Array Char) : Nat → Nat → Option (Nat × Nat)
  | 0, _ => none
  | fuel + 1, offset =>
    match r.longestAt text false offset with
    | some s => some (offset, s.offset)
    | none => findFrom r text fuel (offset + 1)

/-- The first match from a place on, and of those the longest: where it begins and ends. -/
def find? (r : Regex) (text : Array Char) (offset : Nat) : Option (Nat × Nat) :=
  r.findFrom text (text.size + 1 - offset) offset

end Regex

end PipeShell.Programs
