import PipeShell.Programs.RegexReader
import PipeShell.Programs.Tool

/-!
# Copying backwards

The program that copies the records of its inputs in the contrary order. Records end with a
separator, or begin with one; it is a text or a regular expression, and is looked for from the end
of the input on, so that of several that overlap the last one counts.
-/

namespace PipeShell.Programs.Tool

/-- What separates records. -/
inductive Separator where
  /-- A text. -/
  | text (octets : Array UInt8)
  /-- What an expression matches. -/
  | pattern (r : Regex)

/-- Where the separator ends that begins at a place, if one does; it may not go beyond the given
bound. -/
def Separator.endAt? (s : Separator) (input : Array UInt8) (bound place : Nat) : Option Nat :=
  match s with
  | .text octets =>
    let behind := place + octets.size
    if behind ≤ bound && (List.range octets.size).all fun k => input[place + k]? == octets[k]? then
      some behind
    else none
  | .pattern r =>
    let bounded := (input.extract 0 bound).map Text.charOfOctet
    (r.longestAt bounded false place).map (·.offset)

/-- The last separator that ends before a bound and begins before a place: where it begins and
ends. -/
def Separator.last? (s : Separator) (input : Array UInt8) (bound : Nat) :
    Nat → Option (Nat × Nat)
  | 0 => none
  | place + 1 =>
    match s.endAt? input bound place with
    | some behind => some (place, behind)
    | none => s.last? input bound place

/-- The records of an input, the last one first: those that end before a place, the one that ends
at `past` being the next. `fuel` bounds their number. -/
def records (s : Separator) (begins : Bool) (input : Array UInt8) :
    Nat → Nat → Nat → List Bytes
  | 0, _, _ => []
  | fuel + 1, bound, past =>
    match s.last? input bound bound with
    | none => [(input.extract 0 past).toList]
    | some (first, behind) =>
      let cut := if begins then first else behind
      (input.extract cut past).toList :: records s begins input fuel first cut

/-- Copies records in the contrary order. -/
def tac (t : Tool) : Program Unit := do
  let i ← t.given
    { letters := [('b', .nothing), ('r', .nothing), ('s', .value)]
      words := [("before", 'b', .nothing), ("regex", 'r', .nothing), ("separator", 's', .value)] }
  let text := (i.value? 's').getD "\n"
  let separator ← if i.has 'r' && text ≠ "\n" then
      if text.isEmpty then t.fail "separator cannot be empty"
      match Regex.read { bareSigns := true } text with
      | .ok (r, _) => pure (Separator.pattern r)
      | .error message => t.fail message
    else pure (Separator.text (if text.isEmpty then #[0] else (Text.toOctets text).toArray))
  let (_, status) ← t.throughInputs (fun _ fd _ => do
    match ← .readToEnd fd with
    | .error .eisdir => return ((), some .einval)
    | .error cause => return ((), some cause)
    | .ok input =>
      let input := input.toArray
      t.put (records separator (i.has 'b') input (input.size + 1) input.size input.size).flatten
      return ((), none)) (orStandard i.operands) () 0
  .exit status

end PipeShell.Programs.Tool
