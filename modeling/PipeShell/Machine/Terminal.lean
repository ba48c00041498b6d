import PipeShell.System.Interaction
import PipeShell.Text.Lines

/-!
# Terminals

A terminal hands over what has been typed line by line: a reader gets at most one line, and the
end-of-file key gives a reader that is waiting nothing at all, or the line so far if one has been
begun. A line editor may take single keys instead.

* `Terminal.ofTyped` is a terminal where octets have been typed.
* `Terminal.read?` is one read.
-/

namespace PipeShell

/-- What a reader may get at once. -/
inductive Typed where
  /-- A line with its end, or one that the end-of-file key has cut. -/
  | line (bytes : Bytes)
  /-- The end-of-file key on an empty line. -/
  | endOfFile
  deriving DecidableEq, Repr

/-- A terminal. -/
structure Terminal where
  /-- What has been typed and not been read, in lines. -/
  typed : List Typed := []
  /-- What has been typed for a line editor, in keys. -/
  keys : List Char := []
  /-- Whether a reader is refused, and does not wait, when nothing is there. -/
  refuses : Bool := false
  deriving Repr

namespace Terminal

/-- The octet that the end-of-file key types. -/
def endOfFileKey : UInt8 := 4

/-- What readers may get of typed octets. The line that has begun is given last octet first; as
long as its end has not been typed, nobody gets it. -/
def cutTyped (line : Bytes) : Bytes → List Typed
  | [] => []
  | b :: rest =>
    if b = Text.lineFeed then .line (b :: line).reverse :: cutTyped [] rest
    else if b = endOfFileKey then
      (if line.isEmpty then .endOfFile else .line line.reverse) :: cutTyped [] rest
    else cutTyped (b :: line) rest

/-- A terminal where octets have been typed. -/
def ofTyped (bytes : Bytes) : Terminal :=
  { typed := cutTyped [] bytes }

/-- One read of at most `size` octets; none if the reader has to wait. -/
def read? (t : Terminal) (size : Nat) : Option (Except Errno Bytes × Terminal) :=
  match t.typed with
  | [] => if t.refuses then some (.error .eagain, t) else none
  | .endOfFile :: rest => some (.ok [], { t with typed := rest })
  | .line bytes :: rest =>
    let left := bytes.drop size
    some (.ok (bytes.take size),
      { t with typed := if left.isEmpty then rest else .line left :: rest })

end Terminal

end PipeShell
