import PipeShell.Command.Piece

/-!
# The words of a command

A command is read once from left to right. Blanks separate bare words; a quoted run is a word of
its own, even when it is empty or touches another word, and is taken as it stands. A backslash
before a double quote stands for the quote, inside and outside runs; any other backslash stands
for itself.

* `Scan` is what has been read: the finished words and the word or run in progress.
* `readWords` reads a whole command. The limit is checked whenever a word is finished, so of two
  faults the one that is met first is reported.
-/

namespace PipeShell

/-- The characters that separate bare words: space, tab, line feed and carriage return. -/
def isBlank (c : Char) : Bool :=
  c == ' ' || c == '\t' || c == '\n' || c == '\r'

/-- Why a command cannot be read as words. -/
inductive WordFault where
  /-- There are more words than allowed. -/
  | tooMany
  /-- A quoted run is not closed. -/
  | unclosed
  deriving DecidableEq, Repr

/-- What is being read, last character first. -/
inductive Reader where
  /-- Blanks, between words. -/
  | between
  /-- A bare word. -/
  | word (read : List Char)
  /-- A quoted run. -/
  | run (read : List Char)
  deriving Repr

/-- The finished words, last one first, and what is being read. -/
structure Scan where
  /-- The finished words, last one first. -/
  finished : List String := []
  /-- What is being read. -/
  reader : Reader := .between
  deriving Repr

namespace Scan

/-- Adds a finished word, given last character first, if the limit admits it. -/
def finish (most : Nat) (s : Scan) (read : List Char) (reader : Reader) :
    Except WordFault Scan :=
  if s.finished.length = most then .error .tooMany
  else .ok ⟨String.ofList read.reverse :: s.finished, reader⟩

/-- Ends a bare word, if there is one, and goes on with `reader`. -/
def flush (most : Nat) (s : Scan) (reader : Reader) : Except WordFault Scan :=
  match s.reader with
  | .word read => s.finish most read reader
  | _ => .ok { s with reader }

/-- Takes a character that stands for itself into what is being read. -/
def take (s : Scan) (c : Char) : Scan :=
  match s.reader with
  | .between => { s with reader := .word [c] }
  | .word read => { s with reader := .word (c :: read) }
  | .run read => { s with reader := .run (c :: read) }

/-- Reads one character that is not the backslash before a quote. -/
def next (most : Nat) (s : Scan) (c : Char) : Except WordFault Scan :=
  match s.reader with
  | .run read => if c = quote then s.finish most read .between else .ok (s.take c)
  | _ =>
    if c = quote then s.flush most (.run [])
    else if isBlank c then s.flush most .between
    else .ok (s.take c)

/-- Reads a text to its end. -/
def run (most : Nat) (s : Scan) : List Char → Except WordFault Scan
  | [] =>
    match s.reader with
    | .run _ => .error .unclosed
    | _ => s.flush most .between
  | [c] => do (← s.next most c).run most []
  | c :: d :: rest =>
    if c = escape ∧ d = quote then (s.take quote).run most rest
    else do (← s.next most c).run most (d :: rest)

end Scan

/-- The words of a command, of which there may be `most`. -/
def readWords (most : Nat) (text : String) : Except LineError (List String) :=
  match Scan.run most {} text.toList with
  | .ok s => .ok s.finished.reverse
  | .error .tooMany => .error (.tooManyWords text most)
  | .error .unclosed => .error (.unclosedQuote text)

end PipeShell
