import PipeShell.Text.Lines

/-!
# History

The lines that a line editor remembers, oldest first. A history keeps a bounded number of entries,
none of them empty and no two neighbours equal. In its file every entry is one line; a backslash and
a line feed inside an entry are written with a backslash in front. The first line of the file names
the format, and a file without it holds plain lines.

* `History.add` adds an entry.
* `History.ofContent` reads a file, `History.content` writes one.
-/

namespace PipeShell

/-- The lines that have been entered. -/
structure History where
  /-- The entries, oldest first. -/
  entries : List String := []
  /-- Whether an entry has been added that the file lacks. -/
  changed : Bool := false
  deriving DecidableEq, Repr

namespace History

/-- How many entries are kept. -/
def capacity : Nat := 100

/-- The line that names the format. -/
def header : String := "#V2"

/-- Adds an entry, unless it is empty or repeats the one before it. -/
def add (h : History) (entry : String) : History :=
  if entry.isEmpty || h.entries.getLast? == some entry then h
  else
    let kept := h.entries.drop (h.entries.length + 1 - capacity)
    { entries := kept ++ [entry], changed := true }

/-! ### Entries as lines -/

/-- Writes an entry as one line. -/
def escape : List Char → List Char
  | [] => []
  | '\n' :: rest => '\\' :: 'n' :: escape rest
  | '\\' :: rest => '\\' :: '\\' :: escape rest
  | c :: rest => c :: escape rest

/-- Reads an entry from its line; fails on a backslash before anything else. -/
def unescape? : List Char → Option (List Char)
  | [] => some []
  | '\\' :: 'n' :: rest => (unescape? rest).map ('\n' :: ·)
  | '\\' :: '\\' :: rest => (unescape? rest).map ('\\' :: ·)
  | '\\' :: _ => none
  | c :: rest => (unescape? rest).map (c :: ·)

/-- The entry on a line. A line that no entry is written as stands for itself. -/
def entryOf (line : String) : String :=
  match unescape? line.toList with
  | some entry => String.ofList entry
  | none => line

/-! ### Files -/

/-- Adds the entries on the lines of a file, up to the first line that is no text. -/
def addLines (read : String → String) (h : History) : List Bytes → History
  | [] => { h with changed := false }
  | line :: rest =>
    match Text.decode? (Text.dropLineEnd line) with
    | none => h
    | some text => addLines read (h.add (read text)) rest

/-- Reads a history from the content of its file. A history that could be read only in part is
one that the file lacks. -/
def ofContent (content : Bytes) : History :=
  match Text.lines content with
  | [] => {}
  | first :: rest =>
    if Text.decode? (Text.dropLineEnd first) = some header then addLines entryOf {} rest
    else addLines id {} (first :: rest)

/-- The content of the file of a history. -/
def content (h : History) : Bytes :=
  Text.encode (String.join ((header :: h.entries.map fun entry =>
    String.ofList (escape entry.toList)).map fun line => line ++ "\n"))

end History

end PipeShell
