import PipeShell.Programs.Tool
import PipeShell.Script.Pattern

/-!
# Listing files

The program that lists files and directories: which names it shows, in which order, how they are
written and how they are laid out on lines.

* `Layout.lines` lays names out in columns, in rows, or one on a line.
* `NameStyle.shown` writes a name.
-/

namespace PipeShell.Programs

/-! ### Layout -/

/-- How names are laid out. -/
inductive Layout where
  /-- One on a line. -/
  | single
  /-- In columns that are read downwards. -/
  | down
  /-- In columns that are read across. -/
  | across
  /-- Behind each other, with commas. -/
  | commas
  deriving DecidableEq, Repr

/-- A name that is laid out. -/
structure Label where
  /-- How it is written. -/
  text : String
  /-- How wide it is. -/
  width : Nat
  deriving Repr

/-- How wide a line is, and how far apart tabs are. -/
structure Page where
  /-- The width, or zero if there is no limit. -/
  width : Nat := 80
  /-- The distance of tabs, or zero if there are none. -/
  tab : Nat := 8

namespace Layout

/-- The column that a name belongs to if there are so many columns. -/
def columnOf (downwards : Bool) (names columns index : Nat) : Nat :=
  if downwards then index / ((names + columns - 1) / columns) else index % columns

/-- How wide columns are, gaps between them included. -/
def widths (downwards : Bool) (labels : List Label) (columns : Nat) : List Nat :=
  let placed := labels.zipIdx.map fun (label, index) =>
    (columnOf downwards labels.length columns index, label.width)
  (List.range columns).map fun column =>
    let gap := if column + 1 = columns then 0 else 2
    (placed.filter fun p => p.1 = column).foldl (fun width p => max width (p.2 + gap)) 3

/-- The widths of the columns, as many as fit on a line, of so many at most. -/
def fitting (page : Page) (downwards : Bool) (labels : List Label) : Nat → List Nat
  | 0 => widths downwards labels 1
  | columns + 1 =>
    let found := widths downwards labels (columns + 1)
    if columns = 0 || found.foldl (· + ·) 0 < page.width then found
    else fitting page downwards labels columns

/-- What leads from one place on a line to another one. -/
def indent (page : Page) (to' : Nat) : Nat → Nat → List Char
  | 0, _ => []
  | fuel + 1, place =>
    if to' ≤ place then []
    else if page.tab ≠ 0 && (place + 1) / page.tab < to' / page.tab then
      '\t' :: indent page to' fuel (place + page.tab - place % page.tab)
    else ' ' :: indent page to' fuel (place + 1)

/-- A line of names, given the widths of their columns and the place where it goes on. -/
def row (page : Page) : Nat → List (Label × Nat) → String
  | _, [] => "\n"
  | _, [(label, _)] => label.text ++ "\n"
  | place, (label, width) :: rest =>
    label.text ++ String.ofList (indent page (place + width) width (place + label.width)) ++
      row page (place + width) rest

/-- Names behind each other, with a sign between them; the number is the place on the line. -/
def joined (page : Page) (sign : String) : Nat → List Label → String
  | _, [] => "\n"
  | place, label :: rest =>
    let behind := place + label.width
    match rest with
    | [] => label.text ++ "\n"
    | next :: _ =>
      if page.width = 0 || behind + 2 + next.width < page.width then
        label.text ++ sign ++ " " ++ joined page sign (behind + 2) rest
      else label.text ++ sign ++ "\n" ++ joined page sign 0 rest

/-- Names laid out. -/
def lines (layout : Layout) (page : Page) (labels : List Label) : String :=
  let unlimited : Page := { page with width := 0 }
  if labels.isEmpty then ""
  else match layout with
    | single => String.join (labels.map fun label => label.text ++ "\n")
    | commas => joined page "," 0 labels
    | layout =>
      if page.width = 0 then joined unlimited " " 0 labels
      else
        let downwards := layout = down
        let most := min labels.length ((page.width + 2) / 3)
        let widths := fitting page downwards labels most
        let count := widths.length
        let rows := (labels.length + count - 1) / count
        String.join ((List.range rows).map fun n =>
          let chosen := (labels.zipIdx.filter fun (_, index) =>
            if downwards then index % rows = n else index / count = n).map Prod.fst
          row page 0 (chosen.zip widths))

end Layout

/-! ### Names -/

/-- How names are written. -/
inductive NameStyle where
  /-- As they are. -/
  | literal
  /-- As they are, but for characters that are not shown. -/
  | hidden
  /-- With escapes. -/
  | escaped
  /-- Between quotes, with escapes. -/
  | quoted
  deriving DecidableEq, Repr

/-- A name as it is written. -/
def NameStyle.shown (style : NameStyle) (name : String) : String :=
  let escape (special : Char) (c : Char) : List Char :=
    if c == special || c == '\\' then ['\\', c] else if isShown c then [c] else escapeOf c
  match style with
  | literal => name
  | hidden => String.ofList (name.toList.map fun c => if isShown c then c else '?')
  | escaped => String.ofList (name.toList.flatMap (escape ' '))
  | quoted => "\"" ++ String.ofList (name.toList.flatMap (escape '"')) ++ "\""

namespace Tool

/-- The options of listing. -/
def lsOptions : OptionTable where
  letters := (['1', 'a', 'A', 'b', 'B', 'c', 'C', 'd', 'F', 'f', 'g', 'G', 'h', 'H', 'i', 'k', 'l',
      'L', 'm', 'n', 'N', 'o', 'p', 'q', 'Q', 'r', 'R', 's', 'S', 't', 'u', 'U', 'v', 'x',
      'X'].map fun c => (c, .nothing)) ++ (['I', 'T', 'w'].map fun c => (c, .value))
  words := [("all", 'a', .nothing), ("almost-all", 'A', .nothing), ("directory", 'd', .nothing),
    ("classify", 'F', .maybe), ("recursive", 'R', .nothing), ("reverse", 'r', .nothing),
    ("color", 'K', .maybe), ("escape", 'b', .nothing), ("ignore-backups", 'B', .nothing),
    ("ignore", 'I', .value), ("hide", 'e', .value), ("literal", 'N', .nothing),
    ("quote-name", 'Q', .nothing), ("hide-control-chars", 'q', .nothing),
    ("width", 'w', .value), ("tabsize", 'T', .value), ("file-type", 'y', .nothing),
    ("group-directories-first", 'D', .nothing)]

/-- What stands behind a name in a listing. -/
def nameMark (i : Invocation) (kind : NodeKind) : String :=
  match kind with
  | .directory => if ['F', 'p', 'y'].any i.has then "/" else ""
  | .file true _ _ => if i.has 'F' then "*" else ""
  | _ => ""

/-- A name with what stands at its place. -/
abbrev Entry := String × NodeKind

/-- What stands behind the last dot of a name. -/
def extension (name : String) : String :=
  let behind := name.toList.reverse.takeWhile (· ≠ '.')
  if behind.length = name.length then "" else String.ofList ('.' :: behind.reverse)

/-- Names in the order of a listing. -/
def inOrder (i : Invocation) (entries : List Entry) : List Entry :=
  let size (e : Entry) : Nat :=
    match e.2 with
    | .file _ size _ => size
    | .directory => 4096
    | _ => 0
  let sorted := match i.lastOf? ['U', 'f', 'S', 'X', 't', 'v'] with
    | some 'U' => entries
    | some 'f' => entries
    | some 'S' => entries.mergeSort fun a b => size b < size a || (size a = size b && a.1 ≤ b.1)
    | some 'X' => entries.mergeSort fun a b =>
      extension a.1 < extension b.1 || (extension a.1 = extension b.1 && a.1 ≤ b.1)
    | _ => entries.mergeSort fun a b => a.1 ≤ b.1
  let sorted := if i.has 'r' && !i.has 'U' && !i.has 'f' then sorted.reverse else sorted
  if i.has 'D' then
    let (directories, others) := sorted.partition fun e => match e.2 with
      | .directory => true
      | _ => false
    directories ++ others
  else sorted

/-- How names are written. -/
def nameStyle (i : Invocation) : NameStyle :=
  match i.lastOf? ['b', 'Q', 'N'] with
  | some 'b' => .escaped
  | some 'Q' => .quoted
  | _ => if i.has 'q' then .hidden else .literal

/-- A listing of names. -/
def listing (i : Invocation) (entries : List Entry) : String :=
  let layout : Layout := match i.lastOf? ['1', 'C', 'x', 'm', 'l', 'g', 'n', 'o'] with
    | some 'C' => .down
    | some 'x' => .across
    | some 'm' => .commas
    | _ => .single
  let number (letter : Char) (standard : Nat) : Nat :=
    match (i.value? letter).map (Amount.read []) with
    | some (.ok n) => n
    | some (.error .tooLarge) => 0
    | _ => standard
  let page : Page := { width := number 'w' 80, tab := number 'T' 8 }
  layout.lines page ((inOrder i entries).map fun (name, kind) =>
    let text := (nameStyle i).shown name ++ nameMark i kind
    { text, width := text.toList.countP isShown })

/-- What is said about a path that cannot be listed. -/
def listFailure (t : Tool) (what path : String) (cause : Errno) : Program Unit := do
  let shown := shellQuoted path
  let text := cause.text
  t.warn s!"{what} {shown}: {text}"

/-- Whether a name of a directory is listed. -/
def isListed (i : Invocation) (name : String) : Bool :=
  let fits (text : String) : Bool :=
    let pattern := Script.Pattern.read (text.toList.map fun c => ⟨c, false⟩)
    pattern.isMatch name.toList && (text.startsWith "." || !name.startsWith ".")
  let which := i.lastOf? ['a', 'A', 'f']
  let all := which.any (· ≠ 'A')
  (all || (which = some 'A' && name ≠ "." && name ≠ "..") || !name.startsWith ".") &&
    !(i.has 'B' && name.endsWith "~") && !(i.values 'I').any fits &&
    !((i.values 'e').any fits && which.isNone)

/-- Lists a directory, and those in it if that is asked for, so many levels at most. The number
says whether something went wrong; the first part of the state says whether this is the first
listing. -/
def listDirectory (t : Tool) (i : Invocation) (shows : Bool) :
    Nat → String → Bool × Nat → Program (Bool × Nat)
  | 0, _, state => return state
  | levels + 1, path, (isFirst, status) => do
    match ← Program.names path with
    | .error cause =>
      t.listFailure "cannot open directory" path cause
      return (isFirst, 2)
    | .ok names =>
      let inside (name : String) : String :=
        if path.endsWith "/" then path ++ name else path ++ "/" ++ name
      let entries ← (("." :: ".." :: names).filter (isListed i)).mapM fun name => do
        match ← Program.examine (inside name) with
        | .ok kind => return (name, kind)
        | .error _ => return (name, NodeKind.file false 0 0)
      if shows then
        let heading := (nameStyle i).shown path
        t.say ((if isFirst then "" else "\n") ++ heading ++ ":\n")
      t.say (listing i entries)
      if i.has 'R' then
        ((inOrder i entries).filter fun e => e.1 ≠ "." && e.1 ≠ "..").foldlM (fun state e => do
          match e.2 with
          | .directory => listDirectory t i shows levels (inside e.1) state
          | _ => return state) (false, status)
      else return (false, status)

/-- Lists files and directories. -/
def ls (t : Tool) : Program Unit := do
  let i ← t.givenWith lsOptions fun letter text => do
    if letter == 'w' then
      match Amount.read [] text with
      | .error .invalid => t.badNumber "invalid line width" text none
      | _ => pure ()
    if letter == 'T' then
      let _ ← t.amount [] "invalid tab size" text
  let (entries, status) ← (if i.operands.isEmpty then ["."] else i.operands).foldlM
    (fun (entries, status) path => do
      match ← Program.examine path with
      | .error cause =>
        t.listFailure "cannot access" path cause
        return (entries, 2)
      | .ok kind => return (entries ++ [(path, kind)], status)) (([], 0) : List Entry × Nat)
  let (directories, files) := entries.partition fun e => match e.2 with
    | .directory => !i.has 'd'
    | _ => false
  t.say (listing i files)
  let shows := 1 < i.operands.length || i.has 'R'
  let (_, status) ← (inOrder i directories).foldlM (fun state e =>
    listDirectory t i shows 1000 e.1 state) (files.isEmpty, status)
  .exit status

end Tool

end PipeShell.Programs
