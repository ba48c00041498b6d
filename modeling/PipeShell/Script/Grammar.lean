import PipeShell.Script.Reader

/-!
# Commands of a script

The grammar of commands. Commands may stand inside one another and inside words, so every reader
is given the readers of the level below (`Grammar`), and `grammar` closes the circle for as many
levels as a text can have.

`readLine` reads the commands on one line, which is how a script is read and run.
-/

namespace PipeShell.Script

/-- Where a list of commands stands. -/
inductive ListPlace where
  /-- On a line of its own: the end of the line ends it. -/
  | line
  /-- Inside a command. -/
  | body
  /-- Inside a command where it may be missing. -/
  | clause
  deriving DecidableEq, Repr

/-- A list of commands that has been read. -/
structure CommandList where
  /-- The commands, if there are any. -/
  command : Option Command
  /-- Whether the script ends behind them. -/
  isLast : Bool

/-- The command, or none at all. -/
def CommandList.body (l : CommandList) : Command :=
  l.command.getD .nothing

/-- The readers of what may stand inside a command. -/
structure Grammar where
  /-- Reads a list of commands. -/
  list : ListPlace → Parse CommandList
  /-- Reads one command. -/
  command : Parse Command

namespace Grammar

/-- The readers of what may stand inside a word. -/
def nested (g : Grammar) : Nested where
  commands := do
    let l ← g.list .clause
    match ← readRawToken with
    | .operator ")" => return l.body
    | token => unexpected token (some (.operator ")"))
  script := do
    let l ← g.list .clause
    match ← readRawToken with
    | .ending => return l.body
    | token => unexpected token none
where
  /-- Reads the token that has been pushed back behind a list. -/
  readRawToken : Parse Token := do
    let r ← get
    set { r with pushed := none }
    return r.pushed.getD .ending

/-- Reads a token. -/
def token (g : Grammar) (place : TokenPlace) : Parse Token :=
  readToken g.nested place

/-- Reads a keyword, and nothing else. -/
def expectKeyword (g : Grammar) (place : TokenPlace) (name : String) : Parse Unit := do
  match ← g.token place with
  | .keyword other =>
    if other = name then return else unexpected (.keyword other) (some (.keyword name))
  | token => unexpected token (some (.keyword name))

/-! ### Simple commands -/

/-- The text of a word without its quotes. -/
def bareText (parts : Word) : String :=
  String.join (parts.map fun
    | .text text _ => text
    | .parameter name _ _ => "$" ++ name
    | _ => "")

/-- Whether something in a word is quoted. -/
def hasQuotes (parts : Word) : Bool :=
  parts.any fun
    | .text _ quoted => quoted
    | _ => false

/-- Reads what a redirection leads to. -/
def readGoal (g : Grammar) (fd : Nat) (kind : RedirectionKind) : Parse Redirection := do
  match ← g.token .inside with
  | .word parts plain =>
    match kind with
    | .file access clobbers => return .mk fd (.file access clobbers parts)
    | .duplicate =>
      match plain.map String.toList with
      | some ['-'] => return .mk fd .closed
      | some [c] => return .mk fd (if c.isDigit then .descriptor (c.toNat - 48) else .named parts)
      | _ => return .mk fd (.named parts)
    | .document dropsTabs =>
      let r ← get
      let number := r.documents.size
      let a : Awaited := ⟨number, bareText parts, hasQuotes parts, dropsTabs⟩
      set { r with documents := r.documents.push [], awaited := r.awaited ++ [a] }
      return .mk fd (.document number)
  | token => unexpected token none

/-- The name and the value of a word that is an assignment. -/
def assignment? (parts : Word) : Option (String × Word) :=
  match parts with
  | .text text false :: rest =>
    let name := text.toList.takeWhile (· ≠ '=')
    match text.toList.dropWhile (· ≠ '=') with
    | '=' :: value =>
      if isName (String.ofList name) then
        some (String.ofList name,
          if value.isEmpty then rest else .text (String.ofList value) false :: rest)
      else none
    | _ => none
  | _ => none

/-- What a simple command consists of so far, last one first. -/
structure Simple where
  assignments : List (String × Word) := []
  words : List Word := []
  redirections : List Redirection := []

/-- The special commands, whose names no function may have. -/
def specialNames : List String :=
  [".", ":", "break", "continue", "eval", "exec", "exit", "export", "local", "readonly",
    "return", "set", "shift", "times", "trap", "unset"]

/-- Reads the rest of a simple command, `fuel` tokens at most. -/
def readSimple (g : Grammar) (line : Nat) : Nat → Simple → Parse Command
  | 0, _ => wrong "end of file unexpected"
  | fuel + 1, s => do
    match ← g.token { hasAliases := s.words.isEmpty } with
    | .word parts plain =>
      match s.words, assignment? parts with
      | [], some a => readSimple g line fuel { s with assignments := a :: s.assignments }
      | words, _ =>
        let next ← g.token .inside
        match next, words, s.assignments, s.redirections with
        | .operator "(", [], [], [] =>
          match ← g.token .inside with
          | .operator ")" =>
            let name := plain.getD ""
            if !isName name || specialNames.contains name then wrong "Bad function name"
            -- the body may stand on a later line
            let line := (← get).line
            let first ← g.token .later
            pushBack first
            return .definition line name (← g.command)
          | token => unexpected token (some (.operator ")"))
        | next, words, _, _ =>
          pushBack next
          readSimple g line fuel { s with words := parts :: words }
    | .redirection fd kind =>
      let r ← g.readGoal fd kind
      readSimple g line fuel { s with redirections := r :: s.redirections }
    | token =>
      pushBack token
      return .simple line s.assignments.reverse s.words.reverse s.redirections.reverse

/-- Reads redirections behind a command, `fuel` of them at most. -/
def readRedirections (g : Grammar) : Nat → List Redirection → Parse (List Redirection)
  | 0, done => return done.reverse
  | fuel + 1, done => do
    match ← g.token .command with
    | .redirection fd kind => readRedirections g fuel ((← g.readGoal fd kind) :: done)
    | token =>
      pushBack token
      return done.reverse

/-! ### Compound commands -/

/-- Reads the parts of a conditional command behind its first keyword, `fuel` of them at most. -/
def readBranches (g : Grammar) : Nat → Parse Command
  | 0 => wrong "end of file unexpected"
  | fuel + 1 => do
    let test ← g.list .body
    g.expectKeyword .command "then"
    let yes ← g.list .body
    match ← g.token .command with
    | .keyword "elif" => return .branch test.body yes.body (← readBranches g fuel)
    | .keyword "else" => return .branch test.body yes.body (← g.list .body).body
    | token =>
      pushBack token
      return .branch test.body yes.body .nothing

/-- Reads the words that a loop goes through, `fuel` of them at most. -/
def readWords (g : Grammar) : Nat → List Word → Parse (List Word)
  | 0, done => return done.reverse
  | fuel + 1, done => do
    match ← g.token .inside with
    | .word parts _ => readWords g fuel (parts :: done)
    | .newline =>
      readDocuments g.nested
      return done.reverse
    | .operator ";" => return done.reverse
    | token => unexpected token none

/-- Reads a loop over words behind its keyword. -/
def readForEach (g : Grammar) (line : Nat) : Parse Command := do
  match ← g.token .inside with
  | .word _ (some name) =>
    if !isName name then wrong "Bad for loop variable"
    let words ← match ← g.token .later with
      | .keyword "in" => do pure (some (← readWords g (← budget) []))
      | .operator ";" => pure none
      | token => do
        pushBack token
        pure none
    g.expectKeyword .later "do"
    let body ← g.list .body
    return .forEach line name words body.body
  | _ => wrong "Bad for loop variable"

/-- The word that a token is where a pattern is expected. -/
def patternWord (token : Token) : Parse Word :=
  match token with
  | .word parts _ => return parts
  | .keyword name => return [.text name false]
  | token => unexpected token (some (.word [] none))

/-- Reads the patterns of a clause, `fuel` of them at most. -/
def readPatterns (g : Grammar) : Nat → Token → List Word → Parse (List Word)
  | 0, _, done => return done.reverse
  | fuel + 1, token, done => do
    let word ← patternWord token
    match ← g.token .inside with
    | .operator "|" => readPatterns g fuel (← g.token .inside) (word :: done)
    | .operator ")" => return (word :: done).reverse
    | token => unexpected token (some (.operator ")"))

/-- Reads the clauses of a choice, `fuel` of them at most. -/
def readClauses (g : Grammar) :
    Nat → List (List Word × Command) → Parse (List (List Word × Command))
  | 0, done => return done.reverse
  | fuel + 1, done => do
    match ← g.token .pattern with
    | .keyword "esac" => return done.reverse
    | first =>
      let first ← match first with
        | .operator "(" => g.token .inside
        | token => pure token
      let patterns ← readPatterns g (← budget) first []
      let body ← g.list .clause
      let done := (patterns, body.body) :: done
      match ← g.token .later with
      | .keyword "esac" => return done.reverse
      | .operator ";;" => readClauses g fuel done
      | token => unexpected token (some (.operator ";;"))

/-- Reads a choice behind its keyword. -/
def readChoice (g : Grammar) (line : Nat) : Parse Command := do
  match ← g.token .inside with
  | .word word _ =>
    g.expectKeyword .later "in"
    return .choice line word (← readClauses g (← budget) [])
  | token => unexpected token (some (.word [] none))

/-- Reads redirections behind a command, which they are then about. -/
def withRedirections (g : Grammar) (line : Nat) (command : Command) : Parse Command := do
  match ← g.readRedirections (← budget) [], command with
  | [], command => return command
  | redirections, .subshell line body _ => return .subshell line body redirections
  | redirections, command => return .redirected line command redirections

/-- Reads a loop behind its keyword. -/
def readLoop (g : Grammar) (negated : Bool) : Parse Command := do
  let test ← g.list .body
  g.expectKeyword .command "do"
  let body ← g.list .body
  g.expectKeyword .command "done"
  return .loop negated test.body body.body

/-- Reads one command. -/
def readCommand (g : Grammar) : Parse Command := do
  let token ← g.token .command
  let line := (← get).line
  match token with
  | .keyword "if" =>
    let command ← g.readBranches (← budget)
    g.expectKeyword .command "fi"
    g.withRedirections line command
  | .keyword "while" => g.withRedirections line (← g.readLoop false)
  | .keyword "until" => g.withRedirections line (← g.readLoop true)
  | .keyword "for" =>
    let command ← g.readForEach line
    g.expectKeyword .command "done"
    g.withRedirections line command
  | .keyword "case" => g.withRedirections line (← g.readChoice line)
  | .keyword "\x7b" =>
    let body ← g.list .body
    g.expectKeyword .command "\x7d"
    g.withRedirections line body.body
  | .operator "(" =>
    let body ← g.list .body
    match ← g.token .command with
    | .operator ")" => g.withRedirections line (.subshell line body.body [])
    | token => unexpected token (some (.operator ")"))
  | .word parts plain =>
    pushBack (.word parts plain)
    g.readSimple line (← budget) {}
  | .redirection fd kind =>
    pushBack (.redirection fd kind)
    g.readSimple line (← budget) {}
  | token => unexpected token none

/-! ### Lists of commands -/

/-- Reads the rest of commands that pipes join, `fuel` of them at most. -/
def readPipes (g : Grammar) : Nat → List Command → Parse (List Command)
  | 0, done => return done.reverse
  | fuel + 1, done => do
    match ← g.token .inside with
    | .operator "|" =>
      let first ← g.token .later
      pushBack first
      readPipes g fuel ((← g.readCommand) :: done)
    | token =>
      pushBack token
      return done.reverse

/-- Reads commands that pipes join. -/
def readPipeline (g : Grammar) : Parse Command := do
  let first ← g.token .command
  let negated ← match first with
    | .keyword "!" => pure true
    | token => do
      pushBack token
      pure false
  let command ← match ← g.readPipes (← budget) [← g.readCommand] with
    | [command] => pure command
    | commands => pure (Command.pipeline commands)
  return if negated then .negation command else command

/-- Reads the rest of commands that depend on each other, `fuel` of them at most. -/
def readDependent (g : Grammar) : Nat → Command → Parse Command
  | 0, command => return command
  | fuel + 1, command => do
    match ← g.token .inside with
    | .operator "&&" =>
      let first ← g.token .later
      pushBack first
      readDependent g fuel (.conjunction command (← g.readPipeline))
    | .operator "||" =>
      let first ← g.token .later
      pushBack first
      readDependent g fuel (.disjunction command (← g.readPipeline))
    | token =>
      pushBack token
      return command

/-- Whether a token ends a list of commands. -/
def endsList : Token → Bool
  | .keyword name => ["do", "done", "elif", "else", "esac", "fi", "then", "\x7d"].contains name
  | .operator text => text == ")" || text == ";;"
  | .ending => true
  | _ => false

/-- Reads the rest of a list of commands, `fuel` of them at most. -/
def readRest (g : Grammar) (place : ListPlace) : Nat → Option Command → Parse CommandList
  | 0, soFar => return ⟨soFar, true⟩
  | fuel + 1, soFar => do
    let token ← g.token { TokenPlace.command with skipsLines := place ≠ .line }
    match token with
    | .newline =>
      readDocuments g.nested
      return ⟨soFar, false⟩
    | .ending =>
      pushBack token
      readDocuments g.nested
      return ⟨soFar, true⟩
    | token =>
      pushBack token
      if (place = .clause || (place = .body && soFar.isSome)) && endsList token then
        return ⟨soFar, false⟩
      let command ← readDependent g (← budget) (← g.readPipeline)
      let next ← g.token .inside
      let command := match next with
        | .operator "&" => .background command
        | _ => command
      let soFar := match soFar with
        | none => command
        | some before => .sequence before command
      match next with
      | .operator "&" => readRest g place fuel (some soFar)
      | .operator ";" => readRest g place fuel (some soFar)
      | .newline =>
        pushBack .newline
        readRest g place fuel (some soFar)
      | .ending =>
        pushBack .ending
        readDocuments g.nested
        return ⟨some soFar, true⟩
      | token =>
        if place = .line then unexpected token none
        pushBack token
        return ⟨some soFar, false⟩

/-- Reads a list of commands. -/
def readList (g : Grammar) (place : ListPlace) : Parse CommandList := do
  g.readRest place (← budget) none

/-- The readers for so many levels of commands inside one another. -/
def levels : Nat → Grammar
  | 0 => { list := fun _ => wrong "too many levels", command := wrong "too many levels" }
  | n + 1 =>
    { list := fun place reader => (levels n).readList place reader
      command := fun reader => (levels n).readCommand reader }

end Grammar

/-- Reads the commands on the next line. -/
def readLine (reader : Reader) : Except Fault (CommandList × Reader) :=
  (Grammar.levels (reader.rest.length + 2)).list .line { reader with pushed := none }

/-- A text as a word all of whose characters are quoted, apart from what is to be expanded. -/
def quotedWord (text : String) : Except Fault Word := do
  let g := Grammar.levels (text.length + 2)
  let whole := readRegion g.nested (2 * text.length + 2) 0 .document {}
  let (d, _) ← whole.run { rest := text.toList }
  return d.word

end PipeShell.Script
