import PipeShell.Machine.Program

/-!
# Scripts as trees

What a script is once it has been read: words with everything in them that has to be expanded,
redirections, and commands. The text of a document that stands behind its command is kept apart,
under a number.
-/

namespace PipeShell.Script

mutual

/-- A part of a word. -/
inductive WordPart where
  /-- Characters as they stand. -/
  | text (text : String) (quoted : Bool)
  /-- A parameter. -/
  | parameter (name : String) (use : Use) (quoted : Bool)
  /-- What commands write. -/
  | output (body : Command) (quoted : Bool)
  /-- The value of an arithmetic expression. -/
  | sum (expression : List WordPart) (quoted : Bool)

/-- What is made of a parameter. -/
inductive Use where
  /-- Its value. -/
  | value
  /-- The length of its value. -/
  | length
  /-- Its value, or a word if there is none. -/
  | fallback (nullToo : Bool) (word : List WordPart)
  /-- Its value, which becomes a word if there is none. -/
  | assign (nullToo : Bool) (word : List WordPart)
  /-- Its value, or a failure if there is none. -/
  | demand (nullToo : Bool) (word : List WordPart)
  /-- A word, if there is a value. -/
  | instead (nullToo : Bool) (word : List WordPart)
  /-- Its value without what a pattern matches at its front. -/
  | trimFront (longest : Bool) (pattern : List WordPart)
  /-- Its value without what a pattern matches at its back. -/
  | trimBack (longest : Bool) (pattern : List WordPart)
  /-- Nothing that can be made. -/
  | bad

/-- What a redirection leads to. -/
inductive Goal where
  /-- A file. -/
  | file (access : Access) (clobbers : Bool) (word : List WordPart)
  /-- What another descriptor refers to. -/
  | descriptor (fd : Nat)
  /-- Nothing: the descriptor is closed. -/
  | closed
  /-- What the descriptor that a word names refers to. -/
  | named (word : List WordPart)
  /-- A document, by its number. -/
  | document (number : Nat)

/-- A redirection. -/
inductive Redirection where
  | mk (fd : Nat) (goal : Goal)

/-- A command. -/
inductive Command where
  /-- No command at all. -/
  | nothing
  /-- Assignments, words and redirections, on a line. -/
  | simple (line : Nat) (assignments : List (String × List WordPart))
    (words : List (List WordPart)) (redirections : List Redirection)
  /-- Commands that pipes join. -/
  | pipeline (commands : List Command)
  /-- A command that nobody waits for. -/
  | background (body : Command)
  /-- A command whose status is turned around. -/
  | negation (body : Command)
  /-- One command after the other. -/
  | sequence (first second : Command)
  /-- The second command if the first one succeeds. -/
  | conjunction (first second : Command)
  /-- The second command if the first one fails. -/
  | disjunction (first second : Command)
  /-- A command in a process of its own. -/
  | subshell (line : Nat) (body : Command) (redirections : List Redirection)
  /-- A command with redirections. -/
  | redirected (line : Nat) (body : Command) (redirections : List Redirection)
  /-- One of two commands, as a first one succeeds or fails. -/
  | branch (test yes no : Command)
  /-- A command again and again, for as long as another one succeeds, or fails. -/
  | loop (negated : Bool) (test body : Command)
  /-- A command for every word; without words, for every argument. -/
  | forEach (line : Nat) (name : String) (words : Option (List (List WordPart))) (body : Command)
  /-- The first command with a pattern that matches a word. -/
  | choice (line : Nat) (word : List WordPart) (cases : List (List (List WordPart) × Command))
  /-- The definition of a function. -/
  | definition (line : Nat) (name : String) (body : Command)

end

/-- A word. -/
abbrev Word := List WordPart

instance : Inhabited Command := ⟨.nothing⟩

/-- Why a script cannot be read. -/
inductive Fault where
  /-- Something is wrong with it, on a line. -/
  | wrong (line : Nat) (message : String)
  /-- It may go on, but what follows is not known yet. -/
  | incomplete
  deriving DecidableEq, Repr

end PipeShell.Script
