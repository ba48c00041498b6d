/-!
# Malformed lines

Why a line cannot be run as it stands. Each cause carries what its message shows; the wording is
in `LineError.message` and nowhere else.
-/

namespace PipeShell

/-- What is wrong with a line. -/
inductive LineError where
  /-- A quoted run is not closed. -/
  | unclosedQuote (text : String)
  /-- A command has more words than allowed. -/
  | tooManyWords (text : String) (most : Nat)
  /-- A line has more commands than allowed. -/
  | tooManyStages (most : Nat)
  /-- There is nothing between two delimiters, or beside one. -/
  | emptyStage (index : Nat)
  /-- A word holds the character that ends words in a program's argument list. -/
  | nulInWord (text : String)
  /-- The word that should be an exit status is no number of 32 bits. -/
  | badExitStatus (word : String)
  deriving DecidableEq, Repr

/-- The wording of a malformed line. -/
def LineError.message : LineError → String
  | unclosedQuote text => s!"unclosed quote in command '{text}'"
  | tooManyWords text most => s!"too many arguments in command '{text}' (maximum {most})"
  | tooManyStages most => s!"too many commands in pipeline (maximum {most})"
  | emptyStage index => s!"empty command at position {index} of pipeline"
  | nulInWord text => s!"nul byte in command '{text}'"
  | badExitStatus word => s!"invalid exit status '{word}'"

end PipeShell
