import CredentialHelper.Identity

/-!
# The form of a command

What the command line offers, and the pages that explain it. A page has at most 78 columns, and two
columns side by side stand two blanks apart.
-/

namespace CredentialHelper.CommandLine

structure Flag where
  name : String
  /-- What stands for the value of the option; none if it takes no value. -/
  value : Option String
  summary : String
  deriving DecidableEq, Repr

structure Form where
  /-- The words that lead to the command. -/
  path : String
  summary : String
  /-- Its own options. Every command has `--help` besides. -/
  flags : List Flag
  /-- The names and summaries of the commands below it; none for a command that does something. -/
  commands : List (String × String)
  deriving DecidableEq, Repr

namespace Flag

def help : Flag := ⟨"--help", none, "Show this message and exit."⟩

def heading (f : Flag) : String :=
  match f.value with
  | none => f.name
  | some value => f.name ++ " " ++ value

end Flag

/-- Puts words into lines of at most `width` characters; `line` is the line so far. -/
def fillFrom (width : Nat) (line : String) : List String → List String
  | [] => [line]
  | word :: rest =>
    if line.length + 1 + word.length ≤ width then fillFrom width (line ++ " " ++ word) rest
    else line :: fillFrom width word rest

def fill (width : Nat) (text : String) : List String :=
  match text.splitOn " " with
  | [] => []
  | word :: rest => fillFrom width word rest

def blanks (n : Nat) : String := String.ofList (List.replicate n ' ')

/-- Two columns side by side: each heading and, in lines of its own width, its explanation. -/
def columns (rows : List (String × String)) : List String :=
  let first := (rows.map fun r => r.1.length).foldl max 0 + 2
  rows.flatMap fun (heading, text) =>
    match fill (78 - first - 2) text with
    | [] => ["  " ++ heading]
    | line :: rest =>
      ("  " ++ heading ++ blanks (first - heading.length) ++ line) ::
        rest.map fun line => blanks (first + 2) ++ line

namespace Form

def allFlags (f : Form) : List Flag := f.flags ++ [Flag.help]

def isGroup (f : Form) : Bool := !f.commands.isEmpty

def usage (f : Form) : String :=
  "Usage: " ++ f.path ++ " [OPTIONS]" ++ (if f.isGroup then " COMMAND [ARGS]..." else "")

def page (f : Form) : String :=
  let options := "Options:" :: columns (f.allFlags.map fun flag => (flag.heading, flag.summary))
  let commands := if f.isGroup then "" :: "Commands:" :: columns f.commands else []
  "\n".intercalate ([f.usage, "", "  " ++ f.summary, ""] ++ options ++ commands) ++ "\n"

def complaint (f : Form) (message : Text) : Text :=
  f.usage ++ "\nTry '" ++ f.path ++ " --help' for help.\n\nError: " ++ message ++ "\n"

end Form

end CredentialHelper.CommandLine
