import CredentialHelper.CommandLine.Form
import CredentialHelper.Similarity
import CredentialHelper.Text.Quoted

/-!
# Reading arguments

The arguments of a command are options, each with its value in the same argument or in the next one,
and other words. Two dashes alone end the options, and in front of a command below so does the first
other word. Reading ends early on a wish for help and on wrong usage.
-/

namespace CredentialHelper.CommandLine

inductive Early where
  /-- Help was asked for. -/
  | help (form : Form)
  /-- There were no arguments where one is needed. -/
  | menu (form : Form)
  /-- The arguments are wrong; the usage is shown if it belongs to a form. -/
  | misuse (form : Option Form) (message : Text)
  deriving Repr

structure Given where
  flag : Flag
  value : Option Text
  deriving DecidableEq, Repr

/-- What arguments say: options in order, and the other words. -/
structure Reading where
  given : List Given
  words : List Text
  deriving DecidableEq, Repr

namespace Reading

def empty : Reading := ⟨[], []⟩

def withGiven (g : Given) (r : Reading) : Reading := { r with given := g :: r.given }

def withWord (w : Text) (r : Reading) : Reading := { r with words := w :: r.words }

def asksHelp (r : Reading) : Bool := r.given.any fun g => g.flag = Flag.help

def has (name : String) (r : Reading) : Bool := r.given.any fun g => g.flag.name = name

/-- The value of an option; the last one counts. -/
def value? (name : String) (r : Reading) : Option Text :=
  (r.given.reverse.find? fun g => g.flag.name = name).bind Given.value

end Reading

def suggestion (name : Text) (known : List String) : String :=
  match Similarity.closest name (known.map Text.ofString) 3
      (.real (Binary64.ofDecimal false 6 (-1))) with
  | .ok [similar] => " Did you mean " ++ Quoted.text similar ++ "?"
  | .ok (a :: b :: rest) =>
    let names := (a :: b :: rest).mergeSort Text.precedes
    " (Did you mean one of: " ++ ", ".intercalate (names.map Quoted.text) ++ "?)"
  | _ => ""

def noSuchOption (form : Form) (name : Text) (similarTo : List String) : Early :=
  .misuse (some form)
    ("No such option " ++ Quoted.text name ++ "." ++ suggestion name similarTo)

/-- An option begins with a dash, and a dash alone is a word. -/
def isOption (argument : Text) : Bool :=
  argument.head? == some (.char '-') && decide (1 < argument.length)

def splitOption (argument : Text) : Text × Option Text :=
  match argument.dropWhile (Symbol.isNot '=') with
  | [] => (argument, none)
  | _ :: value => (argument.takeWhile (Symbol.isNot '='), some value)

/-- The option that an argument names, and the value in it. With a single dash the first letter
behind it counts as the name. -/
def readOption (form : Form) (argument : Text) : Except Early (Flag × Option Text) :=
  let (name, value) := splitOption argument
  match form.allFlags.find? fun flag => flag.name = name with
  | some flag => .ok (flag, value)
  | none =>
    match argument with
    | .char '-' :: .char '-' :: _ =>
      .error (noSuchOption form name (form.allFlags.map Flag.name))
    | .char '-' :: letter :: _ => .error (noSuchOption form [.char '-', letter] [])
    | _ => .error (noSuchOption form name [])

def scan (form : Form) : List Text → Except Early Reading
  | [] => .ok Reading.empty
  | argument :: rest =>
    if argument = "--" then .ok ⟨[], rest⟩
    else if isOption argument then
      match readOption form argument with
      | .error e => .error e
      | .ok (flag, value) =>
        match flag.value, value with
        | none, none => (scan form rest).map (Reading.withGiven ⟨flag, none⟩)
        | none, some _ =>
          .error (.misuse none ("Option " ++ Quoted.string flag.name ++ " does not take a value."))
        | some _, some value => (scan form rest).map (Reading.withGiven ⟨flag, some value⟩)
        | some _, none =>
          match rest with
          | [] =>
            .error (.misuse none ("Option " ++ Quoted.string flag.name ++ " requires an argument."))
          | value :: rest => (scan form rest).map (Reading.withGiven ⟨flag, some value⟩)
    else if form.isGroup then .ok ⟨[], argument :: rest⟩
    else (scan form rest).map (Reading.withWord argument)

def scanUnlessHelp (form : Form) (arguments : List Text) : Except Early Reading := do
  let reading ← scan form arguments
  if reading.asksHelp then throw (.help form) else return reading

def readLeaf (form : Form) (arguments : List Text) : Except Early Reading := do
  let reading ← scanUnlessHelp form arguments
  match reading.words with
  | [] => return reading
  | words =>
    let ending := if words.length = 1 then "" else "s"
    throw (.misuse (some form)
      ("Got unexpected extra argument" ++ ending ++ " (" ++ Text.join " " words ++ ")"))

def readChoice {α : Type} (form : Form) (choose : Text → Option α) (arguments : List Text) :
    Except Early (α × List Text) := do
  if arguments.isEmpty then throw (.menu form)
  let reading ← scanUnlessHelp form arguments
  match reading.words with
  | [] => throw (.misuse (some form) "Missing command.")
  | name :: rest =>
    match choose name with
    | some choice => return (choice, rest)
    | none =>
      -- a word behind two dashes is read as an option once more
      let _ ← scanUnlessHelp form (name :: rest)
      throw (.misuse (some form) ("No such command " ++ Quoted.text name ++ "." ++
        suggestion name (form.commands.map (·.1))))

end CredentialHelper.CommandLine
