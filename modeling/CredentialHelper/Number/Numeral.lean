import CredentialHelper.Text.Blank
import CredentialHelper.Text.DecimalDigit
import CredentialHelper.Text.Quoted

/-!
# Numerals

A numeral is an integer written in decimal digits of any script, with an optional sign in front,
single underscores between digits, and blanks around it. At most 4300 digits are read.
-/

namespace CredentialHelper

inductive NumeralError where
  | malformed (text : Text)
  | long (digits : Nat)
  deriving DecidableEq, Repr

def longIntegerMessage (digits : Nat) : String :=
  "Exceeds the limit (4300 digits) for integer string conversion: value has " ++ toString digits ++
    " digits; use sys.set_int_max_str_digits() to increase the limit"

/-- A malformed numeral is quoted up to 200 characters. -/
def NumeralError.message : NumeralError → String
  | .malformed t =>
    "invalid literal for int() with base 10: " ++ String.ofList ((Quoted.text t).toList.take 200)
  | .long digits => longIntegerMessage digits

namespace Numeral

/-- The blanks around a numeral; of the ASCII characters the information separators are none. -/
def isBlank : Symbol → Bool
  | .char c => Blank.isBlank c && !(decide (0x1C ≤ c.toNat) && decide (c.toNat ≤ 0x1F))
  | .surrogate _ => false

def digit? : Symbol → Option Nat
  | .char c => decimalDigit? c
  | .surrogate _ => none

/-- The digits from the next symbol on, and what follows them; `none` if an underscore does not
stand between two digits. -/
def digits : Text → Option (List Nat × Text)
  | [] => some ([], [])
  | s :: rest =>
    match digit? s with
    | none => if s = .char '_' then none else some ([], s :: rest)
    | some d =>
      match rest with
      | .char '_' :: rest' =>
        match digits rest' with
        | some (d' :: ds, tail) => some (d :: d' :: ds, tail)
        | _ => none
      | rest => (digits rest).map fun (ds, tail) => (d :: ds, tail)

def ofDigits (ds : List Nat) : Nat := ds.foldl (fun n d => n * 10 + d) 0

def parse (t : Text) : Except NumeralError Int :=
  let (negative, body) : Bool × Text := match t.dropWhile isBlank with
    | .char '-' :: rest => (true, rest)
    | .char '+' :: rest => (false, rest)
    | rest => (false, rest)
  match digits body with
  | none => .error (.malformed t)
  | some ([], _) => .error (.malformed t)
  | some (ds, tail) =>
    if 4300 < ds.length then .error (.long ds.length)
    else if (tail.dropWhile isBlank).isEmpty then
      .ok (if negative then -(ofDigits ds : Int) else ofDigits ds)
    else .error (.malformed t)

end Numeral

end CredentialHelper
