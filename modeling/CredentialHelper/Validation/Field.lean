import CredentialHelper.Json.Value
import CredentialHelper.Number.Numeral
import CredentialHelper.Time.Reader
import CredentialHelper.Validation.Report

/-!
# Reading fields

A field is read from a JSON value, where a number or moment may also be written as text. A record
collects the issues of all its fields, so that one report names them all.
-/

namespace CredentialHelper.Validation

abbrev Checked (α : Type) := Except (List Issue) α

namespace Checked

def issues {α : Type} : Checked α → List Issue
  | .ok _ => []
  | .error is => is

end Checked

def field {α : Type} (name : String) (read : Json → Except Rule α) (v : Json) : Checked α :=
  match read v with
  | .ok x => .ok x
  | .error rule => .error [⟨[name], rule⟩]

def required {α : Type} (name : String) (read : Json → Except Rule α) (members : Members) :
    Checked α :=
  match members.get? (Text.ofString name) with
  | some v => field name read v
  | none => .error [⟨[name], .missing⟩]

def optional {α : Type} (name : String) (read : Json → Except Rule α) (default : α)
    (members : Members) : Checked α :=
  match members.get? (Text.ofString name) with
  | some v => field name read v
  | none => .ok default

def readText : Json → Except Rule Text
  | .string t => .ok t
  | _ => .error .string

def readString (v : Json) : Except Rule String :=
  match readText v with
  | .error rule => .error rule
  | .ok t =>
    match t.toString? with
    | some s => .ok s
    | none => .error .unicodeString

def numberRule (flaw : MomentReader.Flaw) : Rule := .momentText flaw.message

/-- The rule that a text breaks which is no moment. A date without a time would do as well, unless
the text can be read and its year is no year. -/
def textRule (flaw : MomentReader.Flaw) : Rule :=
  if flaw = .yearRange then .momentText flaw.message else .dateText flaw.message

/-- Integers beyond the floating-point numbers are no moments at all. -/
def readMoment : Json → Except Rule Moment
  | .string t =>
    match t.toString? with
    | some s => (MomentReader.ofString s).mapError textRule
    | none => .error .unicodeString
  | .int n =>
    match Binary64.ofInt n with
    | .infinite _ => .error .moment
    | _ => (MomentReader.ofInt n).mapError numberRule
  | .float x => (MomentReader.ofFloat x).mapError numberRule
  | _ => .error .moment

def readOptionalMoment : Json → Except Rule (Option Moment)
  | .null => .ok none
  | v => (readMoment v).map some

/-! ## Integers -/

/-- An integer in plain notation: no zero in front of other digits. The sign and the digits may be
4300 characters, and more of them are too many whatever follows. -/
def plainInteger (cs : List Char) : Except Rule Int :=
  let body := if cs.head? == some '-' then cs.drop 1 else cs
  let digits := body.takeWhile Char.isDigit
  let others := body.dropWhile Char.isDigit
  if digits.head? == some '0' then
    if digits.length = 1 && others.isEmpty then .ok 0 else .error .integerText
  else if 4300 < cs.length - others.length then .error .integerTextSize
  else if digits.isEmpty || !others.isEmpty then .error .integerText
  else
    let n : Int := digits.foldl (fun n c => n * 10 + (c.toNat - 48)) 0
    .ok (if cs.head? == some '-' then -n else n)

/-- What is left behind zeros in front of an integer, of which `last` is the latest. Underscores
between them are passed over, and one symbol stays in front of a point or at the end. -/
def behindZeros (last : Char) : List Char → Option (List Char)
  | [] => some [last]
  | c :: cs =>
    if c = '0' ∨ c = '_' then behindZeros c cs
    else if c = '.' then some (last :: c :: cs)
    else if c = '-' ∨ c.isDigit then some (c :: cs)
    else none

def withoutZeros : List Char → Option (List Char)
  | [] => none
  | c :: cs =>
    if c = '0' then behindZeros c cs
    else if c = '-' ∨ c.isDigit then some (c :: cs)
    else none

def withoutPlaces (cs : List Char) : List Char :=
  match cs.dropWhile (· != '.') with
  | _ :: place :: places =>
    if (place :: places).all (· == '0') then cs.takeWhile (· != '.') else cs
  | _ => cs

/-- An integer without its underscores, if they stand one by one between other characters. -/
def withoutUnderscores (cs : List Char) : List Char :=
  let atEnd := cs.head? == some '_' || cs.getLast? == some '_'
  let doubled := (cs.zip (cs.drop 1)).any fun p => p.1 == '_' && p.2 == '_'
  if atEnd || doubled then cs else cs.filter (· != '_')

/-- An integer in plain notation, made of one with blanks around it, a plus sign, zeros in front,
zeros behind a point or underscores. -/
def cleanInteger (cs : List Char) : Option (List Char) :=
  let isBlank (c : Char) : Bool := Numeral.isBlank (.char c)
  let trimmed := ((cs.dropWhile isBlank).reverse.dropWhile isBlank).reverse
  let clean (body : List Char) := (withoutZeros body).map (withoutUnderscores ∘ withoutPlaces)
  match trimmed with
  | '+' :: '-' :: _ => none
  | '+' :: body => clean body
  | '-' :: body => (clean body).map ('-' :: ·)
  | body => clean body

def readIntegerText (cs : List Char) : Except Rule Int :=
  match plainInteger cs with
  | .error .integerText =>
    match cleanInteger cs with
    | some cs => plainInteger cs
    | none => .error .integerText
  | outcome => outcome

/-- An integer; a floating-point number has to be less than 2^63 in size. -/
def readInteger : Json → Except Rule Int
  | .int n => .ok n
  | .bool b => .ok (if b then 1 else 0)
  | .float x =>
    match x.toFraction? with
    | none => .error .finiteNumber
    | some (num, den) =>
      if num % den ≠ 0 then .error .wholeNumber
      else if (num / den).natAbs < 9223372036854775808 then .ok (num / den)
      else .error .integerTextSize
  | .string t =>
    match t.toString? with
    | none => .error .unicodeString
    | some s => readIntegerText s.toList
  | _ => .error .integer

def readBounded (bound : Int) (v : Json) : Except Rule Int :=
  match readInteger v with
  | .error rule => .error rule
  | .ok n =>
    if n ≤ 0 then .error (.greaterThan 0)
    else if bound < n then .error (.atMost bound)
    else .ok n

/-- The items of a list, with an issue for each item that is no string. -/
def readTexts (name : String) (v : Json) : Checked (List Text) :=
  match v with
  | .array items =>
    let outcomes := items.map readText
    let issues := (List.range items.length).zip outcomes |>.filterMap fun
      | (i, .error rule) => some ⟨[name, toString i], rule⟩
      | (_, .ok _) => none
    if issues.isEmpty then .ok (outcomes.filterMap fun r => r.toOption) else .error issues
  | _ => .error [⟨[name], .list⟩]

end CredentialHelper.Validation
