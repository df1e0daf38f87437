import CredentialHelper.Json.Value

/-!
# Reading JSON

`Json.parse` accepts the standard's documents and besides them `NaN`, `Infinity` and `-Infinity`.
An escape may name one half of a surrogate pair alone. A document is refused at the first place
that no longer document could have, and `SyntaxError` names that place by offset, line and column.
Integers of more than 4300 digits and nesting deeper than 990 levels are refused as well.
-/

namespace CredentialHelper

inductive SyntaxFlaw where
  | expectingValue
  | expectingName
  | expectingColon
  | expectingComma
  | extraData
  | controlCharacter
  | badEscape
  | badCodeUnit
  | unterminated
  | byteOrderMark
  deriving DecidableEq, Repr

def SyntaxFlaw.message : SyntaxFlaw → String
  | .expectingValue => "Expecting value"
  | .expectingName => "Expecting property name enclosed in double quotes"
  | .expectingColon => "Expecting ':' delimiter"
  | .expectingComma => "Expecting ',' delimiter"
  | .extraData => "Extra data"
  | .controlCharacter => "Invalid control character at"
  | .badEscape => "Invalid \\escape"
  | .badCodeUnit => "Invalid \\uXXXX escape"
  | .unterminated => "Unterminated string starting at"
  | .byteOrderMark => "Unexpected UTF-8 BOM (decode using utf-8-sig)"

/-- A document that is not JSON. Lines and columns count from one. -/
structure SyntaxError where
  flaw : SyntaxFlaw
  offset : Nat
  line : Nat
  column : Nat
  deriving DecidableEq, Repr

def SyntaxError.message (e : SyntaxError) : String :=
  e.flaw.message ++ ": line " ++ toString e.line ++ " column " ++ toString e.column ++
    " (char " ++ toString e.offset ++ ")"

inductive ParseError where
  | malformed (e : SyntaxError)
  /-- An integer of more digits than are read. -/
  | longInteger (digits : Nat)
  /-- An array, or else an object, inside too many others. -/
  | tooDeep (isArray : Bool)
  deriving DecidableEq, Repr

namespace Json

def maxDigits : Nat := 4300

/-- The number of arrays and objects that may stand around a value. It is what the limit of 1000
nested calls in release 3.11 of the runtime leaves to a reader that few other calls stand around.
Later releases read some ten times as many. -/
def maxDepth : Nat := 990

namespace Reader

/-- A failure, placed by the number of symbols from it to the end of the document. -/
inductive Failure where
  | flaw (flaw : SyntaxFlaw) (remaining : Nat)
  | longInteger (digits : Nat)
  | tooDeep (isArray : Bool)
  deriving DecidableEq, Repr

abbrev Result (α : Type) := Except Failure (α × Text)

def isSpace (s : Symbol) : Bool :=
  s == .char ' ' || s == .char '\n' || s == .char '\r' || s == .char '\t'

def skipSpace (t : Text) : Text := t.dropWhile isSpace

def isDigit : Symbol → Bool
  | .char c => c.isDigit
  | .surrogate _ => false

def hexValue? : Symbol → Option Nat
  | .char c =>
    if '0' ≤ c ∧ c ≤ '9' then some (c.toNat - 48)
    else if 'a' ≤ c ∧ c ≤ 'f' then some (c.toNat - 87)
    else if 'A' ≤ c ∧ c ≤ 'F' then some (c.toNat - 55)
    else none
  | .surrogate _ => none

def codeUnit? (a b c d : Symbol) : Option Nat := do
  let a ← hexValue? a
  let b ← hexValue? b
  let c ← hexValue? c
  let d ← hexValue? d
  return ((a * 16 + b) * 16 + c) * 16 + d

def simpleEscape? : Symbol → Option Symbol
  | .char '"' => some (.char '"')
  | .char '\\' => some (.char '\\')
  | .char '/' => some (.char '/')
  | .char 'b' => some (.char '\x08')
  | .char 'f' => some (.char '\x0c')
  | .char 'n' => some (.char '\n')
  | .char 'r' => some (.char '\r')
  | .char 't' => some (.char '\t')
  | _ => none

def isHigh (unit : Nat) : Bool := decide (0xD800 ≤ unit) && decide (unit < 0xDC00)

def isLow (unit : Nat) : Bool := decide (0xDC00 ≤ unit) && decide (unit < 0xE000)

def joinPair (high low : Nat) : Symbol :=
  Symbol.ofCode (0x10000 + (high - 0xD800) * 0x400 + (low - 0xDC00))

def prepend (s : Symbol) (r : Result Text) : Result Text :=
  match r with
  | .ok (t, rest) => .ok (s :: t, rest)
  | .error e => .error e

/-- Reads a string behind its opening quote; `opening` counts the symbols from that quote on. -/
def stringBody (opening : Nat) : Text → Result Text
  | [] => .error (.flaw .unterminated opening)
  | s :: rest =>
    if s = .char '"' then .ok ([], rest)
    else if s = .char '\\' then
      match rest with
      | [] => .error (.flaw .unterminated opening)
      | e :: rest =>
        if e = .char 'u' then
          match rest with
          -- a symbol has to follow the four digits, since the string is still open
          | a :: b :: c :: d :: x :: rest =>
            match codeUnit? a b c d with
            | none => .error (.flaw .badCodeUnit (rest.length + 6))
            | some unit =>
              if isHigh unit then
                match rest with
                | y :: a' :: b' :: c' :: d' :: z :: rest' =>
                  if x = .char '\\' ∧ y = .char 'u' then
                    match codeUnit? a' b' c' d' with
                    | none => .error (.flaw .badCodeUnit (rest'.length + 6))
                    | some unit' =>
                      if isLow unit' then
                        prepend (joinPair unit unit') (stringBody opening (z :: rest'))
                      else prepend (Symbol.ofCode unit)
                        (stringBody opening (x :: y :: a' :: b' :: c' :: d' :: z :: rest'))
                  else prepend (Symbol.ofCode unit)
                    (stringBody opening (x :: y :: a' :: b' :: c' :: d' :: z :: rest'))
                | rest => prepend (Symbol.ofCode unit) (stringBody opening (x :: rest))
              else prepend (Symbol.ofCode unit) (stringBody opening (x :: rest))
          | rest => .error (.flaw .badCodeUnit (rest.length + 1))
        else match simpleEscape? e with
          | some s => prepend s (stringBody opening rest)
          | none => .error (.flaw .badEscape (rest.length + 2))
    else if s.code < 0x20 then .error (.flaw .controlCharacter (rest.length + 1))
    else prepend s (stringBody opening rest)

def digitsValue (ds : Text) : Nat := ds.foldl (fun n s => n * 10 + (s.code - 48)) 0

def digits (t : Text) : Text × Text := (t.takeWhile isDigit, t.dropWhile isDigit)

/-- The digits of an integer at the beginning of a text, and the rest. No digit of the same integer
follows a zero in front. -/
def integerDigits : Text → Text × Text
  | .char '0' :: rest => ([.char '0'], rest)
  | t => digits t

/-- The digits behind a point, if a point and a digit come next. -/
def fraction (t : Text) : Option Text × Text :=
  match t with
  | .char '.' :: rest =>
    match digits rest with
    | ([], _) => (none, t)
    | (ds, rest) => (some ds, rest)
  | _ => (none, t)

def exponent (t : Text) : Option Int × Text :=
  match t with
  | .char e :: rest =>
    if e = 'e' ∨ e = 'E' then
      let (negative, rest) : Bool × Text := match rest with
        | .char '-' :: rest => (true, rest)
        | .char '+' :: rest => (false, rest)
        | rest => (false, rest)
      match digits rest with
      | ([], _) => (none, t)
      | (ds, rest) =>
        let n : Int := digitsValue ds
        (some (if negative then -n else n), rest)
    else (none, t)
  | _ => (none, t)

/-- Reads a number; `whole` counts the symbols from its sign on. -/
def number (whole : Nat) (negative : Bool) (t : Text) : Result Json :=
  let (integer, rest) := integerDigits t
  if integer.isEmpty then .error (.flaw .expectingValue whole)
  else
    let (frac, rest) := fraction rest
    let (power, rest) := exponent rest
    if frac.isNone && power.isNone then
      if maxDigits < integer.length then .error (.longInteger integer.length)
      else
        let n : Int := digitsValue integer
        .ok (.int (if negative then -n else n), rest)
    else
      let places := frac.getD []
      .ok (.float (Binary64.ofDecimal negative (digitsValue (integer ++ places))
        (power.getD 0 - places.length)), rest)

def word? (word : String) (t : Text) : Option Text :=
  let w := Text.ofString word
  if t.take w.length = w then some (t.drop w.length) else none

def scalar (t : Text) : Result Json :=
  match word? "null" t, word? "true" t, word? "false" t, word? "NaN" t, word? "Infinity" t,
      word? "-Infinity" t with
  | some rest, _, _, _, _, _ => .ok (.null, rest)
  | _, some rest, _, _, _, _ => .ok (.bool true, rest)
  | _, _, some rest, _, _, _ => .ok (.bool false, rest)
  | _, _, _, some rest, _, _ => .ok (.float .nan, rest)
  | _, _, _, _, some rest, _ => .ok (.float (.infinite false), rest)
  | _, _, _, _, _, some rest => .ok (.float (.infinite true), rest)
  | _, _, _, _, _, _ =>
    match t with
    | .char '-' :: rest => number t.length true rest
    | t => number t.length false t

mutual

/-- Reads a value inside `depth` arrays and objects. Every call consumes fuel, and twice the length
of the text is enough. -/
def value (fuel depth : Nat) (t : Text) : Result Json :=
  match fuel with
  | 0 => .error (.flaw .expectingValue t.length)
  | fuel + 1 =>
    match t with
    | .char '"' :: rest =>
      match stringBody t.length rest with
      | .ok (s, rest) => .ok (.string s, rest)
      | .error e => .error e
    | .char '[' :: rest =>
      if maxDepth ≤ depth then .error (.tooDeep true)
      else match skipSpace rest with
        | .char ']' :: rest => .ok (.array [], rest)
        | rest => items fuel (depth + 1) [] rest
    | .char '{' :: rest =>
      if maxDepth ≤ depth then .error (.tooDeep false)
      else match skipSpace rest with
        | .char '}' :: rest => .ok (.object [], rest)
        | rest => members fuel (depth + 1) [] rest
    | t => scalar t

/-- Reads the items of an array from the next one on; `read` holds those before it, last first. -/
def items (fuel depth : Nat) (read : List Json) (t : Text) : Result Json :=
  match fuel with
  | 0 => .error (.flaw .expectingValue t.length)
  | fuel + 1 =>
    match value fuel depth t with
    | .error e => .error e
    | .ok (v, rest) =>
      match skipSpace rest with
      | .char ']' :: rest => .ok (.array (v :: read).reverse, rest)
      | .char ',' :: rest => items fuel depth (v :: read) (skipSpace rest)
      | rest => .error (.flaw .expectingComma rest.length)

def members (fuel depth : Nat) (read : Members) (t : Text) : Result Json :=
  match fuel with
  | 0 => .error (.flaw .expectingValue t.length)
  | fuel + 1 =>
    match t with
    | .char '"' :: rest =>
      match stringBody t.length rest with
      | .error e => .error e
      | .ok (key, rest) =>
        match skipSpace rest with
        | .char ':' :: rest =>
          match value fuel depth (skipSpace rest) with
          | .error e => .error e
          | .ok (v, rest) =>
            match skipSpace rest with
            | .char '}' :: rest => .ok (.object (read.insert key v), rest)
            | .char ',' :: rest => members fuel depth (read.insert key v) (skipSpace rest)
            | rest => .error (.flaw .expectingComma rest.length)
        | rest => .error (.flaw .expectingColon rest.length)
    | t => .error (.flaw .expectingName t.length)

end

def locate (document : Text) (flaw : SyntaxFlaw) (remaining : Nat) : SyntaxError :=
  let offset := document.length - remaining
  let before := document.take offset
  let lineStart := before.reverse.takeWhile (· != .char '\n')
  ⟨flaw, offset, before.count (.char '\n') + 1, lineStart.length + 1⟩

def document (t : Text) : Except Failure Json :=
  match t with
  | .char '\ufeff' :: _ => .error (.flaw .byteOrderMark t.length)
  | t =>
    match value (2 * t.length + 2) 0 (skipSpace t) with
    | .error e => .error e
    | .ok (v, rest) =>
      match skipSpace rest with
      | [] => .ok v
      | rest => .error (.flaw .extraData rest.length)

end Reader

def parse (t : Text) : Except ParseError Json :=
  match Reader.document t with
  | .ok v => .ok v
  | .error (.flaw flaw remaining) => .error (.malformed (Reader.locate t flaw remaining))
  | .error (.longInteger digits) => .error (.longInteger digits)
  | .error (.tooDeep isArray) => .error (.tooDeep isArray)

def parseString (s : String) : Except ParseError Json := parse (Text.ofString s)

end Json

end CredentialHelper
