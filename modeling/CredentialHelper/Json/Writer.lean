import CredentialHelper.Json.Value
import CredentialHelper.Number.Shortest

/-!
# Writing JSON

A document is written in ASCII: whatever is no printable ASCII character is escaped by its UTF-16
code units. There are two layouts, one on a single line and one with a line for every item, indented
by two blanks a level. Members keep their order.
-/

namespace CredentialHelper.Json

inductive Layout where
  /-- All on one line, with a blank behind each comma. -/
  | line
  /-- A line for each item. -/
  | block
  deriving DecidableEq, Repr

namespace Writer

def codeUnit (n : Nat) : List Char :=
  ['\\', 'u', Nat.digitChar (n / 4096 % 16), Nat.digitChar (n / 256 % 16),
    Nat.digitChar (n / 16 % 16), Nat.digitChar (n % 16)]

def symbol (s : Symbol) : List Char :=
  let n := s.code
  if n = 0x22 then ['\\', '"']
  else if n = 0x5C then ['\\', '\\']
  else if n = 0x0A then ['\\', 'n']
  else if n = 0x0D then ['\\', 'r']
  else if n = 0x09 then ['\\', 't']
  else if n = 0x0C then ['\\', 'f']
  else if n = 0x08 then ['\\', 'b']
  else if 0x20 ≤ n ∧ n ≤ 0x7E then [Char.ofNat n]
  else if n < 0x10000 then codeUnit n
  else codeUnit (0xD800 + (n - 0x10000) / 0x400) ++ codeUnit (0xDC00 + (n - 0x10000) % 0x400)

def string (t : Text) : List Char := '"' :: t.flatMap symbol ++ ['"']

def integer (n : Int) : List Char := (toString n).toList

def float : Binary64 → List Char
  | .nan => "NaN".toList
  | .infinite negative => (if negative then "-Infinity" else "Infinity").toList
  | x => x.text.toList

def gap (layout : Layout) (level : Nat) : List Char :=
  match layout with
  | .line => []
  | .block => '\n' :: List.replicate (2 * level) ' '

def separator (layout : Layout) (level : Nat) : List Char :=
  match layout with
  | .line => [',', ' ']
  | .block => ',' :: gap .block level

mutual

/-- The text of a value that stands `level` levels deep. -/
def value (layout : Layout) (level : Nat) : Json → List Char
  | .null => "null".toList
  | .bool b => (if b then "true" else "false").toList
  | .int n => integer n
  | .float x => float x
  | .string t => string t
  | .array [] => ['[', ']']
  | .array (v :: rest) =>
    '[' :: gap layout (level + 1) ++ value layout (level + 1) v ++ items layout (level + 1) rest ++
      gap layout level ++ [']']
  | .object [] => ['\x7b', '\x7d']
  | .object ((k, v) :: rest) =>
    '\x7b' :: gap layout (level + 1) ++ (string k ++ ':' :: ' ' :: value layout (level + 1) v) ++
      members layout (level + 1) rest ++ gap layout level ++ ['\x7d']

def items (layout : Layout) (level : Nat) : List Json → List Char
  | [] => []
  | v :: rest => separator layout level ++ value layout level v ++ items layout level rest

def members (layout : Layout) (level : Nat) : List (Text × Json) → List Char
  | [] => []
  | (k, v) :: rest =>
    separator layout level ++ (string k ++ ':' :: ' ' :: value layout level v) ++
      members layout level rest

end

end Writer

def render (layout : Layout) (v : Json) : String := String.ofList (Writer.value layout 0 v)

end CredentialHelper.Json
