import CredentialHelper.Json.Value
import CredentialHelper.Number.Shortest
import CredentialHelper.Text.Quoted

/-!
# Literal notation

The form in which a message shows data: quoted texts, `None`, `True` and `False`, brackets and
braces with a comma and a blank between items, and parentheses around a tuple.
-/

namespace CredentialHelper.Literal

def commaSeparated (parts : List String) : String := String.intercalate ", " parts

mutual

def value : Json → String
  | .null => "None"
  | .bool b => if b then "True" else "False"
  | .int n => toString n
  | .float x => x.text
  | .string t => Quoted.text t
  | .array xs => "[" ++ commaSeparated (items xs) ++ "]"
  | .object ms => "\x7b" ++ commaSeparated (members ms) ++ "\x7d"

def items : List Json → List String
  | [] => []
  | v :: rest => value v :: items rest

def members : List (Text × Json) → List String
  | [] => []
  | (k, v) :: rest => (Quoted.text k ++ ": " ++ value v) :: members rest

end

def nature : Json → String
  | .null => "NoneType"
  | .bool _ => "bool"
  | .int _ => "int"
  | .float _ => "float"
  | .string _ => "str"
  | .array _ => "list"
  | .object _ => "dict"

def texts (xs : List Text) : String := "[" ++ commaSeparated (xs.map Quoted.text) ++ "]"

def tuple : List String → String
  | [x] => "(" ++ x ++ ",)"
  | xs => "(" ++ commaSeparated xs ++ ")"

end CredentialHelper.Literal
