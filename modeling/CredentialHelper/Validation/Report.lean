/-!
# Validation reports

A record that does not have the form it should have is refused with one issue for each field at
fault, in the order of the fields. An issue says where it lies, which rule is broken, and names
the rule by a tag.
-/

namespace CredentialHelper.Validation

inductive Rule where
  | missing
  | string
  | unicodeString
  | moment
  | momentText (reason : String)
  | dateText (reason : String)
  | record (name : String)
  | integer
  | integerText
  | integerTextSize
  | wholeNumber
  | finiteNumber
  | greaterThan (bound : Int)
  | atMost (bound : Int)
  | pattern (text : String)
  | list
  deriving DecidableEq, Repr

namespace Rule

def message : Rule → String
  | .missing => "Field required"
  | .string => "Input should be a valid string"
  | .unicodeString => "Input should be a valid string, unable to parse raw data as a unicode string"
  | .moment => "Input should be a valid datetime"
  | .momentText reason => "Input should be a valid datetime, " ++ reason
  | .dateText reason => "Input should be a valid datetime or date, " ++ reason
  | .record name => "Input should be a valid dictionary or instance of " ++ name
  | .integer => "Input should be a valid integer"
  | .integerText => "Input should be a valid integer, unable to parse string as an integer"
  | .integerTextSize => "Unable to parse input string as an integer, exceeded maximum size"
  | .wholeNumber => "Input should be a valid integer, got a number with a fractional part"
  | .finiteNumber => "Input should be a finite number"
  | .greaterThan bound => "Input should be greater than " ++ toString bound
  | .atMost bound => "Input should be less than or equal to " ++ toString bound
  | .pattern text => "String should match pattern '" ++ text ++ "'"
  | .list => "Input should be a valid list"

def tag : Rule → String
  | .missing => "missing"
  | .string => "string_type"
  | .unicodeString => "string_unicode"
  | .moment => "datetime_type"
  | .momentText _ => "datetime_parsing"
  | .dateText _ => "datetime_from_date_parsing"
  | .record _ => "model_type"
  | .integer => "int_type"
  | .integerText => "int_parsing"
  | .integerTextSize => "int_parsing_size"
  | .wholeNumber => "int_from_float"
  | .finiteNumber => "finite_number"
  | .greaterThan _ => "greater_than"
  | .atMost _ => "less_than_equal"
  | .pattern _ => "string_pattern_mismatch"
  | .list => "list_type"

end Rule

/-- A broken rule and the field, or the item of a field, that breaks it. -/
structure Issue where
  /-- Empty for an issue of the whole record. -/
  location : List String
  rule : Rule
  deriving DecidableEq, Repr

def Issue.lines (i : Issue) : List String :=
  (if i.location.isEmpty then [] else [".".intercalate i.location]) ++
    ["  " ++ i.rule.message ++ " [type=" ++ i.rule.tag ++ "]"]

structure Report where
  form : String
  issues : List Issue
  deriving DecidableEq, Repr

def Report.message (r : Report) : String :=
  "\n".intercalate
    ((toString r.issues.length ++ " validation error" ++
        (if r.issues.length = 1 then "" else "s") ++ " for " ++ r.form) ::
      r.issues.flatMap Issue.lines)

end CredentialHelper.Validation
