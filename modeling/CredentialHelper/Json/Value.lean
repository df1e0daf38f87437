import CredentialHelper.Number.Binary64
import CredentialHelper.Text.Symbol

/-!
# JSON values

Objects keep the order of their members. `Members.insert` replaces a value in place or appends a
new member, so that of equal keys in a document the last value counts, at the first one's place.
-/

namespace CredentialHelper

/-- A JSON value. Integers are unbounded; other numbers are floating point. -/
inductive Json where
  | null
  | bool (b : Bool)
  | int (n : Int)
  | float (x : Binary64)
  | string (t : Text)
  | array (items : List Json)
  | object (members : List (Text × Json))
  deriving Repr, Inhabited

abbrev Members := List (Text × Json)

namespace Members

def get? (key : Text) : Members → Option Json
  | [] => none
  | (k, v) :: rest => if k = key then some v else get? key rest

/-- Puts a value under a key: at the key's place, or behind all members. -/
def insert (key : Text) (value : Json) : Members → Members
  | [] => [(key, value)]
  | (k, v) :: rest => if k = key then (k, value) :: rest else (k, v) :: insert key value rest

def erase (key : Text) : Members → Members
  | [] => []
  | (k, v) :: rest => if k = key then rest else (k, v) :: erase key rest

/-- The members of a sequence of pairs, of which later ones replace earlier ones. -/
def ofPairs (pairs : List (Text × Json)) : Members :=
  pairs.foldl (fun members p => insert p.1 p.2 members) []

def keys (members : Members) : List Text := members.map (·.1)

theorem get?_insert (key key' : Text) (value : Json) (members : Members) :
    get? key' (insert key value members) =
      if key = key' then some value else get? key' members := by
  induction members with
  | nil => simp [insert, get?]
  | cons p rest ih =>
    obtain ⟨k, v⟩ := p
    by_cases h : k = key
    · subst h
      by_cases h' : k = key' <;> simp [insert, get?, h']
    · by_cases h' : k = key'
      · subst h'
        have : key ≠ k := fun e => h e.symm
        simp [insert, get?, h, this]
      · simp [insert, get?, h, h', ih]

theorem keys_insert (key : Text) (value : Json) (members : Members) :
    keys (insert key value members) =
      if key ∈ keys members then keys members else keys members ++ [key] := by
  induction members with
  | nil => simp [insert, keys]
  | cons p rest ih =>
    obtain ⟨k, v⟩ := p
    simp only [keys] at ih
    by_cases h : k = key
    · subst h
      simp [insert, keys]
    · have h' : key ≠ k := fun e => h e.symm
      by_cases hm : key ∈ rest.map (·.1)
      · simp [insert, keys, h, hm, ih]
      · simp [insert, keys, h, h', hm, ih]

end Members

namespace Json

def ofMembers (members : List (String × Json)) : Json :=
  .object (members.map fun m => (Text.ofString m.1, m.2))

def ofString (s : String) : Json := .string (Text.ofString s)

def get? (name : String) : Json → Option Json
  | .object members => Members.get? (Text.ofString name) members
  | _ => none

/-- Whether a value counts as present: not null, false, zero or empty. -/
def isPresent : Json → Bool
  | .null => false
  | .bool b => b
  | .int n => n != 0
  | .float x => !x.isZero
  | .string t => !t.isEmpty
  | .array items => !items.isEmpty
  | .object members => !members.isEmpty

end Json

end CredentialHelper
