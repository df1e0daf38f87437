/-!
# Splitting a text at separators

`splitWhere isSeparator cs` is what stands before, between and behind the separators of `cs`: always
one piece more than there are separators, none of which holds one. A text is a list of characters or
symbols here.
-/

namespace CredentialHelper

variable {α : Type}

def splitWhere (isSeparator : α → Bool) : List α → List (List α)
  | [] => [[]]
  | c :: cs =>
    if isSeparator c then [] :: splitWhere isSeparator cs
    else match splitWhere isSeparator cs with
      | [] => [[c]]
      | piece :: rest => (c :: piece) :: rest

def splitAtChar [BEq α] (separator : α) (cs : List α) : List (List α) :=
  splitWhere (· == separator) cs

theorem splitWhere_ne_nil (isSeparator : α → Bool) (cs : List α) :
    splitWhere isSeparator cs ≠ [] := by
  induction cs with
  | nil => simp [splitWhere]
  | cons c cs ih =>
    rw [splitWhere]
    split
    · simp
    · split <;> simp

end CredentialHelper
