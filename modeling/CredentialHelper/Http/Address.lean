import CredentialHelper.Text.Split

/-!
# Internet addresses

Which texts are addresses: four decimal numbers below 256 with points between them, or eight groups
of hexadecimal digits with colons between them, where two colons stand for a run of zero groups and
the last two groups may be written as four decimal numbers.
-/

namespace CredentialHelper.Address

/-- A decimal number below 256 without needless zeros in front. -/
def isOctet (cs : List Char) : Bool :=
  !cs.isEmpty && cs.all Char.isDigit && cs.length ≤ 3 && (cs.length == 1 || cs.head? != some '0') &&
    decide (cs.foldl (fun n c => n * 10 + (c.toNat - 48)) 0 < 256)

def isIPv4 (cs : List Char) : Bool :=
  let parts := splitAtChar '.' cs
  parts.length == 4 && parts.all isOctet

def isHexDigit (c : Char) : Bool :=
  c.isDigit || ('a' ≤ c && c ≤ 'f') || ('A' ≤ c && c ≤ 'F')

def isGroup (cs : List Char) : Bool := !cs.isEmpty && cs.all isHexDigit && decide (cs.length ≤ 4)

/-- The groups of an address, with two groups for a dotted ending; `none` if that is no address. -/
def groups? (cs : List Char) : Option (List (List Char)) :=
  let parts := splitAtChar ':' cs
  match parts.getLast? with
  | some last =>
    if last.contains '.' then
      if isIPv4 last then some (parts.dropLast ++ [['0'], ['0']]) else none
    else some parts
  | none => none

def isIPv6 (cs : List Char) : Bool :=
  let address := cs.takeWhile (· != '%')
  let scope := cs.dropWhile (· != '%')
  let scopeFits := scope.isEmpty || (decide (1 < scope.length) && !(scope.drop 1).contains '%')
  if !scopeFits || cs.contains '/' then false
  else if (splitAtChar ':' address).length < 3 then false
  else match groups? address with
    | none => false
    | some parts =>
      let inner := (parts.drop 1).dropLast
      match inner.filter List.isEmpty with
      | [] => parts.length == 8 && parts.all isGroup
      | [_] =>
        -- the empty piece inside stands for one group of zeros or more
        let index := (inner.takeWhile fun part => !part.isEmpty).length + 1
        let side (parts : List (List Char)) := if parts = [[]] then [] else parts
        let front := side (parts.take index)
        let back := side (parts.drop (index + 1))
        front.all isGroup && back.all isGroup && decide (front.length + back.length < 8)
      | _ => false

end CredentialHelper.Address
