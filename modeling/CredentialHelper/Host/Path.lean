import CredentialHelper.Host.FileName
import CredentialHelper.Text.Split

/-!
# Paths

A path is a text of names with slashes between them. A tilde at its beginning stands for a home
directory; `Path.expand` puts the directory in its place, and leaves a path alone whose user is not
known.
-/

namespace CredentialHelper

/-- The homes that a tilde can stand for. -/
structure Homes where
  /-- The home of the current user. -/
  current : Option Text
  /-- The homes of users by name. -/
  users : List (Text × Text)
  deriving DecidableEq, Repr

namespace Path

def slash : Symbol := .char '/'

def splitLast (path : Text) : Text × Text :=
  let tail := (path.reverse.takeWhile (· != slash)).reverse
  (path.take (path.length - tail.length), tail)

def dropSlashes (path : Text) : Text := (path.reverse.dropWhile (· == slash)).reverse

/-- The directory part, without the slashes behind it unless it is all slashes, and the last name.
-/
def split (path : Text) : Text × Text :=
  let (head, tail) := splitLast path
  (if head.all (· == slash) then head else dropSlashes head, tail)

def names (path : Text) : List Text := (splitAtChar slash path).filter fun piece => !piece.isEmpty

/-- The directory that holds what the path names; empty if the path is a single name. -/
def directory (path : Text) : Text := (split path).1

/-- The home in place of the tilde, followed by the rest, which is empty or begins with a slash. -/
def underHome (home rest : Text) : Text :=
  let path := dropSlashes home ++ rest
  if path.isEmpty then "/" else path

/-- The path with its tilde expanded. The name of a user is looked up as the name of a file is. -/
def expand (homes : Homes) (path : Text) : Except NameError Text :=
  match path with
  | .char '~' :: rest =>
    let user := rest.takeWhile (· != slash)
    let known (home : Option Text) : Text :=
      match home with
      | some home => underHome home (rest.dropWhile (· != slash))
      | none => path
    if user.isEmpty then .ok (known homes.current)
    else (FileName.encode user).map fun _ => known (homes.users.lookup user)
  | _ => .ok path

/-- The path without slashes that separate nothing and without names of a single dot. Exactly two
slashes at its beginning stay two, and a path that is left without a name is a dot. -/
def normalize (path : Text) : Text :=
  let slashes := (path.takeWhile (· == slash)).length
  let root : Text := if slashes = 0 then [] else if slashes = 2 then [slash, slash] else [slash]
  let kept := (names path).filter fun (name : Text) => name != "."
  if kept.isEmpty && root.isEmpty then "." else root ++ Text.join [slash] kept

def hasTilde (path : Text) : Bool := path.head? == some (.char '~')

/-- The normal form of a path with its tilde expanded, or `none` if its user is not known. -/
def expandKnown? (homes : Homes) (path : Text) : Option Text :=
  let path := normalize path
  if hasTilde path then
    match expand homes path with
    | .ok expanded => if hasTilde expanded then none else some (normalize expanded)
    | .error _ => none
  else some path

end Path

end CredentialHelper
