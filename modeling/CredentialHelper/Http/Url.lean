import CredentialHelper.Http.Address
import CredentialHelper.Http.HostName
import CredentialHelper.Http.Percent
import CredentialHelper.Number.Numeral
import CredentialHelper.Text.Quoted

/-!
# Locations

A location is read leniently: characters that may not stand in a part are percent-encoded, the host
is brought into ASCII and lower case, dots in the path are resolved, and the port that the scheme
implies is dropped. What cannot be mended is refused with a reason.
-/

namespace CredentialHelper

inductive UrlError where
  | long
  | partLong (name : String)
  | control (c : Char) (position : Nat)
  | port (text : Text)
  | ipv4 (host : Text)
  | ipv6 (host : Text)
  | hostName (host : Text)
  | pathWithHost
  | doubleSlash
  | colon
  /-- A part with a surrogate. -/
  | encoding (e : EncodeError)
  deriving DecidableEq, Repr

def UrlError.message : UrlError → String
  | .long => "URL too long"
  | .partLong name => "URL component " ++ Quoted.text (Text.ofString name) ++ " too long"
  | .control c position =>
    "Invalid non-printable ASCII character in URL, " ++ Quoted.text [.char c] ++ " at position " ++
      toString position ++ "."
  | .port text => "Invalid port: " ++ Quoted.text text
  | .ipv4 host => "Invalid IPv4 address: " ++ Quoted.text host
  | .ipv6 host => "Invalid IPv6 address: " ++ Quoted.text host
  | .hostName host => "Invalid IDNA hostname: " ++ Quoted.text host
  | .pathWithHost => "For absolute URLs, path must be empty or begin with '/'"
  | .doubleSlash => "Relative URLs cannot have a path starting with '//'"
  | .colon => "Relative URLs cannot have a path starting with ':'"
  | .encoding e => e.message

structure Url where
  scheme : String
  userInfo : String
  host : String
  port : Option Int
  path : String
  query : Option String
  fragment : Option String
  deriving DecidableEq, Repr

namespace Url

/-! ## Safe characters of the parts -/

def isSafeInQuery (c : Char) : Bool :=
  decide (0x21 ≤ c.toNat) && decide (c.toNat ≤ 0x7E) && !(['"', '#', '<', '>'].contains c)

def isSafeInFragment (c : Char) : Bool :=
  decide (0x21 ≤ c.toNat) && decide (c.toNat ≤ 0x7E) && !(['"', '<', '>', '\x60'].contains c)

def isSafeInPath (c : Char) : Bool :=
  isSafeInQuery c && !(['?', '\x60', '\x7b', '\x7d'].contains c)

def isSafeInUserInfo (c : Char) : Bool :=
  isSafeInPath c && !(['/', ';', '=', '@', '[', '\\', ']', '^', '|'].contains c)

def isSafeInHost (c : Char) : Bool :=
  ['!', '$', '&', '\'', '(', ')', '*', '+', ',', ';', '=', '"', '\x60', '\x7b', '\x7d', '%', '|',
    '\\'].contains c

/-! ## Cutting a text into parts -/

structure Parts where
  scheme : Text
  authority : Text
  path : Text
  query : Option Text
  fragment : Option Text

def isSchemeChar (c : Char) : Bool := c.isAlphanum || c == '+' || c == '.' || c == '-'

def isAny (cs : List Char) : Symbol → Bool := Symbol.isIn cs.contains

/-- The scheme, if a colon follows it, and the rest. A colon at the beginning is dropped. -/
def cutScheme (t : Text) : Text × Text :=
  let word := if (t.head?.map (Symbol.isIn Char.isAlpha)).getD false then
    t.takeWhile (Symbol.isIn isSchemeChar) else []
  match t.drop word.length with
  | .char ':' :: rest => (word, rest)
  | _ => ([], t)

def parts (t : Text) : Parts :=
  let (scheme, rest) := cutScheme t
  let (authority, rest) := match rest with
    | .char '/' :: .char '/' :: rest =>
      let ends := isAny ['/', '?', '#']
      (rest.takeWhile fun s => !ends s, rest.dropWhile fun s => !ends s)
    | rest => ([], rest)
  let path := rest.takeWhile fun s => !isAny ['?', '#'] s
  let (query, rest) := match rest.drop path.length with
    | .char '?' :: rest =>
      (some (rest.takeWhile (Symbol.isNot '#')), rest.dropWhile (Symbol.isNot '#'))
    | rest => (none, rest)
  let fragment := match rest with
    | .char '#' :: rest => some rest
    | _ => none
  ⟨scheme, authority, path, query, fragment⟩

def cutAuthority (t : Text) : Text × Text × Text :=
  let back := t.reverse.takeWhile (Symbol.isNot '@')
  let (user, rest) :=
    if t.contains '@' then (t.take (t.length - back.length - 1), back.reverse) else ([], t)
  let host :=
    if rest.head? == some (.char '[') && rest.contains ']' then
      rest.take (rest.length - (rest.reverse.takeWhile (Symbol.isNot ']')).length)
    else rest.takeWhile fun s => !isAny [':', '@'] s
  let port := match rest.drop host.length with
    | .char ':' :: port => port
    | port => port
  (user, host, port)

/-! ## Reading the parts -/

/-- Whether a host looks like four numbers with one symbol between any two: `groups` more of them
have to follow, and `inside` says whether a digit was just passed. -/
def looksIPv4 : Nat → Bool → Text → Bool
  | groups, inside, [] => groups == 0 && inside
  | groups, inside, s :: rest =>
    (s.isIn Char.isDigit && looksIPv4 groups true rest) ||
      (inside && match groups with
        | 0 => false
        | groups + 1 => looksIPv4 groups false rest)

/-- Whether a text consists of characters that make up what `isForm` accepts. -/
def hasForm (isForm : List Char → Bool) (t : Text) : Bool := (Text.chars? t).any isForm

def ascii? (t : Text) : Option (List Char) :=
  (Text.chars? t).filter fun cs => cs.all fun c => c.toNat < 0x80

def readHost (host : Text) : Except UrlError String :=
  if host.isEmpty then .ok ""
  else if looksIPv4 3 false host then
    if hasForm Address.isIPv4 host then .ok host.toStringLossy else .error (.ipv4 host)
  else if host.head? == some (.char '[') && host.getLast? == some (.char ']') then
    let inner := (host.drop 1).dropLast
    if hasForm Address.isIPv6 inner then .ok (Text.toStringLossy inner) else .error (.ipv6 host)
  else match ascii? host with
    | some cs => .ok (String.ofList (Percent.complete isSafeInHost (cs.map Char.toLower)))
    | none =>
      match HostName.ascii? host with
      | some name => .ok name
      | none => .error (.hostName host)

def defaultPort (scheme : String) : Option Int :=
  match scheme with
  | "ftp" => some 21
  | "http" => some 80
  | "https" => some 443
  | "ws" => some 80
  | "wss" => some 443
  | _ => none

/-- The port, unless there is none or the scheme as it is written implies it. -/
def readPort (port : Text) (scheme : String) : Except UrlError (Option Int) :=
  if port.isEmpty then .ok none
  else match Numeral.parse port with
    | .error _ => .error (.port port)
    | .ok n => .ok (if some n = defaultPort scheme then none else some n)

def readPart (safe : Char → Bool) (part : Text) : Except UrlError String :=
  match Percent.text safe part with
  | .ok cs => .ok (String.ofList cs)
  | .error e => .error (.encoding e)

/-- Resolves one part of a path; `before` holds the resolved ones, nearest first. -/
def resolveDot (before : List Text) (part : Text) : List Text :=
  if part = "." then before
  else if part = ".." then (if before = [[]] then before else before.drop 1)
  else part :: before

def resolveDots (path : Text) : Text :=
  let pieces := splitAtChar (.char '/') path
  if pieces.any fun (piece : Text) => piece = "." || piece = ".." then
    Text.join "/" (pieces.foldl resolveDot []).reverse
  else path

def maxLength : Nat := 65536

/-- The location that a text names. The first fault counts, and the parts are read in the order user
information, host, port, path, query and fragment. -/
def parse (t : Text) : Except UrlError Url := do
  if maxLength < t.length then throw .long
  let isControl (c : Char) : Bool := decide (c.toNat < 0x20) || c.toNat == 0x7F
  match t.find? (Symbol.isIn isControl) with
  | some (.char c) => throw (.control c (t.takeWhile (· != .char c)).length)
  | _ => pure ()
  let p := parts t
  let (user, host, port) := cutAuthority p.authority
  let userInfo ← readPart isSafeInUserInfo user
  let host ← readHost host
  let port ← readPort port p.scheme.toStringLossy
  let hasScheme := !p.scheme.isEmpty
  let hasAuthority := !userInfo.isEmpty || !host.isEmpty || port.isSome
  if hasAuthority && !p.path.isEmpty && p.path.head? != some (.char '/') then throw .pathWithHost
  if !hasScheme && !hasAuthority then
    if p.path.take 2 == "//" then throw .doubleSlash
    if p.path.head? == some (.char ':') then throw .colon
  let path := if hasScheme || hasAuthority then resolveDots p.path else p.path
  let path ← readPart isSafeInPath path
  let query ← p.query.mapM (readPart isSafeInQuery)
  let fragment ← p.fragment.mapM (readPart isSafeInFragment)
  return ⟨p.scheme.toStringLossy.toLower, userInfo, host, port, path, query, fragment⟩

def text (u : Url) : String :=
  let host := if u.host.contains ':' then "[" ++ u.host ++ "]" else u.host
  let authority := (if u.userInfo.isEmpty then "" else u.userInfo ++ "@") ++ host ++
    (match u.port with
      | some port => ":" ++ toString port
      | none => "")
  (if u.scheme.isEmpty then "" else u.scheme ++ ":") ++
    (if authority.isEmpty then "" else "//" ++ authority) ++ u.path ++
    (match u.query with
      | some q => "?" ++ q
      | none => "") ++
    (match u.fragment with
      | some f => "#" ++ f
      | none => "")

def isAbsolute (u : Url) : Bool := !u.scheme.isEmpty && !u.host.isEmpty

/-- Where a request to a location goes: a location without scheme or host stands for its path from
the root. -/
def target (u : Url) : Url :=
  if u.isAbsolute then u
  else { u with
    scheme := ""
    userInfo := ""
    host := ""
    port := none
    path := "/" ++ String.ofList (u.path.toList.dropWhile (· == '/'))
    fragment := none }

/-- What is wrong with the target of a location. A location with scheme and host is its own target;
any other target is put together from parts, which may not be too long. -/
def targetError? (u : Url) : Option UrlError :=
  if u.isAbsolute then none
  else if maxLength < u.target.path.length then some (.partLong "path")
  else if u.query.any fun q => maxLength < q.length then some (.partLong "query")
  else none

end Url

end CredentialHelper
