import CredentialHelper.Host.Action
import CredentialHelper.Source.Kind

/-!
# Resolving a token

The configured sources are tried from left to right. The first success ends the resolution, as does
an identifier that names no source and a failure that is no matter of a single source. If all
sources fail, the error of the last one is the result, and for no sources at all there is no token.
-/

namespace CredentialHelper.Resolver

variable {σ : Type}

/-- The sources that can be tried. A source can also succeed without a token. -/
abbrev Adapters (σ : Type) : Type := SourceKind → Option (Action σ (Option Text))

/-- The identifiers of the sources that can be tried, in alphabetical order. -/
def configured (adapters : Adapters σ) : List Text :=
  ([.env, .gcloud, .store].filter fun kind => (adapters kind).isSome).map SourceKind.identifier

def notConfigured (adapters : Adapters σ) (identifier : Text) : HelperError :=
  SourceKind.unknown identifier []
    [(Text.ofString "configured", .array ((configured adapters).map .string))]

def adapterFor (adapters : Adapters σ) (identifier : Text) :
    Except HelperError (Action σ (Option Text)) :=
  match SourceKind.parse identifier with
  | .error e => .error e
  | .ok kind =>
    match adapters kind with
    | some adapter => .ok adapter
    | none => .error (notConfigured adapters identifier)

/-- Tries the sources from left to right; `last` is the error of the source before them. -/
def resolveFrom [Journaled σ] (adapters : Adapters σ) :
    Option HelperError → List Text → Action σ (Option Text)
  | none, [] => pure none
  | some e, [] => Action.fail (.helper e)
  | _, identifier :: rest => do
    let adapter ← Action.ofExcept ((adapterFor adapters identifier).mapError .helper)
    Action.log .debug "resolver" ("Trying token source '" ++ identifier ++ "'")
    match ← Action.attempt adapter with
    | .ok token =>
      Action.log .info "resolver" ("Token obtained from source '" ++ identifier ++ "'")
      return token
    | .error (.helper e) =>
      if e.kind.isSourceFailure then
        Action.log .debug "resolver" ("Token source '" ++ identifier ++ "' failed: " ++ e.detail)
        resolveFrom adapters (some e) rest
      else Action.fail (.helper e)
    | .error f => Action.fail f

/-- The token of the first source that gives one; none if there are no sources. -/
def resolve [Journaled σ] (adapters : Adapters σ) (identifiers : List Text) :
    Action σ (Option Text) :=
  resolveFrom adapters none identifiers

end CredentialHelper.Resolver
