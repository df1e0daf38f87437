import CredentialHelper.Failure.Error
import CredentialHelper.Similarity

/-!
# Kinds of token sources

A token comes from the environment's default credential, from the gcloud program or from the
helper's own store. The configuration names them by identifiers; an identifier that names none is
refused with suggestions.
-/

namespace CredentialHelper

inductive SourceKind where
  | env
  | gcloud
  | store
  deriving DecidableEq, Repr

namespace SourceKind

def identifier : SourceKind → Text
  | .env => "env"
  | .gcloud => "gcloud"
  | .store => "store"

/-- Every identifier that names a source, an old name of `gcloud` last. -/
def known : List (Text × SourceKind) :=
  [("env", .env), ("gcloud", .gcloud), ("store", .store), ("gcloud_sdk", .gcloud)]

def similar (identifier : Text) : List Text :=
  match suggestSimilar identifier (known.map (·.1)) 3 (.real (Binary64.ofDecimal false 6 (-1))) with
  | .ok names => names
  | .error _ => []

def suggestions (identifier : Text) : List Text :=
  match similar identifier with
  | [] => ["Valid token sources: " ++ Text.join ", " (known.map (·.1))]
  | names => names.map fun (name : Text) => "Did you mean '" ++ name ++ "'?"

def unknown (identifier : Text) (suggestions : List Text) (context : Members) : HelperError :=
  .root ⟨.unknownSource identifier, "unknown token source: " ++ identifier, suggestions, context⟩
    none

def parse (identifier : Text) : Except HelperError SourceKind :=
  match known.lookup identifier with
  | some kind => .ok kind
  | none =>
    .error (unknown identifier (suggestions identifier)
      [(Text.ofString "source", .string identifier)])

theorem parse_identifier (kind : SourceKind) : parse kind.identifier = .ok kind := by
  cases kind <;> rfl

end SourceKind

end CredentialHelper
