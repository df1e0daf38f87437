import CredentialHelper.Proofs.RequestFailures

/-!
# Sources that are all known

Only the reading of an identifier can say that it names no source.  So where every configured
identifier names one, no failure of a request says so at any level: not the sources, not a login,
not the saving of what it gave (`Helper.ends_get`).
-/

namespace CredentialHelper

/-! ## Failures that blame an identifier -/

namespace HelperError

def kinds : HelperError → List ErrorKind
  | .root entry _ => [entry.kind]
  | .wrap entry cause => entry.kind :: cause.kinds

def blames (e : HelperError) : Bool := e.kinds.any ErrorKind.isUnknownSource

theorem blames_root (entry : ErrorEntry) (cause : Option Cause) :
    (root entry cause).blames = entry.kind.isUnknownSource := Bool.or_false _

theorem blames_wrap (entry : ErrorEntry) (e : HelperError) :
    (wrap entry e).blames = (entry.kind.isUnknownSource || e.blames) := rfl

theorem unknownSource_not_mem {e : HelperError} (h : e.blames = false) (identifier : Text) :
    .unknownSource identifier ∉ e.kinds :=
  fun hmem => absurd (List.any_eq_false.1 h _ hmem) (fun hnot => hnot rfl)

end HelperError

def Failure.blames : Failure → Bool
  | .helper e => e.blames
  | .foreign _ => false

theorem Failure.Single.blames {p : ErrorEntry → Prop} {f : Failure} (h : f.Single p)
    (hp : ∀ entry, p entry → entry.kind.isUnknownSource = false) : f.blames = false := by
  cases h with
  | foreign c => rfl
  | level h cause => exact (HelperError.blames_root _ cause).trans (hp _ h)

/-! ## Requests -/

theorem GcloudSource.blames_wrapped (f : Failure) : (wrapped f).blames = f.blames := by
  rw [wrapped.eq_def]
  split
  · split
    · rfl
    · rfl
  · rfl

theorem Coordinator.blames_wrapped {kind : ErrorKind} (hkind : kind.isUnknownSource = false)
    (message : Text) (f : Failure) : (wrapped kind message f).blames = f.blames := by
  cases f with
  | helper e =>
    rw [wrapped, Failure.blames, HelperError.blames_wrap, hkind]
    rfl
  | foreign c => rfl

theorem Command.Fails.blames {c : Command} {f : Failure} (h : c.Fails f) : f.blames = false := by
  cases h <;> rfl

theorem SourceKind.Fails.blames {f : Failure} (h : SourceKind.Fails f) : f.blames = false := by
  cases h with
  | single h => exact h.blames fun _ => id
  | program h => exact (GcloudSource.blames_wrapped _).trans h.blames

theorem LoginClient.Fails.blames {f : Failure} (h : LoginClient.Fails f) : f.blames = false := by
  cases h <;> rfl

theorem SourceKind.exists_parse {identifier : Text} (h : (known.lookup identifier).isSome) :
    ∃ kind, parse identifier = .ok kind := by
  obtain ⟨kind, hkind⟩ := Option.isSome_iff_exists.1 h
  exact ⟨kind, by rw [parse, hkind]⟩

section

variable {identifiers : List Text} {f : Failure}

theorem Resolver.Fails.blames (h : Resolver.Fails identifiers f)
    (hknown : ∀ identifier ∈ identifiers, (SourceKind.known.lookup identifier).isSome) :
    f.blames = false := by
  cases h with
  | source h => exact h.blames
  | unknown hmem h =>
    obtain ⟨kind, hkind⟩ := SourceKind.exists_parse (hknown _ hmem)
    cases hkind.symm.trans h

theorem Helper.Fails.blames (h : Helper.Fails identifiers f)
    (hknown : ∀ identifier ∈ identifiers, (SourceKind.known.lookup identifier).isSome) :
    f.blames = false := by
  cases h with
  | pass h => exact h.blames hknown
  | unretrieved h => exact (HelperError.blames_wrap _ _).trans (h.blames hknown)
  | login h => exact (Coordinator.blames_wrapped rfl _ _).trans h.blames
  | save h =>
    refine (Coordinator.blames_wrapped rfl _ _).trans (h.blames fun entry hentry => ?_)
    rw [hentry.kind]
    rfl
  | noSources => rfl

end

/-- Where every configured identifier names a source, no failure of a request blames one. -/
theorem Helper.ends_get {s : Settings} (store : CredentialStore) (registry : Text)
    (hknown : ∀ identifier ∈ s.tokenSources, (SourceKind.known.lookup identifier).isSome) :
    Ends (fun f => f.blames = false) ((ofSettings s store).get registry) :=
  (ends_get_fails s store registry).mono fun _ h => h.blames hknown

end CredentialHelper
