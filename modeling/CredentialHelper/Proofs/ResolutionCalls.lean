import CredentialHelper.Proofs.Resolution
import Mathlib.Data.List.Forall2

/-!
# The calls of a resolution and the names of its sources

`recording` puts a count of the calls beside the state of the sources, and `aside` the lines of the
resolver, so that the sources cannot see them.  With the first a resolution shows which sources it
calls, and with the second that the two names of the gcloud program do the same.
-/

namespace CredentialHelper.Resolver

open List (Forall₂)

variable {σ τ : Type}

/-! ## Counting calls -/

structure Recorded (σ : Type) where
  state : σ
  calls : List SourceKind

instance [Journaled σ] : Journaled (Recorded σ) where
  note line s := { s with state := Journaled.note line s.state }

def recordingCall (kind : SourceKind) (adapter : Action σ (Option Text)) :
    Action (Recorded σ) (Option Text) :=
  Action.ofFunction fun s =>
    let (result, t) := adapter.runOn s.state
    (result, ⟨t, s.calls ++ [kind]⟩)

def recording (adapters : Adapters σ) : Adapters (Recorded σ) :=
  fun kind => (adapters kind).map (recordingCall kind)

section

variable [Journaled σ] {adapters : Adapters σ}

omit [Journaled σ] in
theorem notConfigured_recording (adapters : Adapters σ) (identifier : Text) :
    notConfigured (recording adapters) identifier = notConfigured adapters identifier := by
  simp only [notConfigured, configured, recording, Option.isSome_map]

def Position.after (calls : List SourceKind) : Position σ → Position (Recorded σ)
  | .stops result t called => .stops result ⟨t, calls ++ called.toList⟩ called
  | .passes e t kind => .passes e ⟨t, calls ++ [kind]⟩ kind

theorem position_recording (adapters : Adapters σ) (identifier : Text) (s : σ)
    (calls : List SourceKind) :
    position (recording adapters) identifier ⟨s, calls⟩ =
      (position adapters identifier s).after calls := by
  cases hparse : SourceKind.parse identifier with
  | error e => simp [position_of_unknown hparse, Position.after]
  | ok kind =>
    cases ha : adapters kind with
    | none =>
      have ha' : recording adapters kind = none := by simp [recording, ha]
      simp [position_of_absent hparse ha, position_of_absent hparse ha', Position.after,
        notConfigured_recording]
    | some adapter =>
      have ha' : recording adapters kind = some (recordingCall kind adapter) := by
        simp [recording, ha]
      rw [position_of_adapter hparse ha, position_of_adapter hparse ha']
      have hnote : Journaled.note (triedLine identifier) (⟨s, calls⟩ : Recorded σ) =
        ⟨Journaled.note (triedLine identifier) s, calls⟩ := rfl
      rw [hnote, recordingCall, Action.runOn_ofFunction]
      rcases adapter.runOn (Journaled.note (triedLine identifier) s) with ⟨(e | c) | token, t⟩
      · simp only [Position.ofCall]
        split <;> rfl
      · rfl
      · rfl

theorem Passes.recorded {identifiers : List Text} {s t : σ} {es : List HelperError}
    (passed : Passes adapters identifiers s es t) (calls : List SourceKind) :
    Passes (recording adapters) identifiers ⟨s, calls⟩ es
      ⟨t, calls ++ kinds identifiers⟩ := by
  induction passed generalizing calls with
  | nil s => simpa [kinds] using @Passes.nil _ _ (recording adapters) ⟨s, calls⟩
  | @cons identifier rest s t u e es kind head tail ih =>
    have hhead := position_recording adapters identifier s calls
    rw [head] at hhead
    have htail := ih (calls ++ [kind])
    rw [List.append_assoc, List.singleton_append,
      ← kinds_cons _ (position_eq_passes_iff.1 head).1] at htail
    exact .cons hhead htail

/-- The calls of a resolution are those that recording adapters see. -/
theorem Scans.recorded {identifiers : List Text} {s : σ} {r : Scan σ}
    (h : Scans adapters identifiers s r) (calls : List SourceKind) :
    Scans (recording adapters) identifiers ⟨s, calls⟩
      ⟨r.result, ⟨r.state, calls ++ r.calls⟩, r.calls⟩ := by
  cases h with
  | empty s => simpa using @Scans.empty _ _ (recording adapters) ⟨s, calls⟩
  | @stopped before after identifier _ t u es result called passed stop =>
    have hstop := position_recording adapters identifier t (calls ++ kinds before)
    rw [stop, Position.after, List.append_assoc] at hstop
    exact .stopped (passed.recorded calls) hstop
  | exhausted passed => exact .exhausted (passed.recorded calls)

theorem Scans.unique {identifiers : List Text} {s : σ} {r r' : Scan σ}
    (h : Scans adapters identifiers s r) (h' : Scans adapters identifiers s r') : r' = r := by
  have hrun := (h.recorded []).runOn_resolve
  rw [(h'.recorded []).runOn_resolve] at hrun
  cases r
  cases r'
  simpa using hrun

/-- The calls are the kinds of the first identifiers, each called once. -/
theorem Scans.map_parse_take {identifiers : List Text} {s : σ} {r : Scan σ}
    (h : Scans adapters identifiers s r) :
    (identifiers.take r.calls.length).map SourceKind.parse = r.calls.map .ok := by
  cases h with
  | empty s => rfl
  | @stopped before after identifier _ t u es result called passed stop =>
    have hlen : (kinds before).length = before.length := by
      simpa using (congrArg List.length passed.map_parse).symm
    cases called with
    | none => simp [hlen, passed.map_parse]
    | some kind =>
      have htake : before.take (before.length + 1) = before :=
        List.take_of_length_le (by omega)
      simp only [Option.toList_some, List.length_append, List.length_singleton, hlen,
        List.take_append, htake, Nat.add_sub_cancel_left, List.take_succ_cons, List.take_zero,
        List.map_append, List.map_cons, List.map_nil, passed.map_parse,
        parse_of_position_eq_stops stop]
  | exhausted passed =>
    have hlen := congrArg List.length passed.map_parse
    simp only [List.length_map] at hlen
    simp [← hlen, passed.map_parse]

end

/-! ## Two names of one source -/

/-- A state of the sources with the lines of the resolver beside it. -/
structure Aside (τ : Type) where
  state : τ
  lines : List Line

instance : Journaled (Aside τ) where
  note line s := { s with lines := s.lines ++ [line] }

/-- An adapter that does not see the lines of the resolver. -/
def asideCall (adapter : Action τ (Option Text)) : Action (Aside τ) (Option Text) :=
  Action.ofFunction fun s =>
    let (result, t) := adapter.runOn s.state
    (result, { s with state := t })

def aside (adapters : Adapters τ) : Adapters (Aside τ) :=
  fun kind => (adapters kind).map asideCall

/-- Identifiers that are the same or the two names of the gcloud program. -/
inductive Renamed : Text → Text → Prop where
  | same (identifier : Text) : Renamed identifier identifier
  | toOldName : Renamed "gcloud" "gcloud_sdk"
  | toNewName : Renamed "gcloud_sdk" "gcloud"

inductive RenamedLine : Line → Line → Prop where
  | same (line : Line) : RenamedLine line line
  | tried {a b : Text} (h : Renamed a b) : RenamedLine (triedLine a) (triedLine b)
  | obtained {a b : Text} (h : Renamed a b) : RenamedLine (obtainedLine a) (obtainedLine b)
  | failed {a b : Text} (h : Renamed a b) (e : HelperError) :
    RenamedLine (failedLine a e) (failedLine b e)

inductive RenamedResult (adapters : Adapters (Aside τ)) :
    Except Failure (Option Text) → Except Failure (Option Text) → Prop where
  | same (result : Except Failure (Option Text)) : RenamedResult adapters result result
  | absent {a b : Text} (h : Renamed a b) (ha : adapters .gcloud = none) :
    RenamedResult adapters (.error (.helper (notConfigured adapters a)))
      (.error (.helper (notConfigured adapters b)))

/-- States that differ at most in the names in the lines of the resolver. -/
def Aside.Alike (s t : Aside τ) : Prop :=
  t.state = s.state ∧ Forall₂ RenamedLine s.lines t.lines

theorem Aside.Alike.note {s t : Aside τ} (h : s.Alike t) {line line' : Line}
    (hl : RenamedLine line line') :
    (Journaled.note line s).Alike (Journaled.note line' t) :=
  ⟨h.1, List.rel_append h.2 (.cons hl .nil)⟩

inductive Position.Alike (adapters : Adapters (Aside τ)) :
    Position (Aside τ) → Position (Aside τ) → Prop where
  | stops {result result' : Except Failure (Option Text)} {s t : Aside τ}
      {called : Option SourceKind} (hr : RenamedResult adapters result result') (hs : s.Alike t) :
    Alike adapters (.stops result s called) (.stops result' t called)
  | passes {s t : Aside τ} (e : HelperError) (kind : SourceKind) (hs : s.Alike t) :
    Alike adapters (.passes e s kind) (.passes e t kind)

theorem Renamed.eq_or_parse {a b : Text} (h : Renamed a b) :
    a = b ∨ SourceKind.parse a = .ok .gcloud ∧ SourceKind.parse b = .ok .gcloud := by
  cases h with
  | same => exact .inl rfl
  | toOldName => exact .inr ⟨rfl, rfl⟩
  | toNewName => exact .inr ⟨rfl, rfl⟩

theorem position_alike (adapters : Adapters τ) {a b : Text} (h : Renamed a b) {s t : Aside τ}
    (hs : s.Alike t) :
    Position.Alike (aside adapters) (position (aside adapters) a s)
      (position (aside adapters) b t) := by
  have hparse : SourceKind.parse b = SourceKind.parse a := by
    rcases h.eq_or_parse with rfl | ⟨ha, hb⟩
    · rfl
    · rw [ha, hb]
  cases ha : SourceKind.parse a with
  | error e =>
    rw [position_of_unknown ha, position_of_unknown (hparse.trans ha)]
    exact .stops (.same _) hs
  | ok kind =>
    cases hkind : adapters kind with
    | none =>
      have hnone : aside adapters kind = none := by simp [aside, hkind]
      rw [position_of_absent ha hnone, position_of_absent (hparse.trans ha) hnone]
      refine .stops ?_ hs
      rcases h.eq_or_parse with rfl | ⟨ha', -⟩
      · exact .same _
      · rw [ha] at ha'
        cases ha'
        exact .absent h hnone
    | some adapter =>
      have hsome : aside adapters kind = some (asideCall adapter) := by simp [aside, hkind]
      rw [position_of_adapter ha hsome, position_of_adapter (hparse.trans ha) hsome]
      have htried := hs.note (.tried h)
      simp only [asideCall, Action.runOn_ofFunction, htried.1]
      rcases adapter.runOn (Journaled.note (triedLine a) s).state with ⟨(e | c) | token, u⟩
      · have hu : Aside.Alike ⟨u, (Journaled.note (triedLine a) s).lines⟩
          ⟨u, (Journaled.note (triedLine b) t).lines⟩ := ⟨rfl, htried.2⟩
        simp only [Position.ofCall]
        split
        · exact .passes e kind (hu.note (.failed h e))
        · exact .stops (.same _) hu
      · exact .stops (.same _) ⟨rfl, htried.2⟩
      · have hu : Aside.Alike ⟨u, (Journaled.note (triedLine a) s).lines⟩
          ⟨u, (Journaled.note (triedLine b) t).lines⟩ := ⟨rfl, htried.2⟩
        exact .stops (.same _) (hu.note (.obtained h))

structure Scan.Alike (adapters : Adapters (Aside τ)) (r r' : Scan (Aside τ)) : Prop where
  result : RenamedResult adapters r.result r'.result
  state : r.state.Alike r'.state
  calls : r'.calls = r.calls

theorem exists_scans_alike (adapters : Adapters τ) {identifiers identifiers' : List Text}
    (h : Forall₂ Renamed identifiers identifiers') {s t : Aside τ} (hs : s.Alike t) :
    ∃ r r', Scans (aside adapters) identifiers s r ∧ Scans (aside adapters) identifiers' t r' ∧
      Scan.Alike (aside adapters) r r' := by
  induction h generalizing s t with
  | nil => exact ⟨_, _, .empty s, .empty t, .same _, hs, rfl⟩
  | @cons a b rest rest' hab hrest ih =>
    have hpos := position_alike adapters hab hs
    cases ha : position (aside adapters) a s with
    | stops result u called =>
      rw [ha] at hpos
      cases hb : position (aside adapters) b t with
      | stops result' u' called' =>
        rw [hb] at hpos
        cases hpos with
        | stops hr hu => exact ⟨_, _, .head ha rest, .head hb rest', hr, hu, rfl⟩
      | passes e' u' kind' =>
        rw [hb] at hpos
        cases hpos
    | passes e u kind =>
      rw [ha] at hpos
      cases hb : position (aside adapters) b t with
      | stops result' u' called' =>
        rw [hb] at hpos
        cases hpos
      | passes e' u' kind' =>
        rw [hb] at hpos
        cases hpos with
        | passes _ _ hu =>
          cases hrest with
          | nil => exact ⟨_, _, .singleton ha, .singleton hb, .same _, hu, rfl⟩
          | cons hcd htail =>
            obtain ⟨r, r', hr, hr', halike⟩ := ih hu
            exact ⟨_, _, .cons ha (by simp) hr, .cons hb (by simp) hr', halike.result,
              halike.state, congrArg (kind :: ·) halike.calls⟩

theorem Scans.alike {adapters : Adapters τ} {identifiers identifiers' : List Text} {s t : Aside τ}
    {r r' : Scan (Aside τ)} (h : Scans (aside adapters) identifiers s r)
    (h' : Scans (aside adapters) identifiers' t r')
    (hrenamed : Forall₂ Renamed identifiers identifiers') (hs : s.Alike t) :
    Scan.Alike (aside adapters) r r' := by
  obtain ⟨q, q', hq, hq', halike⟩ := exists_scans_alike adapters hrenamed hs
  rw [← h.unique hq, ← h'.unique hq']
  exact halike

/-! ## The whole resolution -/

/-- A resolution comes to one result.  An identifier that names no source ends it with an error that
names the identifier, each source is called once for each of the first identifiers, in their order,
and identifiers behind the end of a resolution or behind sources that fail for themselves change no
more than they should.  The two names of the gcloud program are told apart only in lines and, if
there is no such source, in the error that says so. -/
theorem resolve_scans [Journaled σ] (adapters : Adapters σ) (identifiers : List Text) (s : σ) :
    (∃! r, Scans adapters identifiers s r) ∧
    (∀ identifier t u result, position adapters identifier t = .stops result u none →
      t = u ∧ ∃ e, result = .error (.helper e) ∧ e.kind = .unknownSource identifier) ∧
    (∀ r, Scans adapters identifiers s r →
      (resolve adapters identifiers).runOn s = (r.result, r.state) ∧
      (∀ calls, (resolve (recording adapters) identifiers).runOn ⟨s, calls⟩ =
        (r.result, ⟨r.state, calls ++ r.calls⟩)) ∧
      (identifiers.take r.calls.length).map SourceKind.parse = r.calls.map .ok ∧
      ((¬ ∃ es t, Passes adapters identifiers s es t) →
        ∀ more, Scans adapters (identifiers ++ more) s r) ∧
      (identifiers ≠ [] → ∀ before s₀ es, Passes adapters before s₀ es s →
        Scans adapters (before ++ identifiers) s₀ { r with calls := kinds before ++ r.calls })) ∧
    (∀ (ρ : Type) (unseeing : Adapters ρ) (identifiers' : List Text) (x : ρ) (lines : List Line)
      (r r' : Scan (Aside ρ)), Forall₂ Renamed identifiers identifiers' →
      Scans (aside unseeing) identifiers ⟨x, lines⟩ r →
      Scans (aside unseeing) identifiers' ⟨x, lines⟩ r' → Scan.Alike (aside unseeing) r r') := by
  refine ⟨?_, ?_, ?_, ?_⟩
  · obtain ⟨r, hr⟩ := exists_scans adapters identifiers s
    exact ⟨r, hr, fun r' hr' => hr.unique hr'⟩
  · intro identifier t u result h
    obtain ⟨hut, e, hresult, hkind⟩ := result_of_position_eq_stops_none h
    exact ⟨hut.symm, e, hresult, hkind⟩
  · intro r hr
    refine ⟨hr.runOn_resolve, fun calls => (hr.recorded calls).runOn_resolve, hr.map_parse_take,
      hr.append_of_not_passes, ?_⟩
    intro hne before s₀ es passed
    exact hr.append_of_passes hne passed
  · intro ρ unseeing identifiers' x lines r r' hrenamed hr hr'
    exact hr.alike hr' hrenamed ⟨rfl, List.forall₂_same.2 fun line _ => .same line⟩

end CredentialHelper.Resolver
