import CredentialHelper.Source.Resolver

/-!
# What a resolution comes to

`Scans` describes a resolution by its positions: the first one that does not pass decides, and if
all of them pass the error of the last one is the result.  `Scans.runOn_resolve` says that the
resolver does exactly that, and `Scans.append_of_not_passes` and `Scans.append_of_passes` what
identifiers behind a list and in front of it change.
-/

namespace CredentialHelper.Resolver

variable {σ : Type}

/-- How the position of one identifier ends. -/
inductive Position (σ : Type) where
  /-- The resolution ends here; the source was called unless there is none. -/
  | stops (result : Except Failure (Option Text)) (state : σ) (called : Option SourceKind)
  /-- The source was called, failed for itself, and the next one is tried. -/
  | passes (error : HelperError) (state : σ) (called : SourceKind)

def triedLine (identifier : Text) : Line :=
  .log ⟨.debug, "resolver", "Trying token source '" ++ identifier ++ "'"⟩

def obtainedLine (identifier : Text) : Line :=
  .log ⟨.info, "resolver", "Token obtained from source '" ++ identifier ++ "'"⟩

def failedLine (identifier : Text) (e : HelperError) : Line :=
  .log ⟨.debug, "resolver", "Token source '" ++ identifier ++ "' failed: " ++ e.detail⟩

def Position.ofCall [Journaled σ] (identifier : Text) (kind : SourceKind) :
    Except Failure (Option Text) × σ → Position σ
  | (.ok token, t) =>
    .stops (.ok token) (Journaled.note (obtainedLine identifier) t) (some kind)
  | (.error (.helper e), t) =>
    if e.kind.isSourceFailure then .passes e (Journaled.note (failedLine identifier e) t) kind
    else .stops (.error (.helper e)) t (some kind)
  | (.error (.foreign c), t) => .stops (.error (.foreign c)) t (some kind)

def position [Journaled σ] (adapters : Adapters σ) (identifier : Text) (s : σ) : Position σ :=
  match SourceKind.parse identifier with
  | .error e => .stops (.error (.helper e)) s none
  | .ok kind =>
    match adapters kind with
    | none => .stops (.error (.helper (notConfigured adapters identifier))) s none
    | some adapter =>
      .ofCall identifier kind (adapter.runOn (Journaled.note (triedLine identifier) s))

def kinds (identifiers : List Text) : List SourceKind :=
  identifiers.filterMap fun identifier => (SourceKind.parse identifier).toOption

/-- All positions pass, one after the other, with these errors. -/
inductive Passes [Journaled σ] (adapters : Adapters σ) :
    List Text → σ → List HelperError → σ → Prop
  | nil (s : σ) : Passes adapters [] s [] s
  | cons {identifier : Text} {rest : List Text} {s t u : σ} {e : HelperError}
      {es : List HelperError} {kind : SourceKind}
      (head : position adapters identifier s = .passes e t kind)
      (tail : Passes adapters rest t es u) : Passes adapters (identifier :: rest) s (e :: es) u

structure Scan (σ : Type) where
  result : Except Failure (Option Text)
  state : σ
  /-- The sources that were called, in order. -/
  calls : List SourceKind

/-- The resolution of identifiers from a state on, position by position. -/
inductive Scans [Journaled σ] (adapters : Adapters σ) : List Text → σ → Scan σ → Prop
  /-- Without identifiers there is no token. -/
  | empty (s : σ) : Scans adapters [] s ⟨.ok none, s, []⟩
  /-- The first position that does not pass decides. -/
  | stopped {before after : List Text} {identifier : Text} {s t u : σ} {es : List HelperError}
      {result : Except Failure (Option Text)} {called : Option SourceKind}
      (passed : Passes adapters before s es t)
      (stop : position adapters identifier t = .stops result u called) :
      Scans adapters (before ++ identifier :: after) s
        ⟨result, u, kinds before ++ called.toList⟩
  /-- If all positions pass, the last error is the result. -/
  | exhausted {identifiers : List Text} {s t : σ} {es : List HelperError} {e : HelperError}
      (passed : Passes adapters identifiers s (es ++ [e]) t) :
      Scans adapters identifiers s ⟨.error (.helper e), t, kinds identifiers⟩

section

variable [Journaled σ] {adapters : Adapters σ}

/-! ## One position -/

theorem position_of_unknown {identifier : Text} {e : HelperError}
    (h : SourceKind.parse identifier = .error e) (s : σ) :
    position adapters identifier s = .stops (.error (.helper e)) s none := by
  rw [position, h]

theorem position_of_absent {identifier : Text} {kind : SourceKind}
    (h : SourceKind.parse identifier = .ok kind) (ha : adapters kind = none) (s : σ) :
    position adapters identifier s =
      .stops (.error (.helper (notConfigured adapters identifier))) s none := by
  simp only [position, h, ha]

theorem position_of_adapter {identifier : Text} {kind : SourceKind}
    {adapter : Action σ (Option Text)} (h : SourceKind.parse identifier = .ok kind)
    (ha : adapters kind = some adapter) (s : σ) :
    position adapters identifier s =
      .ofCall identifier kind (adapter.runOn (Journaled.note (triedLine identifier) s)) := by
  simp only [position, h, ha]

theorem Position.ofCall_eq_passes_iff {identifier : Text} {kind kind' : SourceKind}
    {e : HelperError} {t : σ} {call : Except Failure (Option Text) × σ} :
    ofCall identifier kind call = .passes e t kind' ↔
      kind' = kind ∧ e.kind.isSourceFailure = true ∧ call.1 = .error (.helper e) ∧
        t = Journaled.note (failedLine identifier e) call.2 := by
  rcases call with ⟨(e' | c) | token, u⟩
  · simp only [ofCall]
    by_cases he : e'.kind.isSourceFailure = true
    · rw [if_pos he]
      constructor
      · intro h
        cases h
        exact ⟨rfl, he, rfl, rfl⟩
      · rintro ⟨rfl, -, h, rfl⟩
        cases h
        rfl
    · rw [if_neg he]
      constructor
      · intro h
        cases h
      · rintro ⟨-, he', h, -⟩
        cases h
        exact absurd he' he
  · simp [ofCall]
  · simp [ofCall]

theorem Position.called_of_ofCall_eq_stops {identifier : Text} {kind : SourceKind} {t : σ}
    {call : Except Failure (Option Text) × σ} {result : Except Failure (Option Text)}
    {called : Option SourceKind} (h : ofCall identifier kind call = .stops result t called) :
    called = some kind := by
  rcases call with ⟨(e' | c) | token, u⟩
  · simp only [ofCall] at h
    by_cases he : e'.kind.isSourceFailure = true
    · rw [if_pos he] at h
      cases h
    · rw [if_neg he] at h
      cases h
      rfl
  · cases h
    rfl
  · cases h
    rfl

/-- A position passes if and only if its source was called and failed for itself. -/
theorem position_eq_passes_iff {identifier : Text} {s t : σ} {e : HelperError}
    {kind : SourceKind} :
    position adapters identifier s = .passes e t kind ↔
      SourceKind.parse identifier = .ok kind ∧ e.kind.isSourceFailure = true ∧
        ∃ adapter u, adapters kind = some adapter ∧
          adapter.runOn (Journaled.note (triedLine identifier) s) = (.error (.helper e), u) ∧
          t = Journaled.note (failedLine identifier e) u := by
  constructor
  · intro h
    cases hparse : SourceKind.parse identifier with
    | error e' =>
      rw [position_of_unknown hparse] at h
      cases h
    | ok kind' =>
      cases ha : adapters kind' with
      | none =>
        rw [position_of_absent hparse ha] at h
        cases h
      | some adapter =>
        rw [position_of_adapter hparse ha, Position.ofCall_eq_passes_iff] at h
        obtain ⟨rfl, he, hcall, rfl⟩ := h
        exact ⟨rfl, he, adapter, _, ha, Prod.ext hcall rfl, rfl⟩
  · rintro ⟨hparse, he, adapter, u, ha, hrun, rfl⟩
    rw [position_of_adapter hparse ha, Position.ofCall_eq_passes_iff, hrun]
    exact ⟨rfl, he, rfl, rfl⟩

theorem parse_of_position_eq_stops {identifier : Text} {s t : σ} {kind : SourceKind}
    {result : Except Failure (Option Text)}
    (h : position adapters identifier s = .stops result t (some kind)) :
    SourceKind.parse identifier = .ok kind := by
  cases hparse : SourceKind.parse identifier with
  | error e =>
    rw [position_of_unknown hparse] at h
    cases h
  | ok kind' =>
    cases ha : adapters kind' with
    | none =>
      rw [position_of_absent hparse ha] at h
      cases h
    | some adapter =>
      rw [position_of_adapter hparse ha] at h
      rw [Option.some.inj (Position.called_of_ofCall_eq_stops h)]

/-- A resolution that ends without a call ends with an error that names the identifier. -/
theorem result_of_position_eq_stops_none {identifier : Text} {s t : σ}
    {result : Except Failure (Option Text)}
    (h : position adapters identifier s = .stops result t none) :
    t = s ∧ ∃ e, result = .error (.helper e) ∧ e.kind = .unknownSource identifier := by
  cases hparse : SourceKind.parse identifier with
  | error e =>
    rw [position_of_unknown hparse] at h
    cases h
    refine ⟨rfl, e, rfl, ?_⟩
    rw [SourceKind.parse] at hparse
    split at hparse
    · cases hparse
    · cases hparse
      rfl
  | ok kind =>
    cases ha : adapters kind with
    | none =>
      rw [position_of_absent hparse ha] at h
      cases h
      exact ⟨rfl, _, rfl, rfl⟩
    | some adapter =>
      rw [position_of_adapter hparse ha] at h
      cases Position.called_of_ofCall_eq_stops h

theorem kinds_cons {identifier : Text} {kind : SourceKind} (rest : List Text)
    (h : SourceKind.parse identifier = .ok kind) :
    kinds (identifier :: rest) = kind :: kinds rest := by
  simp [kinds, h, Except.toOption]

/-! ## The resolver, position by position -/

theorem runOn_resolveFrom_cons (adapters : Adapters σ) (last : Option HelperError)
    (identifier : Text) (rest : List Text) (s : σ) :
    (resolveFrom adapters last (identifier :: rest)).runOn s =
      match position adapters identifier s with
      | .stops result t _ => (result, t)
      | .passes e t _ => (resolveFrom adapters (some e) rest).runOn t := by
  rw [resolveFrom, Action.runOn_bind, position, adapterFor]
  cases SourceKind.parse identifier with
  | error e => rfl
  | ok kind =>
    cases hkind : adapters kind with
    | none =>
      simp only [hkind]
      rfl
    | some adapter =>
      have hadapter : (Except.ok adapter : Except HelperError _).mapError Failure.helper =
          .ok adapter := rfl
      simp only [hkind, hadapter, Action.runOn_ofExcept, Action.runOn_bind, Action.runOn_log,
        Action.runOn_attempt]
      rw [← triedLine]
      rcases adapter.runOn (Journaled.note (triedLine identifier) s) with ⟨(e | c) | token, t⟩
      · simp only [Position.ofCall]
        by_cases he : e.kind.isSourceFailure = true
        · simp only [he, if_true, Action.runOn_bind, Action.runOn_log, failedLine]
        · simp [he]
      · rfl
      · rfl

theorem Passes.runOn_resolveFrom_append {before : List Text} {s t : σ} {es : List HelperError}
    (passed : Passes adapters before s es t) (last : Option HelperError) (rest : List Text) :
    (resolveFrom adapters last (before ++ rest)).runOn s =
      (resolveFrom adapters (es.getLast?.or last) rest).runOn t := by
  induction passed generalizing last with
  | nil s => rfl
  | cons head tail ih =>
    rw [List.cons_append, runOn_resolveFrom_cons, head]
    simp only [ih, List.getLast?_cons]
    cases List.getLast? _ <;> rfl

/-! ## Scans -/

theorem Passes.append {before after : List Text} {s t u : σ} {es es' : List HelperError}
    (first : Passes adapters before s es t) (second : Passes adapters after t es' u) :
    Passes adapters (before ++ after) s (es ++ es') u := by
  induction first with
  | nil s => exact second
  | cons head tail ih => exact .cons head (ih second)

theorem Passes.map_parse {identifiers : List Text} {s t : σ} {es : List HelperError}
    (passed : Passes adapters identifiers s es t) :
    identifiers.map SourceKind.parse = (kinds identifiers).map .ok := by
  induction passed with
  | nil s => rfl
  | cons head tail ih =>
    have hparse := (position_eq_passes_iff.1 head).1
    rw [kinds_cons _ hparse, List.map_cons, List.map_cons, hparse, ih]

theorem Scans.cons {identifier : Text} {rest : List Text} {s t : σ} {e : HelperError}
    {kind : SourceKind} {r : Scan σ} (head : position adapters identifier s = .passes e t kind)
    (hrest : rest ≠ []) (tail : Scans adapters rest t r) :
    Scans adapters (identifier :: rest) s { r with calls := kind :: r.calls } := by
  have hkind := (position_eq_passes_iff.1 head).1
  cases tail with
  | empty t => exact absurd rfl hrest
  | @stopped before after identifier' _ t' u es result called passed stop =>
    have : Scans adapters ((identifier :: before) ++ identifier' :: after) s
        ⟨result, u, kinds (identifier :: before) ++ called.toList⟩ :=
      .stopped (.cons head passed) stop
    rwa [kinds_cons _ hkind] at this
  | @exhausted _ _ t' es e' passed =>
    have : Scans adapters (identifier :: rest) s
        ⟨.error (.helper e'), t', kinds (identifier :: rest)⟩ :=
      @Scans.exhausted _ _ _ _ _ _ (e :: es) _ (.cons head passed)
    rwa [kinds_cons _ hkind] at this

theorem Scans.singleton {identifier : Text} {s t : σ} {e : HelperError} {kind : SourceKind}
    (head : position adapters identifier s = .passes e t kind) :
    Scans adapters [identifier] s ⟨.error (.helper e), t, [kind]⟩ := by
  have : Scans adapters [identifier] s ⟨.error (.helper e), t, kinds [identifier]⟩ :=
    @Scans.exhausted _ _ _ _ _ _ [] _ (.cons head (.nil t))
  rwa [kinds_cons _ (position_eq_passes_iff.1 head).1] at this

theorem Scans.head {identifier : Text} {s t : σ} {result : Except Failure (Option Text)}
    {called : Option SourceKind} (stop : position adapters identifier s = .stops result t called)
    (rest : List Text) :
    Scans adapters (identifier :: rest) s ⟨result, t, called.toList⟩ :=
  @Scans.stopped _ _ _ [] _ _ _ _ _ _ _ _ (.nil s) stop

theorem exists_scans (adapters : Adapters σ) (identifiers : List Text) (s : σ) :
    ∃ r, Scans adapters identifiers s r := by
  induction identifiers generalizing s with
  | nil => exact ⟨_, .empty s⟩
  | cons identifier rest ih =>
    cases h : position adapters identifier s with
    | stops result t called => exact ⟨_, .head h rest⟩
    | passes e t kind =>
      by_cases hrest : rest = []
      · subst hrest
        exact ⟨_, .singleton h⟩
      · obtain ⟨r, hr⟩ := ih t
        exact ⟨_, .cons h hrest hr⟩

theorem Scans.runOn_resolve {identifiers : List Text} {s : σ} {r : Scan σ}
    (h : Scans adapters identifiers s r) :
    (resolve adapters identifiers).runOn s = (r.result, r.state) := by
  cases h with
  | empty s => rfl
  | stopped passed stop =>
    rw [resolve, passed.runOn_resolveFrom_append, runOn_resolveFrom_cons, stop]
  | exhausted passed =>
    have := passed.runOn_resolveFrom_append none []
    rw [List.append_nil, List.getLast?_append, List.getLast?_singleton] at this
    exact this

/-- Identifiers behind the position that decides change nothing. -/
theorem Scans.append_of_not_passes {identifiers : List Text} {s : σ} {r : Scan σ}
    (h : Scans adapters identifiers s r)
    (hstop : ¬ ∃ es t, Passes adapters identifiers s es t) (more : List Text) :
    Scans adapters (identifiers ++ more) s r := by
  cases h with
  | empty s => exact absurd ⟨[], s, .nil s⟩ hstop
  | stopped passed stop =>
    rw [List.append_assoc, List.cons_append]
    exact .stopped passed stop
  | exhausted passed => exact absurd ⟨_, _, passed⟩ hstop

/-- Positions that pass leave the rest of the resolution to the identifiers behind them. -/
theorem Scans.append_of_passes {before after : List Text} {s t : σ} {es : List HelperError}
    {r : Scan σ} (h : Scans adapters after t r) (hafter : after ≠ [])
    (passed : Passes adapters before s es t) :
    Scans adapters (before ++ after) s { r with calls := kinds before ++ r.calls } := by
  induction passed with
  | nil s => exact h
  | cons head tail ih =>
    rw [kinds_cons _ (position_eq_passes_iff.1 head).1]
    exact .cons head (by simp [hafter]) (ih h)

end

end CredentialHelper.Resolver
