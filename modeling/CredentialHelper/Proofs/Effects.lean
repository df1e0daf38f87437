import CredentialHelper.Host.World
import Mathlib.Order.Defs.Unbundled

/-!
# What actions do to a state

`Within R a` says that the action `a` takes every state only to states that `R` relates to it,
however it ends.  For a preorder `R` it passes through every way to put actions together, so that
the effects of an operation follow from those of the requests that it makes.  `World.Advances` is
the preorder of everything that trying token sources can do.
-/

namespace CredentialHelper

theorem cases_of_bind_eq_error {ε α β : Type} {r : Except ε α} {f : α → Except ε β} {e : ε}
    (h : (r >>= f) = .error e) : r = .error e ∨ ∃ x, r = .ok x ∧ f x = .error e := by
  cases r with
  | error e' =>
    cases h
    exact .inl rfl
  | ok x => exact .inr ⟨x, rfl, h⟩

theorem eq_ok_of_isOk {ε : Type} {r : Except ε Unit} (h : r.isOk = true) : r = .ok () := by
  cases r with
  | error e => cases h
  | ok _ => rfl

def hasKind {α : Type} (kind : ErrorKind) : Except Failure α → Bool
  | .error (.helper e) => e.kind == kind
  | _ => false

theorem exists_of_hasKind {α : Type} {kind : ErrorKind} {r : Except Failure α}
    (h : hasKind kind r = true) : ∃ e, r = .error (.helper e) ∧ e.kind = kind := by
  rw [hasKind.eq_def] at h
  split at h
  · next e => exact ⟨e, rfl, eq_of_beq h⟩
  · cases h

namespace Action

variable {σ α β : Type} {R : σ → σ → Prop}

/-- Every run of the action ends in a state that is related to the one that it began in. -/
def Within (R : σ → σ → Prop) (a : Action σ α) : Prop := ∀ s, R s (a.runOn s).2

theorem Within.of_imp {Q : σ → σ → Prop} {a : Action σ α} (h : Within R a)
    (himp : ∀ s t, R s t → Q s t) : Within Q a :=
  fun s => himp s _ (h s)

section

variable [Std.Refl R]

theorem within_ofExcept (r : Except Failure α) : Within R (ofExcept r) := fun s => Std.Refl.refl s

theorem within_fail (f : Failure) : Within R (fail f : Action σ α) := fun s => Std.Refl.refl s

theorem within_pure (x : α) : Within R (pure x) := fun s => Std.Refl.refl s

theorem within_get : Within R (get : Action σ σ) := fun s => Std.Refl.refl s

end

theorem Within.attempt {a : Action σ α} (h : Within R a) : Within R (attempt a) := h

theorem Within.map {a : Action σ α} (h : Within R a) (f : α → β) : Within R (f <$> a) := by
  intro s
  rw [runOn_map]
  exact h s

theorem Within.bind [IsTrans σ R] {a : Action σ α} {f : α → Action σ β} (ha : Within R a)
    (hf : ∀ x, Within R (f x)) : Within R (a >>= f) := by
  intro s
  have hs := ha s
  rw [runOn_bind]
  cases h : a.runOn s with
  | mk r t =>
    rw [h] at hs
    cases r with
    | error e => exact hs
    | ok x => exact IsTrans.trans s t _ hs (hf x t)

/-- What follows an action only adds to what the action did. -/
theorem Within.after [Std.Refl R] (a : Action σ α) {f : α → Action σ β}
    (hf : ∀ x, Within R (f x)) (s : σ) : R (a.runOn s).2 ((a >>= f).runOn s).2 := by
  rw [runOn_bind]
  rcases a.runOn s with ⟨e | x, t⟩
  · exact Std.Refl.refl t
  · exact hf x t

end Action

/-! ## Scripts -/

namespace Script

variable {α : Type}

def All (p : α → Prop) (s : Script α) : Prop := (∀ a ∈ s.answers, p a) ∧ p s.otherwise

def Later (s t : Script α) : Prop := ∃ n, t = ⟨s.answers.drop n, s.otherwise⟩

theorem Later.refl (s : Script α) : s.Later s := ⟨0, rfl⟩

theorem Later.tail (s : Script α) : s.Later s.tail := ⟨1, rfl⟩

theorem Later.trans {s t u : Script α} (h : s.Later t) (h' : t.Later u) : s.Later u := by
  obtain ⟨n, rfl⟩ := h
  obtain ⟨m, rfl⟩ := h'
  exact ⟨n + m, by rw [List.drop_drop]⟩

theorem All.head {p : α → Prop} {s : Script α} (h : s.All p) : p s.head := by
  rw [Script.head]
  cases hs : s.answers with
  | nil => exact h.2
  | cons a rest => exact h.1 a (by simp [hs])

theorem All.later {p : α → Prop} {s t : Script α} (h : s.All p) (hl : s.Later t) : t.All p := by
  obtain ⟨n, rfl⟩ := hl
  exact ⟨fun a ha => h.1 a (List.mem_of_mem_drop ha), h.2⟩

end Script

/-! ## Trying token sources -/

def Line.isLog : Line → Bool
  | .log _ => true
  | _ => false

def Event.isLogin : Event → Bool
  | .login _ => true
  | _ => false

namespace World

/-- A world with an empty directory, in which nobody answers. -/
def bare : World where
  now := ⟨63871200000000000, by decide⟩
  environment := []
  accounts := []
  files := .empty
  http := ⟨[], .error (.foreign .noHome)⟩
  programs := ⟨[], .absent⟩
  detections := ⟨[], .error (.foreign .noHome)⟩
  logins := ⟨[], .error (.foreign .noHome)⟩
  events := []
  journal := []

/-- What trying token sources can do to a world: they take answers of the network, of programs and
of the authentication library, ask for nothing else, and show nothing but log records. -/
structure Advances (w t : World) : Prop where
  now : t.now = w.now
  environment : t.environment = w.environment
  accounts : t.accounts = w.accounts
  files : t.files = w.files
  logins : t.logins = w.logins
  http : w.http.Later t.http
  programs : w.programs.Later t.programs
  detections : w.detections.Later t.detections
  events : ∃ es, t.events = w.events ++ es ∧ ∀ e ∈ es, e.isLogin = false
  journal : ∃ lines, t.journal = w.journal ++ lines ∧ ∀ line ∈ lines, line.isLog = true

theorem Advances.refl (w : World) : w.Advances w where
  now := rfl
  environment := rfl
  accounts := rfl
  files := rfl
  logins := rfl
  http := .refl _
  programs := .refl _
  detections := .refl _
  events := ⟨[], by simp⟩
  journal := ⟨[], by simp⟩

theorem Advances.trans {w t u : World} (h : w.Advances t) (h' : t.Advances u) : w.Advances u where
  now := h'.now.trans h.now
  environment := h'.environment.trans h.environment
  accounts := h'.accounts.trans h.accounts
  files := h'.files.trans h.files
  logins := h'.logins.trans h.logins
  http := h.http.trans h'.http
  programs := h.programs.trans h'.programs
  detections := h.detections.trans h'.detections
  events := by
    obtain ⟨es, hes, hall⟩ := h.events
    obtain ⟨es', hes', hall'⟩ := h'.events
    refine ⟨es ++ es', by rw [hes', hes, List.append_assoc], fun e he => ?_⟩
    exact (List.mem_append.1 he).elim (hall e) (hall' e)
  journal := by
    obtain ⟨ls, hls, hall⟩ := h.journal
    obtain ⟨ls', hls', hall'⟩ := h'.journal
    refine ⟨ls ++ ls', by rw [hls', hls, List.append_assoc], fun l hl => ?_⟩
    exact (List.mem_append.1 hl).elim (hall l) (hall' l)

instance : Std.Refl Advances := ⟨Advances.refl⟩

instance : IsTrans World Advances := ⟨fun _ _ _ => Advances.trans⟩

theorem advances_note (w : World) {line : Line} (h : line.isLog = true) :
    w.Advances (Journaled.note line w) :=
  { Advances.refl w with journal := ⟨[line], rfl, by simpa using h⟩ }

open CredentialHelper.Action

theorem within_log (level : LogLevel) (area : String) (message : Text) :
    Within Advances (Action.log level area message) :=
  fun w => advances_note w rfl

theorem within_send {event : Event} (h : event.isLogin = false) : Within Advances (send event) :=
  fun w => { Advances.refl w with
    http := .tail _
    events := ⟨[event], rfl, by simpa using h⟩ }

theorem within_start (argv : List Text) (timeout : Option Quantity) :
    Within Advances (start argv timeout) :=
  fun w => { Advances.refl w with
    programs := .tail _
    events := ⟨[.program argv timeout], rfl, by simp [Event.isLogin]⟩ }

theorem within_detect (scopes : List Text) : Within Advances (detect scopes) :=
  fun w => { Advances.refl w with
    detections := .tail _
    events := ⟨[.detection scopes], rfl, by simp [Event.isLogin]⟩ }

end World

end CredentialHelper
