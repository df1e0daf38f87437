import CredentialHelper.Failure.Error
import CredentialHelper.Host.Journal

/-!
# Actions

An action works on a state and ends with a value or a failure. What it did to the state before a
failure stays done. `runOn_bind` says how two actions follow each other.
-/

namespace CredentialHelper

/-- An operation on a state that can fail. -/
abbrev Action (σ α : Type) : Type := ExceptT Failure (StateM σ) α

namespace Action

variable {σ α : Type}

def runOn (a : Action σ α) (s : σ) : Except Failure α × σ := Id.run (StateT.run (ExceptT.run a) s)

def ofFunction (f : σ → Except Failure α × σ) : Action σ α := ExceptT.mk (fun s => pure (f s))

def ofExcept (r : Except Failure α) : Action σ α := ofFunction fun s => (r, s)

def fail (f : Failure) : Action σ α := ofExcept (.error f)

def attempt (a : Action σ α) : Action σ (Except Failure α) :=
  ofFunction fun s =>
    let (r, s) := a.runOn s
    (.ok r, s)

def note [Journaled σ] (line : Line) : Action σ Unit := modify (Journaled.note line)

def log [Journaled σ] (level : LogLevel) (area : String) (message : Text) : Action σ Unit :=
  note (.log ⟨level, area, message⟩)

def tell [Journaled σ] (text : Text) : Action σ Unit := note (.status text)

/-! ## What an action does to a state -/

@[simp] theorem runOn_ofFunction (f : σ → Except Failure α × σ) (s : σ) :
    (ofFunction f).runOn s = f s := rfl

@[simp] theorem runOn_ofExcept (r : Except Failure α) (s : σ) :
    (ofExcept r : Action σ α).runOn s = (r, s) := rfl

@[simp] theorem runOn_fail (f : Failure) (s : σ) :
    (fail f : Action σ α).runOn s = (.error f, s) := rfl

@[simp] theorem runOn_attempt (a : Action σ α) (s : σ) :
    (attempt a).runOn s = (.ok (a.runOn s).1, (a.runOn s).2) := rfl

@[simp] theorem runOn_note [Journaled σ] (line : Line) (s : σ) :
    (note line).runOn s = (.ok (), Journaled.note line s) := rfl

@[simp] theorem runOn_log [Journaled σ] (level : LogLevel) (area : String) (message : Text)
    (s : σ) :
    (log level area message).runOn s = (.ok (), Journaled.note (.log ⟨level, area, message⟩) s) :=
  rfl

@[simp] theorem runOn_tell [Journaled σ] (text : Text) (s : σ) :
    (tell text).runOn s = (.ok (), Journaled.note (.status text) s) := rfl

@[simp] theorem runOn_get (s : σ) : (get : Action σ σ).runOn s = (.ok s, s) := rfl

@[simp] theorem runOn_pure (x : α) (s : σ) : (pure x : Action σ α).runOn s = (.ok x, s) := rfl

theorem runOn_bind {β : Type} (a : Action σ α) (f : α → Action σ β) (s : σ) :
    (a >>= f).runOn s =
      match a.runOn s with
      | (.ok x, t) => (f x).runOn t
      | (.error e, t) => (.error e, t) := by
  unfold runOn ExceptT.run StateT.run Id.run
  simp only [bind, ExceptT.bind, ExceptT.mk, StateT.bind, ExceptT.bindCont]
  cases a s with
  | mk r t => cases r <;> rfl

theorem exists_of_bind_eq_ok {β : Type} {a : Action σ α} {f : α → Action σ β} {s t : σ} {y : β}
    (h : (a >>= f).runOn s = (.ok y, t)) :
    ∃ x u, a.runOn s = (.ok x, u) ∧ (f x).runOn u = (.ok y, t) := by
  rw [runOn_bind] at h
  rcases hrun : a.runOn s with ⟨e | x, u⟩
  · rw [hrun] at h
    cases h
  · rw [hrun] at h
    exact ⟨x, u, rfl, h⟩

theorem runOn_map {β : Type} (f : α → β) (a : Action σ α) (s : σ) :
    (f <$> a).runOn s = ((a.runOn s).1.map f, (a.runOn s).2) := by
  unfold runOn ExceptT.run StateT.run Id.run
  simp only [Functor.map, ExceptT.map, ExceptT.mk, bind, StateT.bind]
  cases a s with
  | mk r t => cases r <;> rfl

theorem exists_of_map_eq_ok {β : Type} {a : Action σ α} {f : α → β} {s t : σ} {y : β}
    (h : (f <$> a).runOn s = (.ok y, t)) : ∃ x, a.runOn s = (.ok x, t) ∧ y = f x := by
  rw [runOn_map] at h
  rcases hrun : a.runOn s with ⟨e | x, u⟩
  · rw [hrun] at h
    cases h
  · rw [hrun] at h
    cases h
    exact ⟨x, rfl, rfl⟩

end Action

end CredentialHelper
