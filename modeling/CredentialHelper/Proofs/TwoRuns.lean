import CredentialHelper.Host.Action

/-!
# Two runs side by side

Two outcomes `Agree` if they are the same failure, or values that are related.  Two actions agree if
from related states they come to outcomes that agree and leave related states; this passes through
every way to put actions together.
-/

namespace CredentialHelper

universe u

/-- Two outcomes are the same failure, or values that are related. -/
inductive Agree {ε α β : Type u} (Q : α → β → Prop) : Except ε α → Except ε β → Prop
  | ok {x : α} {y : β} (h : Q x y) : Agree Q (.ok x) (.ok y)
  | error (e : ε) : Agree Q (.error e) (.error e)

namespace Agree

variable {ε ε' α β α' β' : Type u} {Q : α → β → Prop} {Q' : α' → β' → Prop} {r : Except ε α}
  {r' : Except ε β}

theorem refl {Q : α → α → Prop} (h : ∀ x, Q x x) (r : Except ε α) : Agree Q r r := by
  cases r with
  | error e => exact .error e
  | ok x => exact .ok (h x)

theorem bind {f : α → Except ε α'} {g : β → Except ε β'} (h : Agree Q r r')
    (hf : ∀ x y, Q x y → Agree Q' (f x) (g y)) : Agree Q' (r.bind f) (r'.bind g) := by
  cases h with
  | ok h => exact hf _ _ h
  | error e => exact .error e

theorem map {f : α → α'} {g : β → β'} (h : Agree Q r r') (hf : ∀ x y, Q x y → Q' (f x) (g y)) :
    Agree Q' (r.map f) (r'.map g) := by
  cases h with
  | ok h => exact .ok (hf _ _ h)
  | error e => exact .error e

theorem mapError (f : ε → ε') (h : Agree Q r r') : Agree Q (r.mapError f) (r'.mapError f) := by
  cases h with
  | ok h => exact .ok h
  | error e => exact .error (f e)

end Agree

namespace Action

variable {σ α β α' β' : Type} {S : σ → σ → Prop} {Q : α → β → Prop} {Q' : α' → β' → Prop}

/-- From related states two actions come to outcomes that agree, and leave related states. -/
def Agrees (S : σ → σ → Prop) (Q : α → β → Prop) (a : Action σ α) (b : Action σ β) : Prop :=
  ∀ s t, S s t → Agree Q (a.runOn s).1 (b.runOn t).1 ∧ S (a.runOn s).2 (b.runOn t).2

theorem agrees_ofExcept {r : Except Failure α} {r' : Except Failure β} (h : Agree Q r r') :
    Agrees S Q (ofExcept r) (ofExcept r') :=
  fun _ _ hst => ⟨h, hst⟩

theorem agrees_pure {x : α} {y : β} (h : Q x y) : Agrees S Q (pure x) (pure y) :=
  fun _ _ hst => ⟨.ok h, hst⟩

theorem agrees_fail (f : Failure) : Agrees S Q (fail f) (fail f) := fun _ _ hst => ⟨.error f, hst⟩

theorem agrees_get : Agrees S S get get := fun _ _ hst => ⟨.ok hst, hst⟩

theorem Agrees.bind {a : Action σ α} {b : Action σ β} {f : α → Action σ α'} {g : β → Action σ β'}
    (h : Agrees S Q a b) (hf : ∀ x y, Q x y → Agrees S Q' (f x) (g y)) :
    Agrees S Q' (a >>= f) (b >>= g) := by
  intro s t hst
  have hruns := h s t hst
  rw [runOn_bind, runOn_bind]
  generalize a.runOn s = p, b.runOn t = q at hruns
  obtain ⟨r, s'⟩ := p
  obtain ⟨r', t'⟩ := q
  obtain ⟨houtcome, hstate⟩ := hruns
  cases houtcome with
  | ok h => exact hf _ _ h _ _ hstate
  | error e => exact ⟨.error e, hstate⟩

theorem Agrees.attempt {a : Action σ α} {b : Action σ β} (h : Agrees S Q a b) :
    Agrees S (Agree Q) (attempt a) (attempt b) :=
  fun s t hst => ⟨.ok (h s t hst).1, (h s t hst).2⟩

theorem Agrees.map {a : Action σ α} {b : Action σ β} {f : α → α'} {g : β → β'}
    (h : Agrees S Q a b) (hf : ∀ x y, Q x y → Q' (f x) (g y)) :
    Agrees S Q' (f <$> a) (g <$> b) := by
  intro s t hst
  rw [runOn_map, runOn_map]
  exact ⟨(h s t hst).1.map hf, (h s t hst).2⟩

end Action

end CredentialHelper
