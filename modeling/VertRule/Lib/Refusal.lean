import VertRule.Lib.Except

/-!
# Computations that refuse more

A computation that has the outcome of another one, or refuses: it fails with an error of a given
kind.  The relation is kept by composition, so that a pipeline refuses more when its checks do.
-/

namespace Refusal

universe u v w

variable {ε : Type u} {ε' : Type w} {α β : Type v}

/-- `x` has the outcome of `y`, or fails with an error of the kind `refusal`. -/
def EqUnless (refusal : ε → Prop) (x y : Except ε α) : Prop :=
  x = y ∨ ∃ e, refusal e ∧ x = .error e

variable {refusal : ε → Prop} {x y : Except ε α}

theorem EqUnless.refl (x : Except ε α) : EqUnless refusal x x := .inl rfl

/-- **Refusing more is kept by composition.** -/
theorem EqUnless.bind {f g : α → Except ε β} (h : EqUnless refusal x y)
    (hf : ∀ a, EqUnless refusal (f a) (g a)) : EqUnless refusal (x >>= f) (y >>= g) := by
  rcases h with rfl | ⟨e, he, rfl⟩
  · cases x with
    | error e => exact .inl rfl
    | ok a => exact hf a
  · exact .inr ⟨e, he, rfl⟩

/-- A check that passes whenever a tighter one does. -/
theorem EqUnless.check {x y : Except ε Unit} (hok : x = .ok () → y = .ok ())
    (herr : ∀ e, x = .error e → refusal e) : EqUnless refusal x y := by
  cases x with
  | error e => exact .inr ⟨e, herr e rfl, rfl⟩
  | ok u => exact .inl (hok rfl).symm

/-- Errors may be wrapped. -/
theorem EqUnless.mapError {wrap : ε → ε'} {refusal' : ε' → Prop} (h : EqUnless refusal x y)
    (hwrap : ∀ e, refusal e → refusal' (wrap e)) :
    EqUnless refusal' (x.mapError wrap) (y.mapError wrap) := by
  rcases h with rfl | ⟨e, he, rfl⟩
  · exact .refl _
  · exact .inr ⟨wrap e, hwrap e he, rfl⟩

end Refusal
