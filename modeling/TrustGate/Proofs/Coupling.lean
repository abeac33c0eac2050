import TrustGate.Proofs.Footprint

/-!
# Two runs side by side

`Coupled I R a b` compares two actions: from any two worlds that `I` relates, `a` and `b` end
alike.  Either both give results, which `R` relates, or both fail with the same failure; and
`I` relates the worlds they leave.  The rules follow the way actions are put together, so two
programs of one shape are compared part by part:

    bind, tryCatch, onFailure     the parts are coupled                (Coupled.bind, …)
    an inquiry with itself        its calls are coupled                (Inquires.coupled)
    a step on one side only       it keeps `I` and cannot fail         (Coupled.absorb)
-/

namespace TrustGate.Action

variable {π τ α β γ δ : Type} {I : World π τ → World π τ → Prop} {R : α → β → Prop}
  {S : γ → δ → Prop} {w v : World π τ}

/-- Both ends are results, or both are the same failure. -/
inductive EndsAlike (I : World π τ → World π τ → Prop) (R : α → β → Prop) :
    EStateM.Result Failure (World π τ) α → EStateM.Result Failure (World π τ) β → Prop
  | ok {x : α} {y : β} {w v : World π τ} : R x y → I w v → EndsAlike I R (.ok x w) (.ok y v)
  | error {f : Failure} {w v : World π τ} : I w v → EndsAlike I R (.error f w) (.error f v)

def Coupled (I : World π τ → World π τ → Prop) (R : α → β → Prop) (a : Action π τ α)
    (b : Action π τ β) : Prop :=
  ∀ w v, I w v → EndsAlike I R (a w) (b v)

theorem EndsAlike.final {p : EStateM.Result Failure (World π τ) α}
    {q : EStateM.Result Failure (World π τ) β} (h : EndsAlike I R p q) : I (final p) (final q) := by
  cases h with
  | ok _ hw => exact hw
  | error hw => exact hw

namespace Coupled

variable {a : Action π τ α} {b : Action π τ β}

theorem pure {x : α} {y : β} (h : R x y) :
    Coupled I R (Pure.pure x : Action π τ α) (Pure.pure y : Action π τ β) := by
  intro w v hw
  exact .ok h hw

theorem throw (f : Failure) :
    Coupled I R (MonadExcept.throw f : Action π τ α) (MonadExcept.throw f : Action π τ β) := by
  intro w v hw
  exact .error hw

theorem refuse {ρ : Type} [Cause ρ] (reason : ρ) :
    Coupled I R (Action.refuse reason : Action π τ α) (Action.refuse reason : Action π τ β) :=
  throw _

theorem ofExcept (r : Except Failure α) :
    Coupled I Eq (Action.ofExcept r : Action π τ α) (Action.ofExcept r : Action π τ α) := by
  cases r with
  | ok x => exact pure rfl
  | error f => exact throw f

theorem bind {f : α → Action π τ γ} {g : β → Action π τ δ} (hab : Coupled I R a b)
    (hfg : ∀ x y, R x y → Coupled I S (f x) (g y)) : Coupled I S (a >>= f) (b >>= g) := by
  intro w v hw
  have hends := hab w v hw
  rw [bind_eq, bind_eq]
  generalize a w = p at hends ⊢
  generalize b v = q at hends ⊢
  cases hends with
  | ok hxy hu => exact hfg _ _ hxy _ _ hu
  | error hu => exact .error hu

/-- After coupled actions with equal results the same goes on. -/
theorem bind_same {b : Action π τ α} {f : α → Action π τ γ} {g : α → Action π τ δ}
    (hab : Coupled I Eq a b) (hfg : ∀ x, Coupled I S (f x) (g x)) :
    Coupled I S (a >>= f) (b >>= g) := by
  refine bind hab fun x y hxy => ?_
  subst hxy
  exact hfg x

theorem tryCatch {handle : Failure → Action π τ α} {handle' : Failure → Action π τ β}
    (hab : Coupled I R a b) (hh : ∀ f, Coupled I R (handle f) (handle' f)) :
    Coupled I R (MonadExcept.tryCatch a handle) (MonadExcept.tryCatch b handle') := by
  intro w v hw
  have hends := hab w v hw
  rw [tryCatch_eq, tryCatch_eq]
  generalize a w = p at hends ⊢
  generalize b v = q at hends ⊢
  cases hends with
  | ok hxy hu => exact .ok hxy hu
  | error hu => exact hh _ _ _ hu

theorem onFailure {cleanUp cleanUp' : Action π τ Unit} (hab : Coupled I R a b)
    (hclean : Coupled I Eq cleanUp cleanUp') :
    Coupled I R (Action.onFailure a cleanUp) (Action.onFailure b cleanUp') :=
  tryCatch hab fun f => bind_same hclean fun _ => throw f

theorem map_same {b : Action π τ α} (f : α → γ) (hab : Coupled I Eq a b) :
    Coupled I Eq (f <$> a) (f <$> b) := by
  intro w v hw
  have hends := hab w v hw
  rw [map_eq, map_eq]
  generalize a w = p at hends ⊢
  generalize b v = q at hends ⊢
  cases hends with
  | ok hxy hu => exact .ok (congrArg f hxy) hu
  | error hu => exact .error hu

theorem modify {f g : World π τ → World π τ} (h : ∀ w v, I w v → I (f w) (g v)) :
    Coupled I Eq (modify f : Action π τ PUnit) (modify g) := by
  intro w v hw
  exact .ok rfl (h w v hw)

/-- The left side may take a step on its own if it keeps what relates the worlds. -/
theorem absorb {first : Action π τ γ} {next : γ → Action π τ α} {b : Action π τ β}
    (hfirst : ∀ w v, I w v → ∃ x u, first w = .ok x u ∧ I u v)
    (hnext : ∀ x, Coupled I R (next x) b) : Coupled I R (first >>= next) b := by
  intro w v hw
  obtain ⟨x, u, hx, hu⟩ := hfirst w v hw
  rw [bind_of_ok hx]
  exact hnext x u v hu

end Coupled

end TrustGate.Action

namespace TrustGate

variable {π τ α : Type} [Platform π τ] {I : World π τ → World π τ → Prop}
  {allowed : Call τ → Prop}

/-- An inquiry goes alike in both worlds if its calls are answered alike. -/
theorem Inquires.coupled {a : Action π τ α} (ha : Inquires allowed a)
    (hask : ∀ call, allowed call →
      Action.Coupled I Eq (TrustGate.ask call : Action π τ (Reply call)) (TrustGate.ask call)) :
    Action.Coupled I Eq a a := by
  induction ha with
  | ofExcept r => exact .ofExcept r
  | ask hcall _ ih => exact .bind_same (hask _ hcall) ih

end TrustGate
