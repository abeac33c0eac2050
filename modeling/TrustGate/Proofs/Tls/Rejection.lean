import TrustGate.Proofs.Tls.Gate

/-!
# After a rejection

A rejected chain fails the operation that had it checked and leaves the session unverified.
The rejection is not remembered: the next operation has the chain checked once more, and
the validators may answer differently then.

    Rejects id host vs op u w'    in `op`, from `u` to `w'`, a validator rejects the chain

So data may go through a session after a rejection, but not before a pass that starts after
the rejection ends well.
-/

namespace TrustGate

namespace Tls.Session

variable {π τ : Type} [Platform π τ]

/-- An operation fails because in the check that it makes a validator rejects the chain. -/
def Rejects (id : SocketId) (host : Option String) (vs : List Trust.Provider) (op : Operation)
    (u w' : World π τ) : Prop :=
  (known u id).verified = false ∧
    ∃ g x, Refused id host vs u g x ∧ op.perform id u = .error (handshakeRejection g) w'

end Tls.Session

/-! ## Validators that change their minds -/

namespace Rehearsal

/-- A stage on which custom validators answer in turn, and then accept. -/
structure Turns where
  stage : Stage
  verdicts : List (Except Failure Unit)

def Turns.answer (t : Turns) : (call : Call Float) → Reply call × Turns
  | .consult _ =>
    match t.verdicts with
    | [] => (.ok (), t)
    | v :: rest => (v, { t with verdicts := rest })
  | call => ((t.stage.answer call).1, { t with stage := (t.stage.answer call).2 })

instance : Platform Turns Float where
  answer call t := t.answer call
  recordTime t := .float t.stage.now

end Rehearsal

namespace Tls.Session

/-- A certificate that is not valid yet. -/
def notYetValid : Failure := Failure.plain .certificateRejected "not yet valid"

/-- A world whose validator rejects once and then accepts. -/
def wavering : World Rehearsal.Turns Float :=
  .initial ⟨.start 0.0 0.0, [.error notYetValid]⟩ .empty

/-- The world after a rejected write. -/
def rejected : World Rehearsal.Turns Float :=
  ((Operation.write [1]).perform 0).after (strict.started 0 none wavering)

theorem rejects_wavering :
    Rejects 0 none strict.validators (.write [1]) (strict.started 0 none wavering) rejected :=
  ⟨rfl, notYetValid, _, ⟨rfl, _, [], _, [], _, [], _, rfl, rfl, rfl, .nil, rfl, rfl⟩, rfl⟩

/-- A rejection does not bar data for good: a second write goes through. -/
theorem rejection_not_final :
    ¬∀ (c : Context) (socket id : SocketId) (host : Option String) (handshake : Bool)
      (before later : List Operation) (op : Operation) (w w₀ w₁ : World Rehearsal.Turns Float),
      c.validators ≠ [] → c.wrap socket host handshake w = .ok id w₀ →
      Rejects id (known w₀ id).host c.validators op (run id before w₀) w₁ →
      ∀ call reply past, IsData id call →
        .called call reply :: past <:+ (run id later w₁).history → ¬w₁.history <:+ past := by
  intro h
  have hpast := (requireTrusted_guarded 0 rejected).grows
  exact h strict 0 0 none false [] [.write [1]] (.write [1]) wavering _ rejected strict_validators
    rfl rejects_wavering (.write 0 [1]) (Except.ok 1) ((requireTrusted 0).after rejected).history
    rfl List.suffix_rfl hpast

/-! ## What a rejection settles -/

variable {π τ : Type} [Platform π τ]

/-- From one world the chain is either approved or denied. -/
theorem not_approved_of_denied {id : SocketId} {host : Option String} {vs : List Trust.Provider}
    {u x p : World π τ} {g : Failure} (h : Denied id host vs u g x) : ¬Approved id host vs u p := by
  rintro ⟨u₁, chain, authType, hchain, hauth, hvs⟩
  obtain ⟨u₁', chain', authType', before, v, rest, u₂, hchain', hauth', hsplit, hbefore, hv, -⟩ := h
  rw [hchain] at hchain'
  cases hchain'
  rw [hauth] at hauth'
  cases hauth'
  have hok := (askAll_ok_iff ..).mpr hvs
  have herror := (askAll_error_iff ..).mpr ⟨before, v, rest, u₂, hsplit, hbefore, hv⟩
  rw [hok] at herror
  cases herror

theorem not_cleared_of_refused {id : SocketId} {host : Option String} {vs : List Trust.Provider}
    {u x p : World π τ} {g : Failure} (h : Refused id host vs u g x) : ¬Cleared id host vs u p :=
  fun hp => not_approved_of_denied h.2 hp.2

/-- An operation that was rejected leaves the session unverified, and data since it began was asked
for after a pass that started when it was over. -/
theorem data_after_rejection_only_after_pass (c : Context) (hc : c.validators ≠ [])
    (socket id : SocketId) (host : Option String) (handshake : Bool) (before later : List Operation)
    (op : Operation) (w w₀ w₁ : World π τ) (hw : c.wrap socket host handshake w = .ok id w₀)
    (hop : Rejects id (known w₀ id).host c.validators op (run id before w₀) w₁) :
    (known w₁ id).verified = false ∧
      ∀ call reply past, IsData id call →
        .called call reply :: past <:+ (run id later w₁).history →
        (run id before w₀).history <:+ past →
        ∃ done p, done <+: later ∧
          Cleared id (known w₀ id).host c.validators (run id done w₁) p ∧ p.history <:+ past := by
  obtain ⟨hv, g, x, hrefused, hop⟩ := hop
  have htraced := run_traced id (c.started id host w) (started_unverified hc)
    (if handshake then .handshake :: before else before)
  rw [← run_of_wrap hw before] at hv hrefused hop ⊢
  have hhost := htraced.host
  have hvalidators := htraced.validators
  rw [Context.known_started] at hhost hvalidators
  rw [← host_of_wrap hw] at hhost
  generalize run id _ (c.started id host w) = u at hv hrefused hop hhost hvalidators ⊢
  have hnot : ∀ p, ¬Cleared id (known u id).host (known u id).validators u p := by
    rw [hhost, hvalidators]
    exact fun p => not_cleared_of_refused hrefused
  have hlater : ∀ ops, run id (op :: ops) u = run id ops w₁ := fun ops => by
    rw [run, List.foldl_cons, Action.after_of_error hop]
    rfl
  constructor
  · have hguarded := Operation.guarded id op u
    rw [Action.after_of_error hop] at hguarded
    cases hverified : (known w₁ id).verified with
    | false => rfl
    | true =>
      rcases hguarded.verified hverified with h | ⟨p, hp, -⟩
      · rw [hv] at h
        cases h
      · exact (hnot p hp).elim
  · intro call reply past hdata hcall hpast
    rw [← hlater later] at hcall
    obtain ⟨done, p, hdone, hp, hle⟩ :=
      (run_traced id u hv (op :: later)).data call reply past hdata hcall hpast
    -- the pass did not start where the chain was rejected, so it started later
    rcases List.prefix_cons_iff.mp hdone with rfl | ⟨rest, rfl, hrest⟩
    · exact (hnot p hp).elim
    · rw [hlater rest, hhost, hvalidators] at hp
      exact ⟨rest, p, hrest, hp, hle⟩

/-- The second of two writes, where the validator has changed its mind in between. -/
theorem data_after_rejection_only_after_pass_second_write :
    strict.validators ≠ [] ∧ ∃ w₀ reply past, strict.wrap 0 none false wavering = .ok 0 w₀ ∧
      Rejects 0 none strict.validators (.write [1]) (run 0 [] w₀) rejected ∧
      .called (.write 0 [1]) reply :: past <:+ (run 0 [.write [1]] rejected).history ∧
      (run 0 [] w₀).history <:+ past ∧ (known rejected 0).verified = false ∧
      ∃ done p, done <+: [.write [1]] ∧ Cleared 0 none strict.validators (run 0 done rejected) p ∧
        p.history <:+ past := by
  obtain ⟨hv, hdata⟩ := data_after_rejection_only_after_pass strict strict_validators 0 0 none false
    [] [.write [1]] (.write [1]) wavering _ rejected rfl rejects_wavering
  have hpast := (Operation.guarded 0 (.write [1]) (strict.started 0 none wavering)).grows.trans
    (requireTrusted_guarded 0 rejected).grows
  exact ⟨strict_validators, _, Except.ok 1, ((requireTrusted 0).after rejected).history, rfl,
    rejects_wavering, List.suffix_rfl, hpast, hv,
    hdata (.write 0 [1]) (Except.ok 1) _ rfl List.suffix_rfl hpast⟩

end Tls.Session

end TrustGate
