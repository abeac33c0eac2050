import TrustGate.Proofs.Tls.Pass

/-!
# Trust checks that fail

A session that is not verified has the peer's chain checked before it does anything else.  If
that fails, so does what the session was asked to do:

    Fails id w f w'               the check of the chain fails with `f`
    Unreadable id w f             a certificate of the chain, or the key of its leaf, cannot be read

A chain that can be read is checked by validators, and one that they do not accept is counted
as rejected and fails the handshake.  A chain that cannot be read is nobody's decision: its
fault passes as it is                                             (failed_check_iff).
-/

namespace TrustGate

/-! ## Validators that decide -/

namespace Trust.Provider

/-- Whatever the provider is asked about, it accepts or rejects. -/
def Decides (π τ : Type) [Platform π τ] (p : Provider) : Prop :=
  ∀ (chain : List Certificate) (authType : String) (host : Option String) (w w' : World π τ)
    (f : Failure), p.check chain authType host w = .error f w' → f.kind = .certificateRejected

/-- Telling an observer is not the check. -/
theorem Decides.delegate {π τ : Type} [Platform π τ] {p : Provider} {o : Observer}
    (hp : p.Decides π τ) (ho : o.IsMild) : (Provider.delegate p o).Decides π τ := by
  intro chain authType host w w' f h
  obtain ⟨j, hnotify⟩ := Observer.notify_mild ho ⟨chain, authType, host, p.typeName⟩ w
  exact hp chain authType host _ w' f ((Action.bind_of_ok hnotify _).symm.trans h)

end Trust.Provider

namespace Tls.Session

variable {π τ : Type} [Platform π τ] {id : SocketId} {w w' u x : World π τ}
  {chain : List Certificate} {authType : String} {f g : Failure}

/-- Validators that decide are done when one of them rejects. -/
theorem askAll_decides {host : Option String} {vs : List Trust.Provider}
    (hvs : ∀ v ∈ vs, v.Decides π τ) (h : askAll chain authType host vs w = .error f x) :
    f.kind = .certificateRejected ∧ x.counters = w.counters := by
  obtain ⟨before, v, rest, u, rfl, hbefore, hv⟩ := (askAll_error_iff ..).mp h
  have hquiet := (v.check_quietly chain authType host).of_error hv
  exact ⟨hvs v (by simp) chain authType host u x f hv,
    hquiet.counters.trans hbefore.quiet.counters⟩

/-! ## Chains that cannot be read -/

/-- The engine tells what the peer presents. -/
def Answers (id : SocketId) (w : World π τ) : Prop :=
  ∃ ders, w.reply (.verifiedChain id) = Except.ok ders ∧
    (ders = [] → ∃ der, (w.asked (.verifiedChain id)).reply (.peer id) = Except.ok der)

/-- What the peer presents is no certificate, or its leaf has a key of no known algorithm. -/
inductive Unreadable (id : SocketId) (w : World π τ) (f : Failure) : Prop where
  | verified {before rest : List Octets} {der : Octets} {certificates : List Certificate}
      (presented : w.reply (.verifiedChain id) = Except.ok (before ++ der :: rest))
      (loaded : before.Forall₂ (fun der c => Certificate.ofOctets der = .ok c) certificates)
      (fault : Certificate.ofOctets der = .error f)
  | leaf {der : Octets} (unverified : w.reply (.verifiedChain id) = Except.ok [])
      (presented : (w.asked (.verifiedChain id)).reply (.peer id) = Except.ok (some der))
      (nonempty : der ≠ []) (fault : Certificate.ofOctets der = .error f)
  | key {leaf : Certificate} {rest : List Certificate} {u : World π τ}
      (presents : Presents id w (leaf :: rest) u) (fault : leaf.authType = .error f)

/-- What the peer presents can be read, the key of the leaf included. -/
def Readable (id : SocketId) (w : World π τ) : Prop :=
  ∃ chain authType u, Presents id w chain u ∧ chainAuthType chain = .ok authType

theorem Presents.readable_or (h : Presents id w chain u) :
    Readable id w ∨ ∃ f, Unreadable id w f := by
  cases chain with
  | nil => exact .inl ⟨_, _, _, h, rfl⟩
  | cons leaf rest =>
    cases hauth : leaf.authType with
    | ok authType => exact .inl ⟨_, authType, _, h, hauth⟩
    | error f => exact .inr ⟨f, .key h hauth⟩

theorem readable_or_unreadable (h : Answers id w) :
    Readable id w ∨ ∃ f, Unreadable id w f := by
  obtain ⟨ders, hders, hpeer⟩ := h
  by_cases hnone : ders = []
  · subst hnone
    obtain ⟨der, hpeer⟩ := hpeer rfl
    match der with
    | none => exact (Presents.nothing hders hpeer rfl).readable_or
    | some [] => exact (Presents.nothing hders hpeer rfl).readable_or
    | some (b :: bs) =>
      have hne := List.cons_ne_nil b bs
      cases hload : Certificate.ofOctets (b :: bs) with
      | ok c => exact (Presents.leaf hders hpeer hne hload).readable_or
      | error f => exact .inr ⟨f, .leaf hders hpeer hne hload⟩
  · cases hload : ders.mapM Certificate.ofOctets with
    | ok chain =>
      exact (Presents.verified hders hnone (mapM_eq_ok_iff.mp hload)).readable_or
    | error f =>
      obtain ⟨before, der, rest, certificates, rfl, hbefore, hfault⟩ :=
        mapM_eq_error_iff.mp hload
      exact .inr ⟨f, .verified hders hbefore hfault⟩

theorem Unreadable.kind (h : Unreadable id w f) :
    f.kind = .value ∨ f.kind = .invalidVersion ∨ f.kind = .unsupportedAlgorithm := by
  have hload {der : Octets} (hfault : Certificate.ofOctets der = .error f) :
      f.kind = .value ∨ f.kind = .invalidVersion ∨ f.kind = .unsupportedAlgorithm := by
    rcases Certificate.ofOctets_error_iff.mp hfault with ⟨-, rfl⟩ | ⟨version, -, rfl⟩
    · exact .inl rfl
    · exact .inr (.inl rfl)
  cases h with
  | verified _ _ hfault => exact hload hfault
  | leaf _ _ _ hfault => exact hload hfault
  | key _ hfault => exact (Certificate.authType_failsAs _ f hfault).imp_right .inr

theorem verifyPeerChain_of_error (hv : (known w id).verified = false)
    (h : peerChain id w = .error f x) : verifyPeerChain id w = .error f x := by
  unfold verifyPeerChain
  rw [Action.bind_of_ok (find_eq id w), hv]
  exact Action.bind_of_error h _

theorem verifyPeerChain_of_nameless (hv : (known w id).verified = false)
    (hchain : peerChain id w = .ok chain u) (h : chainAuthType chain = .error f) :
    verifyPeerChain id w = .error f u := by
  unfold verifyPeerChain
  rw [Action.bind_of_ok (find_eq id w), hv]
  simp only [Bool.not_false, if_true]
  rw [Action.bind_of_ok hchain, h]
  exact Action.bind_of_error (Action.ofExcept_error f u) _

theorem verifyPeerChain_of_unreadable (ho : (known w id).isOpen = true)
    (hv : (known w id).verified = false) (h : Unreadable id w f) :
    ∃ x, verifyPeerChain id w = .error f x ∧ x.counters = w.counters := by
  have hread {x : World π τ} (hchain : peerChain id w = .error f x) :
      ∃ x, verifyPeerChain id w = .error f x ∧ x.counters = w.counters :=
    ⟨x, verifyPeerChain_of_error hv hchain, ((peerChain_quietly id).of_error hchain).counters⟩
  cases h with
  | @verified before rest der certificates hders hbefore hfault =>
    have hload := mapM_eq_error_iff.mpr ⟨before, der, rest, certificates, rfl, hbefore, hfault⟩
    refine hread (x := w.asked (.verifiedChain id)) ?_
    rw [peerChain_of_verified hders (by simp), hload]
    rfl
  | leaf hders hpeer hne hfault =>
    refine hread (x := (w.asked (.verifiedChain id)).asked (.peer id)) ?_
    rw [peerChain_of_unverified ho hders hpeer, leafChain_some hne, hfault]
    rfl
  | @key leaf rest u hpresents hfault =>
    have hchain := peerChain_of_presents ho hpresents
    exact ⟨u, verifyPeerChain_of_nameless hv hchain hfault,
      ((peerChain_quietly id).of_ok hchain).counters⟩

/-- A chain that is read and not accepted is counted as rejected. -/
theorem Begins.rejected (h : Begins id w chain authType u) (hv : (known w id).verified = false)
    (hdecides : ∀ v ∈ (known w id).validators, v.Decides π τ)
    (hfails : verifyPeerChain id (w.asked (.handshake id)) = .error f w') :
    f.kind = .sslVerification ∧
      w'.counters = w.counters.addDecision Metrics.Decision.rejected.label := by
  have ho : (known (w.asked (.handshake id)) id).isOpen = true := h.isOpen
  have hread : u.counters = w.counters :=
    ((peerChain_quietly id).of_ok (peerChain_of_presents ho h.presents)).counters
  rw [h.verifyPeerChain_eq hv] at hfails
  cases hasked : askAll chain authType (known w id).host (known w id).validators u with
  | ok _ x =>
    rw [Action.bind_of_ok (Action.tryCatch_of_ok hasked _)] at hfails
    cases hfails
  | error g x =>
    obtain ⟨hkind, hquiet⟩ := askAll_decides hdecides hasked
    obtain ⟨j, hexplained⟩ := explainRejection_eq (known w id).host g x
    rw [if_pos hkind] at hexplained
    rw [Action.bind_of_error ((Action.tryCatch_of_error hasked _).trans hexplained)] at hfails
    cases hfails
    refine ⟨rfl, ?_⟩
    rw [← hread, ← hquiet]
    rfl

/-! ## Operations -/

/-- Operations that have the chain of an unverified session checked first. -/
def Operation.ChecksFirst : Operation → Prop
  | .handshake | .read _ | .write _ | .send _ => True
  | _ => False

/-- From an unverified session whose engine finishes its handshake, the check of the chain fails. -/
structure Fails (id : SocketId) (w : World π τ) (f : Failure) (w' : World π τ) : Prop where
  unverified : (known w id).verified = false
  isOpen : (known w id).isOpen = true
  handshake : w.reply (.handshake id) = Except.ok ()
  check : verifyPeerChain id (w.asked (.handshake id)) = .error f w'

theorem Fails.doHandshake (h : Fails id w f w') : doHandshake id w = .error f w' := by
  rw [doHandshake_eq, if_pos h.isOpen]
  simp only [h.handshake, h.check]

/-- A failed check fails the operation, which does nothing else. -/
theorem Fails.perform (h : Fails id w f w') {op : Operation} (hop : op.ChecksFirst) :
    op.perform id w = .error f w' := by
  have hrequire : requireTrusted id w = .error f w' := by
    rw [requireTrusted_eq, h.unverified, h.isOpen]
    exact h.doHandshake
  have hgated {α : Type} (work : Action π τ α) (closed : Failure) :
      (discard (gated id work closed) : Action π τ PUnit) w = .error f w' := by
    change ((fun _ => PUnit.unit) <$> gated id work closed : Action π τ PUnit) w = _
    rw [Action.map_eq, gated_eq, hrequire]
  cases op with
  | handshake => exact h.doHandshake
  | read size => exact hgated _ _
  | write data => exact hgated _ _
  | send data => exact hgated _ _
  | receive size => exact hop.elim
  | sendAll data => exact hop.elim
  | close => exact hop.elim

end Tls.Session

/-! ## A panel -/

namespace Rehearsal

/-- A stage on which every validator of a caller's own making accepts, or rejects for the one
reason. -/
structure Panel where
  stage : Stage
  reason : Option String

def Panel.answer (p : Panel) : (call : Call Float) → Reply call × Panel
  | .consult _ => (Stage.outcome (p.reason.map (Failure.plain .certificateRejected)), p)
  | call => ((p.stage.answer call).1, { p with stage := (p.stage.answer call).2 })

instance : Platform Panel Float where
  answer call p := p.answer call
  recordTime p := .float p.stage.now

end Rehearsal

namespace Tls.Session

theorem judge_decides (number : Nat) : (judge number).Decides Rehearsal.Panel Float := by
  intro chain authType host w w' f h
  have hconsult : (judge number).check chain authType host w =
      Action.ofExcept (Rehearsal.Stage.outcome
        (w.platform.reason.map (Failure.plain .certificateRejected)))
        (w.asked (.consult ⟨⟨number, "Validator", .missing, .usable, .missing⟩, chain, authType,
          host⟩)) := rfl
  rw [hconsult] at h
  cases hreason : w.platform.reason with
  | none =>
    rw [hreason] at h
    cases h
  | some reason =>
    rw [hreason] at h
    cases h
    rfl

/-- A context with a validator of a caller's own making behind a delegate. -/
def observed : Context := ⟨0, .tls12, true, [.delegate (judge 0) .silent]⟩

theorem observed_decides (w : World Rehearsal.Panel Float) :
    ∀ v ∈ (known (observed.started 0 none w) 0).validators, v.Decides Rehearsal.Panel Float := by
  intro v hv
  rw [Context.known_started] at hv
  rcases List.mem_singleton.mp hv with rfl
  exact (judge_decides 0).delegate Trust.Observer.silent_isMild

/-- The engine verified a chain that is no certificate. -/
def garbled : World Rehearsal.Panel Float :=
  .initial ⟨{ Rehearsal.Stage.start 0.0 0.0 with
    session := { Rehearsal.SessionScript.plain with verifiedChain := [[0]] } }, none⟩ .empty

end Tls.Session

end TrustGate
