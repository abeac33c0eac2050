import TrustGate.Proofs.Footprint

/-!
# Handshakes and the check of the peer's chain

What one handshake can come to.  Once the engine has finished its part, the chain is read
and the validators are asked in order, up to the first that fails:

    Approved id host vs u p     from `u` on the chain is read and all of `vs` accept it, up to `p`
    Denied id host vs u g x     after some of them accepted, one rejects it with `g`, at `x`
    PeerCheck id w r            `r` is how `verifyPeerChain id` can end from `w`
    Cleared, Refused            the same behind a successful handshake of the engine

    verifyPeerChain_check       verifyPeerChain id w has one of the ends that PeerCheck lists
    doHandshake_eq, requireTrusted_eq, read_eq, …   operations, one step of the platform at a time
-/

namespace TrustGate.Tls

namespace Session

open TrustGate.Action (Quietly)

variable {π τ : Type}

/-- A session as a world knows it. -/
def known (w : World π τ) (id : SocketId) : Session := (w.sessions id).getD unknown

theorem known_setSession (w : World π τ) (id : SocketId) (s : Session) :
    known (w.setSession id s) id = s := by
  unfold known
  rw [World.sessions_setSession_self]
  rfl

theorem known_of_quiet {allowed : Call τ → Prop} {w w' : World π τ} (h : Quiet allowed w w')
    (id : SocketId) : known w' id = known w id := by
  unfold known
  rw [h.sessions]

theorem find_eq (id : SocketId) (w : World π τ) :
    (find id : Action π τ Session) w = .ok (known w id) w := rfl

variable [Platform π τ]

/-! ## Asking the validators -/

/-- Each of the validators accepts the chain, one after the other. -/
inductive Accepts (chain : List Certificate) (authType : String) (host : Option String) :
    List Trust.Provider → World π τ → World π τ → Prop
  | nil {w : World π τ} : Accepts chain authType host [] w w
  | cons {v : Trust.Provider} {vs : List Trust.Provider} {w u x : World π τ} :
      v.check chain authType host w = .ok () u → Accepts chain authType host vs u x →
      Accepts chain authType host (v :: vs) w x

theorem askAll_ok_iff (chain : List Certificate) (authType : String) (host : Option String)
    (vs : List Trust.Provider) (w x : World π τ) :
    askAll chain authType host vs w = .ok () x ↔ Accepts chain authType host vs w x := by
  induction vs generalizing w with
  | nil =>
    constructor
    · intro h
      cases h
      exact .nil
    · intro h
      cases h
      rfl
  | cons v vs ih =>
    unfold askAll
    rw [Action.bind_eq]
    constructor
    · intro h
      cases hv : v.check chain authType host w with
      | ok _ u =>
        rw [hv] at h
        exact .cons hv ((ih u).mp h)
      | error f u =>
        rw [hv] at h
        cases h
    · rintro (_ | ⟨hv, hvs⟩)
      rw [hv]
      exact (ih _).mpr hvs

/-- Asking all fails as the first validator that does not accept. -/
theorem askAll_error_iff (chain : List Certificate) (authType : String) (host : Option String)
    (vs : List Trust.Provider) (w x : World π τ) (f : Failure) :
    askAll chain authType host vs w = .error f x ↔
      ∃ before v rest u, vs = before ++ v :: rest ∧ Accepts chain authType host before w u ∧
        v.check chain authType host u = .error f x := by
  constructor
  · intro h
    induction vs generalizing w with
    | nil => cases h
    | cons v vs ih =>
      unfold askAll at h
      rw [Action.bind_eq] at h
      cases hv : v.check chain authType host w with
      | ok _ u =>
        rw [hv] at h
        obtain ⟨before, v', rest, u', rfl, hbefore, hv'⟩ := ih u h
        exact ⟨v :: before, v', rest, u', rfl, .cons hv hbefore, hv'⟩
      | error g u =>
        rw [hv] at h
        cases h
        exact ⟨[], v, vs, w, rfl, .nil, hv⟩
  · rintro ⟨before, v, rest, u, rfl, hbefore, hv⟩
    induction hbefore with
    | nil => exact Action.bind_of_error hv _
    | cons hv' _ ih => exact (Action.bind_of_ok hv' _).trans (ih hv)

theorem Accepts.quiet {chain : List Certificate} {authType : String} {host : Option String}
    {vs : List Trust.Provider} {w x : World π τ} (h : Accepts chain authType host vs w x) :
    Quiet Call.IsInquiry w x := by
  induction h with
  | nil => exact .refl _
  | cons hv _ ih => exact ((Trust.Provider.check_quietly _ chain authType host).of_ok hv).trans ih

theorem peerChain_quietly (id : SocketId) :
    Quietly Call.IsInquiry (peerChain id : Action π τ (List Certificate)) := by
  unfold peerChain
  refine .bind (.ask trivial) fun reply => .bind (.ofExcept _) fun verified => ?_
  split
  · exact .ofExcept _
  · refine .bind (.bind .get fun w => .pure _) fun s => ?_
    split
    · exact .refuse _
    · refine .bind (.ask trivial) fun reply => .bind (.ofExcept _) fun leaf => ?_
      split
      · exact .pure _
      · exact .pure _
      · exact .bind (.ofExcept _) fun c => .pure _

/-! ## One pass over the validators -/

/-- The peer's chain is read and all validators accept it. -/
def Approved (id : SocketId) (host : Option String) (vs : List Trust.Provider)
    (u p : World π τ) : Prop :=
  ∃ u₁ chain authType, peerChain id u = .ok chain u₁ ∧ chainAuthType chain = .ok authType ∧
    Accepts chain authType host vs u₁ p

/-- The peer's chain is read, some validators accept it and the next one rejects it. -/
def Denied (id : SocketId) (host : Option String) (vs : List Trust.Provider)
    (u : World π τ) (g : Failure) (x : World π τ) : Prop :=
  ∃ u₁ chain authType before v rest u₂, peerChain id u = .ok chain u₁ ∧
    chainAuthType chain = .ok authType ∧ vs = before ++ v :: rest ∧
    Accepts chain authType host before u₁ u₂ ∧ v.check chain authType host u₂ = .error g x ∧
    g.kind = .certificateRejected

theorem Approved.quiet {id : SocketId} {host : Option String} {vs : List Trust.Provider}
    {u p : World π τ} (h : Approved id host vs u p) : Quiet Call.IsInquiry u p := by
  obtain ⟨u₁, chain, authType, hchain, -, hvs⟩ := h
  exact ((peerChain_quietly id).of_ok hchain).trans hvs.quiet

theorem Denied.quiet {id : SocketId} {host : Option String} {vs : List Trust.Provider}
    {u x : World π τ} {g : Failure} (h : Denied id host vs u g x) : Quiet Call.IsInquiry u x := by
  obtain ⟨u₁, chain, authType, before, v, rest, u₂, hchain, -, -, hbefore, hv, -⟩ := h
  exact (((peerChain_quietly id).of_ok hchain).trans hbefore.quiet).trans
    ((v.check_quietly chain authType host).of_error hv)

/-- The world after a decision was counted. -/
def decided (d : Metrics.Decision) (w : World π τ) : World π τ :=
  { w with counters := w.counters.addDecision d.label }

omit [Platform π τ] in
theorem countDecision_eq (d : Metrics.Decision) (w : World π τ) :
    countDecision d w = .ok () (decided d w) := rfl

/-- How the check of a chain can end. -/
inductive PeerCheck (id : SocketId) (w : World π τ) :
    EStateM.Result Failure (World π τ) Unit → Prop
  | done : (known w id).verified = true → PeerCheck id w (.ok () w)
  | approved {p : World π τ} : (known w id).verified = false →
      Approved id (known w id).host (known w id).validators w p →
      PeerCheck id w (.ok () ((decided .accepted p).setSession id
        { known w id with verified := true }))
  | denied {g : Failure} {x : World π τ} {j : Logging.Journal} : (known w id).verified = false →
      Denied id (known w id).host (known w id).validators w g x →
      PeerCheck id w (.error (handshakeRejection g) { decided .rejected x with journal := j })
  | failed {f : Failure} {w' : World π τ} : (known w id).verified = false →
      Quiet Call.IsInquiry w w' → PeerCheck id w (.error f w')

theorem explainRejection_eq (host : Option String) (f : Failure) (w : World π τ) :
    ∃ j, explainRejection host f w =
      if f.kind = .certificateRejected then
        .error (handshakeRejection f) { decided .rejected w with journal := j }
      else .error f w := by
  unfold explainRejection
  by_cases hf : f.kind = .certificateRejected
  · obtain ⟨j, hj⟩ := warningLog_ok Context.logger "Rejected certificate chain from %s: %s"
      [(host.map Value.text).getD .null, .text (rejectionReason f)] (decided .rejected w)
    refine ⟨j, ?_⟩
    rw [if_pos hf, if_pos hf, Action.bind_of_ok (countDecision_eq .rejected w),
      Action.bind_of_ok hj]
    rfl
  · refine ⟨w.journal, ?_⟩
    rw [if_neg hf, if_neg hf]
    rfl

theorem verifyPeerChain_check (id : SocketId) (w : World π τ) :
    PeerCheck id w (verifyPeerChain id w) := by
  unfold verifyPeerChain
  rw [Action.bind_of_ok (find_eq id w)]
  cases hv : (known w id).verified with
  | true => exact .done hv
  | false =>
    simp only [Bool.not_false, if_true]
    cases hchain : peerChain id w with
    | error f w' =>
      rw [Action.bind_of_error hchain]
      exact .failed hv ((peerChain_quietly id).of_error hchain)
    | ok chain u₁ =>
      have hread := (peerChain_quietly id).of_ok hchain
      rw [Action.bind_of_ok hchain]
      cases hauth : chainAuthType chain with
      | error f =>
        rw [Action.bind_of_error (Action.ofExcept_error f u₁)]
        exact .failed hv hread
      | ok authType =>
        rw [Action.bind_of_ok (Action.ofExcept_ok authType u₁)]
        cases hask : askAll chain authType (known w id).host (known w id).validators u₁ with
        | ok _ p =>
          rw [Action.bind_of_ok (Action.tryCatch_of_ok hask _)]
          exact .approved hv ⟨u₁, chain, authType, hchain, hauth, (askAll_ok_iff ..).mp hask⟩
        | error g x =>
          obtain ⟨before, v, rest, u₂, hvs, hbefore, hx⟩ := (askAll_error_iff ..).mp hask
          obtain ⟨j, hj⟩ := explainRejection_eq (known w id).host g x
          replace hj := (Action.tryCatch_of_error hask _).trans hj
          by_cases hg : g.kind = .certificateRejected
          · rw [if_pos hg] at hj
            rw [Action.bind_of_error hj]
            exact .denied hv
              ⟨u₁, chain, authType, before, v, rest, u₂, hchain, hauth, hvs, hbefore, hx, hg⟩
          · rw [if_neg hg] at hj
            rw [Action.bind_of_error hj]
            exact .failed hv ((hread.trans hbefore.quiet).trans
              ((v.check_quietly chain authType _).of_error hx))

/-! ## Operations, one step of the platform at a time -/

/-- The engine's handshake succeeds, and then the peer's chain is approved. -/
def Cleared (id : SocketId) (host : Option String) (vs : List Trust.Provider)
    (u p : World π τ) : Prop :=
  u.reply (.handshake id) = Except.ok () ∧ Approved id host vs (u.asked (.handshake id)) p

/-- The engine's handshake succeeds, and then a validator rejects the peer's chain. -/
def Refused (id : SocketId) (host : Option String) (vs : List Trust.Provider)
    (u : World π τ) (g : Failure) (x : World π τ) : Prop :=
  u.reply (.handshake id) = Except.ok () ∧ Denied id host vs (u.asked (.handshake id)) g x

theorem doHandshake_eq (id : SocketId) (w : World π τ) :
    doHandshake id w =
      if (known w id).isOpen then
        match (w.reply (.handshake id) : Except Failure Unit) with
        | .ok _ => verifyPeerChain id (w.asked (.handshake id))
        | .error f => .error f (w.asked (.handshake id))
      else .error badDescriptor w := by
  unfold doHandshake
  rw [Action.bind_of_ok (find_eq id w)]
  cases ho : (known w id).isOpen with
  | false => rfl
  | true =>
    simp only [Bool.not_true, Bool.false_eq_true, if_false, if_true]
    rw [Action.bind_of_ok (w.ask_asked _)]
    cases hr : (w.reply (.handshake id) : Except Failure Unit) with
    | ok _ => rfl
    | error f => rfl

theorem requireTrusted_eq (id : SocketId) (w : World π τ) :
    requireTrusted id w =
      if (!(known w id).verified && (known w id).isOpen) = true then doHandshake id w
      else .ok () w := by
  unfold requireTrusted
  rw [Action.bind_of_ok (find_eq id w)]
  split <;> rfl

/-- Calls of a handshake and of the check after it. -/
def IsHandshake {τ : Type} (id : SocketId) (call : Call τ) : Prop :=
  call = .handshake id ∨ call.IsInquiry

theorem quiet_of_inquiry {id : SocketId} {w w' : World π τ}
    (h : Quiet Call.IsInquiry (w.asked (.handshake id)) w') : Quiet (IsHandshake id) w w' :=
  (w.quiet_asked (.inl rfl)).trans (h.mono fun _ => .inr)

theorem PeerCheck.makes {id : SocketId} {w : World π τ}
    {r : EStateM.Result Failure (World π τ) Unit} (h : PeerCheck id w r) :
    Makes Call.IsInquiry w (Action.final r) := by
  cases h with
  | done _ => exact .refl w
  | approved _ hp => exact hp.quiet.makes
  | denied _ hd => exact hd.quiet.makes
  | failed _ hq => exact hq.makes

theorem doHandshake_makes (id : SocketId) (w : World π τ) :
    Makes (IsHandshake id) w ((doHandshake id).after w) := by
  unfold Action.after
  rw [doHandshake_eq]
  cases ho : (known w id).isOpen with
  | false => exact .refl w
  | true =>
    have hasked : Makes (IsHandshake id) w (w.asked (.handshake id)) :=
      (w.quiet_asked (.inl rfl)).makes
    rw [if_pos rfl]
    cases hr : (w.reply (.handshake id) : Except Failure Unit) with
    | error f => exact hasked
    | ok _ =>
      exact hasked.trans ((verifyPeerChain_check id (w.asked (.handshake id))).makes.mono
        fun _ => .inr)

/-- A session on which a handshake succeeded is verified and was open. -/
theorem doHandshake_ok {id : SocketId} {w u : World π τ} (h : doHandshake id w = .ok () u) :
    (known w id).isOpen = true ∧ (known u id).verified = true := by
  rw [doHandshake_eq] at h
  cases ho : (known w id).isOpen with
  | false =>
    rw [ho] at h
    cases h
  | true =>
    rw [ho, if_pos rfl] at h
    cases hr : (w.reply (.handshake id) : Except Failure Unit) with
    | error f =>
      rw [hr] at h
      cases h
    | ok _ =>
      rw [hr] at h
      replace h : verifyPeerChain id (w.asked (.handshake id)) = .ok () u := h
      have hcheck := verifyPeerChain_check id (w.asked (.handshake id))
      rw [h] at hcheck
      cases hcheck with
      | done hv => exact ⟨rfl, hv⟩
      | approved _ _ => exact ⟨rfl, by rw [known_setSession]⟩

/-- A session that is open after it was made sure of is verified. -/
theorem verified_of_requireTrusted {id : SocketId} {w u : World π τ}
    (h : requireTrusted id w = .ok () u) (ho : (known u id).isOpen = true) :
    (known u id).verified = true := by
  rw [requireTrusted_eq] at h
  split at h
  · exact (doHandshake_ok h).2
  · next hc =>
    cases h
    simpa [ho] using hc

theorem close_eq (id : SocketId) (w : World π τ) :
    close id w = .ok ()
      ((w.setSession id { known w id with isOpen := false }).asked (.closeSession id)) := rfl

theorem version_eq (id : SocketId) (w : World π τ) :
    version id w =
      if (known w id).isOpen then
        match (w.reply (.version id) : Except Failure (Option String)) with
        | .ok v => .ok v (w.asked (.version id))
        | .error f => .error f (w.asked (.version id))
      else .ok none w := by
  unfold version
  rw [Action.bind_of_ok (find_eq id w)]
  split
  · rw [Action.bind_of_ok (w.ask_asked _)]
    cases (w.reply (.version id) : Except Failure (Option String)) <;> rfl
  · rfl

end Session

/-! ## Starting a session -/

namespace Context

variable {π τ : Type} [Platform π τ]

/-- The name that the engine makes of a host when it starts a session. -/
def nameOf (c : Context) (socket : SocketId) (host : Option String) (w : World π τ) :
    Option String :=
  match (w.reply (.wrap c.engine socket host) : Except Failure (Option String)) with
  | .ok name => name
  | .error _ => none

/-- The world after a session was started and before anything was done with it. -/
def started (c : Context) (socket : SocketId) (host : Option String) (w : World π τ) : World π τ :=
  (w.asked (.wrap c.engine socket host)).setSession socket
    ⟨c.nameOf socket host w, c.validators, c.validators.isEmpty, true⟩

theorem known_started (c : Context) (socket : SocketId) (host : Option String) (w : World π τ) :
    Session.known (c.started socket host w) socket =
      ⟨c.nameOf socket host w, c.validators, c.validators.isEmpty, true⟩ :=
  Session.known_setSession ..

theorem wrap_eq (c : Context) (socket : SocketId) (host : Option String) (handshake : Bool)
    (w : World π τ) :
    c.wrap socket host handshake w =
      match (w.reply (.wrap c.engine socket host) : Except Failure (Option String)) with
      | .error f => .error f (w.asked (.wrap c.engine socket host))
      | .ok _ =>
        if handshake then
          match Session.doHandshake socket (c.started socket host w) with
          | .ok _ u => .ok socket u
          | .error f u => .error f ((Session.close socket).after u)
        else .ok socket (c.started socket host w) := by
  unfold wrap
  rw [Action.bind_of_ok (w.ask_asked _)]
  cases hr : (w.reply (.wrap c.engine socket host) : Except Failure (Option String)) with
  | error f => rfl
  | ok name =>
    have hbound : c.started socket host w =
        (fun u : World π τ => u.setSession socket
          ⟨name, c.validators, c.validators.isEmpty, true⟩)
          (w.asked (.wrap c.engine socket host)) := by
      unfold started nameOf
      rw [hr]
    rw [Action.bind_of_ok (Action.ofExcept_ok _ _), Action.bind_of_ok (Action.modify_eq _ _)]
    simp only [← hbound]
    cases handshake with
    | false => rfl
    | true =>
      simp only [if_true]
      rw [Action.bind_eq, Action.onFailure_eq]
      cases h : Session.doHandshake socket (c.started socket host w) <;> rfl

/-- A session is started if the engine has a name for it. -/
theorem reply_of_wrap {c : Context} {socket id : SocketId} {host : Option String}
    {handshake : Bool} {w w₀ : World π τ} (h : c.wrap socket host handshake w = .ok id w₀) :
    w.reply (.wrap c.engine socket host) = Except.ok (c.nameOf socket host w) := by
  rw [wrap_eq] at h
  unfold nameOf
  cases hr : (w.reply (.wrap c.engine socket host) : Except Failure (Option String)) with
  | error f =>
    rw [hr] at h
    cases h
  | ok name => rfl

/-- A session that was started is as `started` leaves it, or its handshake has succeeded. -/
theorem wrap_ok {c : Context} {socket id : SocketId} {host : Option String} {handshake : Bool}
    {w w₀ : World π τ} (h : c.wrap socket host handshake w = .ok id w₀) :
    id = socket ∧ c.wrap socket host false w = .ok socket (c.started socket host w) ∧
      if handshake then Session.doHandshake socket (c.started socket host w) = .ok () w₀
      else w₀ = c.started socket host w := by
  rw [wrap_eq] at h ⊢
  cases hr : (w.reply (.wrap c.engine socket host) : Except Failure (Option String)) with
  | error f =>
    rw [hr] at h
    cases h
  | ok _ =>
    rw [hr] at h
    cases handshake with
    | false =>
      cases h
      exact ⟨rfl, rfl, rfl⟩
    | true =>
      simp only [if_true] at h ⊢
      cases hs : Session.doHandshake socket (c.started socket host w) with
      | error f u =>
        rw [hs] at h
        cases h
      | ok _ u =>
        rw [hs] at h
        cases h
        exact ⟨rfl, rfl, rfl⟩

end Context

end TrustGate.Tls
