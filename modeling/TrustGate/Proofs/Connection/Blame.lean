import TrustGate.Proofs.Connection.Tally
import TrustGate.Proofs.Tls.Failing
import TrustGate.Proofs.Trust.Decision

/-!
# What a failure to connect is to be blamed on

Where all calls fail as operating systems do, so does connecting, with one exception: the chain
that the peer presents cannot be dealt with.

    Stalled id host vs w f     one of the validators `vs` cannot decide on the chain
    Baffled id host vs w f     the chain cannot be read, or that
    Baffles c r w f            connecting gets as far as the chain, and that is baffled with `f`
    Trusts c r s w             there are no validators, or all of them accept the chain

A failure to connect is blamed on a call or on the chain (connect_cause).  A session that was
connected is open, its handshake was finished, and its peer is trusted (connect_ok).
-/

namespace TrustGate

open Trust (Provider ChainValidator)

/-- Whatever a validator cannot decide for, it is no failure of the operating system's. -/
theorem Trust.ChainValidator.Undecided.not_isOs {π τ : Type} [Platform π τ] {v : ChainValidator}
    {w : World π τ} {chain : List Certificate} {host : Option String} {f : Failure}
    (h : v.Undecided w chain host f) : f.kind.isOs = false := by
  cases h with
  | foreign => rfl
  | nameless _ _ hfault => exact (Certificate.leafNames_faults _ f hfault).not_isOs
  | undated _ _ _ hfault => cases hfault <;> rfl
  | unnamed _ _ _ _ _ hfault => exact (Certificate.leafNames_faults _ f hfault).not_isOs
  | untimely => rfl
  | unbound _ _ _ _ hfault => cases hfault <;> rfl

namespace Tls.Session

variable {π τ : Type} [Platform π τ] {id : SocketId} {w u x : World π τ}
  {chain : List Certificate} {authType : String} {host : Option String} {f : Failure}

/-! ## Reading the chain -/

/-- How reading the chain of an open session ends. -/
theorem peerChain_ends (ho : (known w id).isOpen = true) :
    match peerChain id w with
    | .ok chain u => Presents id w chain u
    | .error f u => FailedIn w u f ∨ Unreadable id w f := by
  cases hders : (w.reply (.verifiedChain id) : Except Failure (List Octets)) with
  | error f =>
    have hfailed : peerChain id w = .error f (w.asked (.verifiedChain id)) := by
      unfold peerChain
      rw [Action.bind_of_ok (w.ask_asked _)]
      simp only [hders]
      exact Action.bind_of_error (Action.ofExcept_error f _) _
    rw [hfailed]
    exact .inl (w.failedIn_asked hders rfl)
  | ok ders =>
    by_cases hnone : ders = []
    · subst hnone
      cases hpeer : ((w.asked (.verifiedChain id)).reply (.peer id) :
          Except Failure (Option Octets)) with
      | error f =>
        rw [peerChain_of_none ho hders, hpeer]
        exact .inl ((World.failedIn_asked _ hpeer rfl).widen (List.suffix_cons _ _)
          List.suffix_rfl)
      | ok der =>
        rw [peerChain_of_unverified ho hders hpeer]
        match der with
        | none => exact .nothing hders hpeer rfl
        | some [] => exact .nothing hders hpeer rfl
        | some (b :: bs) =>
          have hne := List.cons_ne_nil b bs
          rw [leafChain_some hne]
          cases hload : Certificate.ofOctets (b :: bs) with
          | ok c => exact .leaf hders hpeer hne hload
          | error f => exact .inr (.leaf hders hpeer hne hload)
    · rw [peerChain_of_verified hders hnone]
      cases hload : ders.mapM Certificate.ofOctets with
      | ok chain => exact .verified hders hnone (mapM_eq_ok_iff.mp hload)
      | error f =>
        obtain ⟨before, der, rest, certificates, rfl, hbefore, hfault⟩ :=
          mapM_eq_error_iff.mp hload
        exact .inr (.verified hders hbefore hfault)

/-- A session fails to tell its version or its cipher only because the call for it fails. -/
theorem version_cause (h : version id w = .error f u) : FailedIn w u f := by
  unfold version at h
  rw [Action.bind_of_ok (find_eq id w)] at h
  split at h
  · exact Action.failedIn_of_read (.version id) (fun answer => answer) (fun _ _ hg => hg ▸ rfl) h
  · cases h

theorem cipher_cause (h : cipher id w = .error f u) : FailedIn w u f := by
  unfold cipher at h
  rw [Action.bind_of_ok (find_eq id w)] at h
  split at h
  · exact Action.failedIn_of_read (.cipher id) (fun answer => answer) (fun _ _ hg => hg ▸ rfl) h
  · cases h

/-! ## Chains that baffle -/

/-- After some validators have accepted the chain, the next cannot decide on it. -/
inductive Stalled (id : SocketId) (host : Option String) (vs : List Provider) (w : World π τ)
    (f : Failure) : Prop
  | intro {chain : List Certificate} {authType : String} {before rest : List Provider}
      {v : ChainValidator} {o : Trust.Observer} {u x y : World π τ}
      (presents : Presents id w chain u) (key : chainAuthType chain = .ok authType)
      (validators : vs = before ++ .delegate (.chain v) o :: rest)
      (accepted : Accepts chain authType host before u x)
      (told : o.notify ⟨chain, authType, host, (Provider.chain v).typeName⟩ x = .ok () y)
      (undecided : v.Undecided y chain host f)

/-- The chain is nothing that a decision can be taken on. -/
inductive Baffled (id : SocketId) (host : Option String) (vs : List Provider) (w : World π τ)
    (f : Failure) : Prop
  | unreadable (h : Unreadable id w f)
  | stalled (h : Stalled id host vs w f)

theorem Baffled.not_isOs {vs : List Provider} (h : Baffled id host vs w f) :
    f.kind.isOs = false := by
  cases h with
  | unreadable h => rcases h.kind with hkind | hkind | hkind <;> rw [hkind] <;> rfl
  | stalled h =>
    obtain ⟨-, -, -, -, -, hundecided⟩ := h
    exact hundecided.not_isOs

/-- Chain validators behind delegates, and nobody who stops the program for what it is told. -/
def Delegated (vs : List Provider) : Prop :=
  ∀ p ∈ vs, ∃ (v : ChainValidator) (o : Trust.Observer), p = .delegate (.chain v) o ∧ o.IsMild

theorem verifyPeerChain_of_askAll_error (hv : (known w id).verified = false)
    (hchain : peerChain id w = .ok chain u) (hkey : chainAuthType chain = .ok authType)
    (hasked : askAll chain authType (known w id).host (known w id).validators u = .error f x) :
    ∃ y, verifyPeerChain id w = .error (passFailure f) y := by
  obtain ⟨y, hy, -⟩ := explainRejection_error (known w id).host f x
  have hcaught := (Action.tryCatch_of_error hasked (explainRejection (known w id).host)).trans hy
  rw [verifyPeerChain_of_read hv hchain hkey, Action.bind_of_error hcaught]
  exact ⟨y, rfl⟩

/-- A check of the chain that fails fails for a call, as a failure of the engine's, or because the
chain is baffling. -/
theorem verifyPeerChain_cause (ho : (known w id).isOpen = true)
    (hvs : Delegated (known w id).validators) (h : verifyPeerChain id w = .error f u) :
    f.kind.isOs = true ∨ FailedIn w u f ∨ (known w id).verified = false ∧
      Baffled id (known w id).host (known w id).validators w f := by
  cases hv : (known w id).verified with
  | true =>
    unfold verifyPeerChain at h
    rw [Action.bind_of_ok (find_eq id w), hv] at h
    cases h
  | false =>
    have hends := peerChain_ends ho
    cases hchain : peerChain id w with
    | error g x =>
      rw [hchain] at hends
      cases (verifyPeerChain_of_error hv hchain).symm.trans h
      exact .inr (hends.imp_right fun h => ⟨rfl, .unreadable h⟩)
    | ok chain x =>
      rw [hchain] at hends
      cases hkey : chainAuthType chain with
      | error g =>
        cases (verifyPeerChain_of_nameless hv hchain hkey).symm.trans h
        cases chain with
        | nil => cases hkey
        | cons leaf rest => exact .inr (.inr ⟨rfl, .unreadable (.key hends hkey)⟩)
      | ok authType =>
        cases hasked : askAll chain authType (known w id).host (known w id).validators x with
        | ok _ y =>
          rw [verifyPeerChain_of_read hv hchain hkey,
            Action.bind_of_ok (Action.tryCatch_of_ok hasked _)] at h
          cases h
        | error g y =>
          obtain ⟨z, hz⟩ := verifyPeerChain_of_askAll_error hv hchain hkey hasked
          cases hz.symm.trans h
          by_cases hrejected : g.kind = .certificateRejected
          · refine .inl ?_
            rw [passFailure, if_pos hrejected]
            rfl
          · rw [passFailure, if_neg hrejected]
            obtain ⟨before, p, rest, a, hvalidators, hbefore, hp⟩ := (askAll_error_iff ..).mp hasked
            obtain ⟨v, o, rfl, hmild⟩ := hvs p (by rw [hvalidators]; simp)
            obtain ⟨j, htold⟩ := Trust.Observer.notify_mild hmild
              ⟨chain, authType, (known w id).host, (Provider.chain v).typeName⟩ a
            have hchecked := (Action.bind_of_ok htold _).symm.trans hp
            have hundecided := ChainValidator.judgement_check_eq_fails_iff.mp
              (Trust.judgement_eq_fails_iff.mpr ⟨_, hchecked, hrejected⟩)
            exact .inr (.inr ⟨rfl,
              .stalled ⟨hends, hkey, hvalidators, hbefore, htold, hundecided⟩⟩)

/-- A baffling chain fails the check with its own fault. -/
theorem verifyPeerChain_of_baffled (ho : (known w id).isOpen = true)
    (hv : (known w id).verified = false)
    (h : Baffled id (known w id).host (known w id).validators w f) :
    ∃ u, verifyPeerChain id w = .error f u := by
  cases h with
  | unreadable h =>
    obtain ⟨u, hu, -⟩ := verifyPeerChain_of_unreadable ho hv h
    exact ⟨u, hu⟩
  | stalled h =>
    obtain @⟨chain, authType, _, _, v, _, _, _, y, hpresents, hkey, hvalidators, hbefore, htold,
      hundecided⟩ := h
    obtain ⟨z, hchecked, hrejected⟩ :=
      Trust.judgement_eq_fails_iff.mp (ChainValidator.judgement_check_eq_fails_iff.mpr hundecided)
    have hasked := (askAll_error_iff ..).mpr
      ⟨_, _, _, _, hvalidators, hbefore, (Action.bind_of_ok htold _).trans hchecked⟩
    obtain ⟨y, hy⟩ := verifyPeerChain_of_askAll_error hv (peerChain_of_presents ho hpresents) hkey
      hasked
    rw [passFailure, if_neg hrejected] at hy
    exact ⟨y, hy⟩

theorem doHandshake_cause (ho : (known w id).isOpen = true)
    (hvs : Delegated (known w id).validators) (h : doHandshake id w = .error f u) :
    f.kind.isOs = true ∨ FailedIn w u f ∨ w.reply (.handshake id) = Except.ok () ∧
      (known w id).verified = false ∧
        Baffled id (known w id).host (known w id).validators (w.asked (.handshake id)) f := by
  rw [doHandshake_eq, if_pos ho] at h
  cases hshaken : (w.reply (.handshake id) : Except Failure Unit) with
  | error g =>
    rw [hshaken] at h
    cases h
    exact .inr (.inl (w.failedIn_asked hshaken rfl))
  | ok _ =>
    rw [hshaken] at h
    have hopen : (known (w.asked (.handshake id)) id).isOpen = true := ho
    rcases verifyPeerChain_cause hopen hvs h with hos | hfailed | hbaffled
    · exact .inl hos
    · exact .inr (.inl (hfailed.widen (List.suffix_cons _ _) List.suffix_rfl))
    · exact .inr (.inr ⟨rfl, hbaffled⟩)

theorem isOpen_of_verifyPeerChain (h : verifyPeerChain id w = .ok () u) :
    (known u id).isOpen = (known w id).isOpen := by
  have hcheck := verifyPeerChain_check id w
  rw [h] at hcheck
  cases hcheck with
  | done _ => rfl
  | approved _ _ => rw [known_setSession]

/-- A handshake that succeeds leaves the session open, and an unverified one was cleared. -/
theorem doHandshake_clears (h : doHandshake id w = .ok () u) :
    w.reply (.handshake id) = Except.ok () ∧ (known u id).isOpen = true ∧
      ((known w id).verified = true ∨
        ∃ p, Cleared id (known w id).host (known w id).validators w p) := by
  have ho := (doHandshake_ok h).1
  rw [doHandshake_eq, if_pos ho] at h
  cases hshaken : (w.reply (.handshake id) : Except Failure Unit) with
  | error g =>
    rw [hshaken] at h
    cases h
  | ok _ =>
    rw [hshaken] at h
    replace h : verifyPeerChain id (w.asked (.handshake id)) = .ok () u := h
    refine ⟨rfl, (isOpen_of_verifyPeerChain h).trans ho, ?_⟩
    have hcheck := verifyPeerChain_check id (w.asked (.handshake id))
    rw [h] at hcheck
    cases hcheck with
    | done hv => exact .inl hv
    | approved _ hp => exact .inr ⟨_, hshaken, hp⟩

end Tls.Session

namespace Connection

open Tls.Session (Delegated Baffled)

variable {π τ : Type} [Platform π τ] {c : Tls.Context} {r : Request} {s : SocketId}
  {w u : World π τ} {f : Failure}

/-! ## Connecting -/

/-- The world in which a session was started on a socket. -/
def begun (c : Tls.Context) (r : Request) (s : SocketId) (w : World π τ) : World π τ :=
  c.started s (peerName r.host) (w.asked (.setTimeout s (.given r.soTimeout)))

/-- A session can be started on the socket. -/
structure Wraps (c : Tls.Context) (r : Request) (s : SocketId) (w : World π τ) : Prop where
  limited : w.reply (.setTimeout s (.given r.soTimeout)) = Except.ok ()
  wrapped : ∃ name, (w.asked (.setTimeout s (.given r.soTimeout))).reply
    (.wrap c.engine s (peerName r.host)) = Except.ok name

theorem known_begun (c : Tls.Context) (r : Request) (s : SocketId) (w : World π τ) :
    Tls.Session.known (begun c r s w) s =
      ⟨c.nameOf s (peerName r.host) (w.asked (.setTimeout s (.given r.soTimeout))), c.validators,
        c.validators.isEmpty, true⟩ :=
  Tls.Context.known_started ..

/-- How a session with a handshake comes of a connected socket. -/
inductive Starts (c : Tls.Context) (r : Request) (s : SocketId) (w : World π τ) :
    End π τ SocketId → Prop
  | unlimited {f : Failure} : w.reply (.setTimeout s (.given r.soTimeout)) = Except.error f →
      Starts c r s w (.error f (w.asked (.setTimeout s (.given r.soTimeout))))
  | unwrapped {f : Failure} : (w.asked (.setTimeout s (.given r.soTimeout))).reply
        (.wrap c.engine s (peerName r.host)) = Except.error f →
      Starts c r s w (.error f ((w.asked (.setTimeout s (.given r.soTimeout))).asked
        (.wrap c.engine s (peerName r.host))))
  | unshaken {f : Failure} {u : World π τ} : Wraps c r s w →
      Tls.Session.doHandshake s (begun c r s w) = .error f u →
      Starts c r s w (.error f ((Tls.Session.close s).after u))
  | shaken {u : World π τ} : Wraps c r s w →
      Tls.Session.doHandshake s (begun c r s w) = .ok () u → Starts c r s w (.ok s u)

theorem begin_starts (c : Tls.Context) (r : Request) (s : SocketId) (w : World π τ) :
    Starts c r s w (begin c r true s w) := by
  unfold begin
  rw [Action.bind_eq, setTimeout_eq]
  cases hlimited : (w.reply (.setTimeout s (.given r.soTimeout)) : Except Failure Unit) with
  | error g => exact .unlimited hlimited
  | ok _ =>
    simp only []
    rw [Tls.Context.wrap_eq]
    cases hwrapped : ((w.asked (.setTimeout s (.given r.soTimeout))).reply
        (.wrap c.engine s (peerName r.host)) : Except Failure (Option String)) with
    | error g => exact .unwrapped hwrapped
    | ok name =>
      simp only [if_true]
      rw [← begun]
      cases hshaken : Tls.Session.doHandshake s (begun c r s w) with
      | error g u => exact .unshaken ⟨hlimited, name, hwrapped⟩ hshaken
      | ok _ u => exact .shaken ⟨hlimited, name, hwrapped⟩ hshaken

theorem begin_grows (c : Tls.Context) (r : Request) (s : SocketId) (w : World π τ) :
    w.history <:+ ((begin c r true s).after w).history := by
  have hbegun : w.history <:+ (begun c r s w).history :=
    (List.suffix_cons _ _).trans (List.suffix_cons _ _)
  have hshake := (Tls.Session.doHandshake_makes s (begun c r s w)).suffix
  have hstarts := begin_starts c r s w
  unfold Action.after
  generalize begin c r true s w = p at hstarts
  cases hstarts with
  | unlimited _ => exact List.suffix_cons _ _
  | unwrapped _ => exact (List.suffix_cons _ _).trans (List.suffix_cons _ _)
  | unshaken _ hshaken =>
    rw [Action.after_of_error hshaken] at hshake
    exact hbegun.trans (hshake.trans (List.suffix_cons _ _))
  | shaken _ hshaken =>
    rw [Action.after_of_ok hshaken] at hshake
    exact hbegun.trans hshake

/-- The engine finishes its handshake, and the chain that the peer presents is baffling. -/
structure Puzzles (c : Tls.Context) (r : Request) (s : SocketId) (w : World π τ) (f : Failure) :
    Prop where
  wraps : Wraps c r s w
  handshake : (begun c r s w).reply (.handshake s) = Except.ok ()
  validators : c.validators ≠ []
  baffled : Baffled s (Tls.Session.known (begun c r s w) s).host c.validators
    ((begun c r s w).asked (.handshake s)) f

theorem begin_cause (hvs : Delegated c.validators) (h : begin c r true s w = .error f u) :
    f.kind.isOs = true ∨ FailedIn w u f ∨ Puzzles c r s w f := by
  have hstarts := begin_starts c r s w
  rw [h] at hstarts
  cases hstarts with
  | unlimited hlimited => exact .inr (.inl (w.failedIn_asked hlimited rfl))
  | unwrapped hwrapped =>
    exact .inr (.inl ((World.failedIn_asked _ hwrapped rfl).widen (List.suffix_cons _ _)
      List.suffix_rfl))
  | unshaken hwraps hshaken =>
    have hknown := known_begun c r s w
    have hcause := Tls.Session.doHandshake_cause (by rw [hknown]) (by rwa [hknown]) hshaken
    rw [hknown] at hcause
    rcases hcause with hos | hfailed | ⟨hhandshake, hverified, hbaffled⟩
    · exact .inl hos
    · refine .inr (.inl (hfailed.widen ?_ (List.suffix_cons _ _)))
      exact (List.suffix_cons _ _).trans (List.suffix_cons _ _)
    · have hvalidators : c.validators ≠ [] := by
        intro hnone
        rw [hnone] at hverified
        cases hverified
      exact .inr (.inr ⟨hwraps, hhandshake, hvalidators, by rwa [hknown]⟩)

theorem begin_of_puzzles (h : Puzzles c r s w f) : ∃ u, begin c r true s w = .error f u := by
  have hknown : Tls.Session.known ((begun c r s w).asked (.handshake s)) s = _ :=
    known_begun c r s w
  have hbaffled := h.baffled
  rw [known_begun] at hbaffled
  obtain ⟨v, hcheck⟩ := Tls.Session.verifyPeerChain_of_baffled
    (w := (begun c r s w).asked (.handshake s)) (by rw [hknown])
    (by rw [hknown]; exact List.isEmpty_eq_false_iff.mpr h.validators)
    (by rw [hknown]; exact hbaffled)
  have hshaken : Tls.Session.doHandshake s (begun c r s w) = .error f v := by
    rw [Tls.Session.doHandshake_eq, known_begun, if_pos rfl]
    simp only [h.handshake, hcheck]
  have hstarts := begin_starts c r s w
  generalize begin c r true s w = p at hstarts
  cases hstarts with
  | unlimited hlimited => cases hlimited.symm.trans h.wraps.limited
  | unwrapped hwrapped =>
    obtain ⟨name, hname⟩ := h.wraps.wrapped
    cases hwrapped.symm.trans hname
  | unshaken _ hshaken' =>
    cases hshaken'.symm.trans hshaken
    exact ⟨_, rfl⟩
  | shaken _ hshaken' => cases hshaken'.symm.trans hshaken

/-- There is nobody to check the chain, or everybody who has to has accepted it. -/
def Trusts (c : Tls.Context) (r : Request) (s : SocketId) (w : World π τ) : Prop :=
  c.validators = [] ∨
    ∃ p, Tls.Session.Cleared s (Tls.Session.known (begun c r s w) s).host c.validators
      (begun c r s w) p

theorem begin_ok {id : SocketId} (h : begin c r true s w = .ok id u) :
    id = s ∧ Wraps c r s w ∧ (begun c r s w).reply (.handshake s) = Except.ok () ∧
      Trusts c r s w ∧ (Tls.Session.known u s).isOpen = true := by
  have hstarts := begin_starts c r s w
  rw [h] at hstarts
  cases hstarts with
  | shaken hwraps hshaken =>
    obtain ⟨hhandshake, hopen, htrusts⟩ := Tls.Session.doHandshake_clears hshaken
    have hknown := known_begun c r s w
    refine ⟨rfl, hwraps, hhandshake, htrusts.imp ?_ ?_, hopen⟩
    · rw [hknown]
      exact List.isEmpty_iff.mp
    · rw [hknown]
      exact id

variable [Duration τ]

theorem openSocket_onward (r : Request) (w : World π τ) :
    w.history <:+ ((openSocket r).after w).history := by
  have hraw := openRaw_onward onward_history r w
  unfold Action.after at hraw ⊢
  rw [openSocket_eq]
  cases ho : (openRaw r : Action π τ SocketId) w with
  | ok s u =>
    rw [ho] at hraw
    exact hraw
  | error f u =>
    rw [ho] at hraw
    exact hraw.trans (history_tallied f u ▸ List.suffix_rfl)

/-- However a failure to open the TCP connection is explained, it stays the operating system's. -/
theorem openSocket_cause (hcounts : Counts τ r) (h : openSocket r w = .error f u) :
    f.kind.isOs = true ∨ FailedIn w u f := by
  rw [openSocket_eq] at h
  cases ho : (openRaw r : Action π τ SocketId) w with
  | ok s v =>
    rw [ho] at h
    cases h
  | error g v =>
    rw [ho] at h
    cases h
    by_cases haddress : g.kind = .addressInfo
    · refine .inl ?_
      rw [(explained_addressInfo r haddress).1]
      rfl
    · cases htimeout : g.kind.isTimeout with
      | true =>
        refine .inl ?_
        rw [(explained_timeout r htimeout).1]
        rfl
      | false =>
        rw [explained_own r haddress htimeout]
        refine (openRaw_cause hcounts ho).imp_right fun hlast => ?_
        exact hlast.failedIn.widen List.suffix_rfl (history_tallied g v ▸ List.suffix_rfl)

theorem connect_grows (c : Tls.Context) (r : Request) (w : World π τ) :
    w.history <:+ ((connect c r true).after w).history := by
  have hopens := openSocket_onward r w
  have hconnects := connect_connects c r true w
  unfold Action.after
  generalize connect c r true w = p at hconnects
  have hbegins {s : SocketId} {u : World π τ} (ho : openSocket r w = .ok s u) :
      w.history <:+ ((begin c r true s).after u).history := by
    rw [Action.after_of_ok ho] at hopens
    exact hopens.trans (begin_grows c r s u)
  have hreads {id : SocketId} {v : World π τ} :
      v.history <:+ ((Tls.Session.version id).after (counted .connected v)).history :=
    (Tls.Session.version_quietly id (counted .connected v)).makes.suffix
  cases hconnects with
  | unopened ho => rwa [Action.after_of_error ho] at hopens
  | failed ho hb =>
    have hbegun := hbegins ho
    rw [Action.after_of_error hb] at hbegun
    exact hbegun.trans (List.suffix_cons _ _)
  | unread ho hb hv =>
    have hbegun := hbegins ho
    rw [Action.after_of_ok hb] at hbegun
    rw [← Action.after_of_error hv]
    exact hbegun.trans hreads
  | connected ho hb hv =>
    have hbegun := hbegins ho
    rw [Action.after_of_ok hb] at hbegun
    show w.history <:+ World.history _
    exact hbegun.trans (Action.after_of_ok hv ▸ hreads)

/-- Connecting gets as far as the chain of the peer, and that is baffling. -/
def Baffles (c : Tls.Context) (r : Request) (w : World π τ) (f : Failure) : Prop :=
  ∃ s u, openSocket r w = .ok s u ∧ Puzzles c r s u f

theorem Baffles.not_isOs (h : Baffles c r w f) : f.kind.isOs = false := by
  obtain ⟨_, _, -, hpuzzles⟩ := h
  exact hpuzzles.baffled.not_isOs

/-- Connecting fails for a call or as operating systems do, unless the chain is baffling. -/
theorem connect_cause (hcounts : Counts τ r) (hvs : Delegated c.validators)
    (h : connect c r true w = .error f u) :
    f.kind.isOs = true ∨ FailedIn w u f ∨ Baffles c r w f := by
  have hconnects := connect_connects c r true w
  have honward := openSocket_onward r w
  rw [h] at hconnects
  cases hconnects with
  | unopened ho => exact (openSocket_cause hcounts ho).imp_right .inl
  | failed ho hb =>
    rw [Action.after_of_ok ho] at honward
    rcases begin_cause hvs hb with hos | hfailed | hpuzzles
    · exact .inl hos
    · exact .inr (.inl (hfailed.widen honward (List.suffix_cons _ _)))
    · exact .inr (.inr ⟨_, _, ho, hpuzzles⟩)
  | @unread s id _ v x _ ho hb hv =>
    rw [Action.after_of_ok ho] at honward
    have hgrows := begin_grows c r s v
    rw [Action.after_of_ok hb] at hgrows
    exact .inr (.inl ((Tls.Session.version_cause hv).widen (honward.trans hgrows) List.suffix_rfl))

theorem connect_of_baffles (h : Baffles c r w f) : ∃ u, connect c r true w = .error f u := by
  obtain ⟨s, u, ho, hpuzzles⟩ := h
  obtain ⟨v, hb⟩ := begin_of_puzzles hpuzzles
  have hconnects := connect_connects c r true w
  generalize connect c r true w = p at hconnects
  cases hconnects with
  | unopened ho' => cases ho'.symm.trans ho
  | failed ho' hb' =>
    cases ho'.symm.trans ho
    cases hb'.symm.trans hb
    exact ⟨_, rfl⟩
  | unread ho' hb' _ =>
    cases ho'.symm.trans ho
    cases hb'.symm.trans hb
  | connected ho' hb' _ =>
    cases ho'.symm.trans ho
    cases hb'.symm.trans hb

/-- A session that was connected is open, and its peer is trusted. -/
theorem connect_ok {id : SocketId} (h : connect c r true w = .ok id u) :
    ∃ v, openSocket r w = .ok id v ∧ Wraps c r id v ∧
      (begun c r id v).reply (.handshake id) = Except.ok () ∧ Trusts c r id v ∧
      (Tls.Session.known u id).isOpen = true := by
  have hconnects := connect_connects c r true w
  rw [h] at hconnects
  cases hconnects with
  | @connected s id _ v x y j ho hb hv =>
    obtain ⟨rfl, hwraps, hhandshake, htrusts, hopen⟩ := begin_ok hb
    have hknown : Tls.Session.known y id = Tls.Session.known x id :=
      Tls.Session.known_of_quiet ((Tls.Session.version_quietly id).of_ok hv) id
    exact ⟨v, ho, hwraps, hhandshake, htrusts, (congrArg Session.isOpen hknown).trans hopen⟩

end Connection

end TrustGate
