import TrustGate.Proofs.Tls.Observed
import TrustGate.Proofs.Tls.Rejection

/-!
# What an act decides

A pass over the validators is counted if it ends in a decision, and then once.  `Rules id w r`
says how an operation that begins at `w` with a handshake on `id` can end in `r`:

    accepts     all validators accept, and `id` is verified from then on
    rejects     a validator rejects, and the operation fails with that
    abstains    neither: no session changes its standing, and nothing is counted

`act.Ruling w` says the same of acts of any kind, and every act has one (Act.ruling): to wrap a
socket rules as the handshake does, and acts without a handshake abstain.
-/

namespace TrustGate.Tls

namespace Session

variable {π τ : Type}

/-! ## The standing of sessions -/

/-- Validators of the session have been asked, and have accepted. -/
def Passed (w : World π τ) (id : SocketId) : Prop :=
  (known w id).validators ≠ [] ∧ (known w id).verified = true

/-- All sessions have the validators they had, and those are verified that were. -/
def Keeps (w w' : World π τ) : Prop :=
  ∀ id, (known w' id).validators = (known w id).validators ∧
    (known w' id).verified = (known w id).verified

/-- One session has become verified, and all else is as it was. -/
structure Verifies (id : SocketId) (w w' : World π τ) : Prop where
  validators : ∀ other, (known w' other).validators = (known w other).validators
  verified : (known w' id).verified = true
  others : ∀ other, other ≠ id → (known w' other).verified = (known w other).verified

variable {id : SocketId} {w u w' : World π τ}

theorem known_setSession_of_ne {other : SocketId} (w : World π τ) (s : Session) (h : other ≠ id) :
    known (w.setSession id s) other = known w other := by
  unfold known
  rw [World.sessions_setSession_of_ne w s h]

namespace Keeps

theorem refl (w : World π τ) : Keeps w w := fun _ => ⟨rfl, rfl⟩

theorem trans (h : Keeps w u) (h' : Keeps u w') : Keeps w w' := fun id =>
  ⟨(h' id).1.trans (h id).1, (h' id).2.trans (h id).2⟩

theorem of_sessions (h : w'.sessions = w.sessions) : Keeps w w' := by
  intro id
  unfold known
  rw [h]
  exact ⟨rfl, rfl⟩

theorem passed_iff (h : Keeps w w') (id : SocketId) : Passed w' id ↔ Passed w id := by
  obtain ⟨hvalidators, hverified⟩ := h id
  unfold Passed
  rw [hvalidators, hverified]

end Keeps

namespace Verifies

theorem trans_keeps (h : Verifies id w u) (h' : Keeps u w') : Verifies id w w' where
  validators other := (h' other).1.trans (h.validators other)
  verified := (h' id).2.trans h.verified
  others other hne := (h' other).2.trans (h.others other hne)

theorem of_keeps (h : Keeps w u) (h' : Verifies id u w') : Verifies id w w' where
  validators other := (h'.validators other).trans (h other).1
  verified := h'.verified
  others other hne := (h'.others other hne).trans (h other).2

theorem setSession (w : World π τ) (id : SocketId) :
    Verifies id w (w.setSession id { known w id with verified := true }) where
  validators other := by
    by_cases h : other = id
    · subst h
      rw [known_setSession]
    · rw [known_setSession_of_ne w _ h]
  verified := by rw [known_setSession]
  others other h := by rw [known_setSession_of_ne w _ h]

theorem passed_iff (h : Verifies id w w') (hvs : (known w id).validators ≠ []) (other : SocketId) :
    Passed w' other ↔ other = id ∨ Passed w other := by
  unfold Passed
  rw [h.validators other]
  by_cases hother : other = id
  · subst hother
    simp [hvs, h.verified]
  · rw [h.others other hother]
    simp [hother]

end Verifies

/-- What is quiet changes no session's standing. -/
theorem keeps_of_quiet {allowed : Call τ → Prop} (h : Quiet allowed w w') : Keeps w w' :=
  .of_sessions h.sessions

variable [Platform π τ]

theorem keeps_close (id : SocketId) (w : World π τ) : Keeps w ((close id).after w) := by
  intro other
  have hclosed : known ((close id).after w) other =
      known (w.setSession id { known w id with isOpen := false }) other := rfl
  rw [hclosed]
  by_cases h : other = id
  · subst h
    rw [known_setSession]
    exact ⟨rfl, rfl⟩
  · rw [known_setSession_of_ne w _ h]
    exact ⟨rfl, rfl⟩

/-! ## Handshakes -/

/-- The session is open and unverified, and a handshake on it ends with a rejection. -/
def Meets (id : SocketId) (w : World π τ) (g : Failure) : Prop :=
  (known w id).isOpen = true ∧ (known w id).verified = false ∧
    ∃ x, Refused id (known w id).host (known w id).validators w g x

inductive Rules (id : SocketId) (w : World π τ) {α : Type} :
    EStateM.Result Failure (World π τ) α → Prop
  | accepts {r : EStateM.Result Failure (World π τ) α} {p : World π τ} :
      (known w id).verified = false →
      Cleared id (known w id).host (known w id).validators w p →
      Verifies id w (Action.final r) →
      (Action.final r).counters = w.counters.addDecision Metrics.Decision.accepted.label →
      Rules id w r
  | rejects {g : Failure} {w' : World π τ} : Meets id w g → Keeps w w' →
      w'.counters = w.counters.addDecision Metrics.Decision.rejected.label →
      Rules id w (.error (handshakeRejection g) w')
  | abstains {r : EStateM.Result Failure (World π τ) α} : (∀ g, ¬Meets id w g) →
      Keeps w (Action.final r) → (Action.final r).counters = w.counters → Rules id w r

theorem not_meets_of_cleared {p : World π τ} {g : Failure}
    (h : Cleared id (known w id).host (known w id).validators w p) : ¬Meets id w g :=
  fun ⟨_, _, _, hrefused⟩ => not_cleared_of_refused hrefused h

/-- A chain that a validator rejects fails the check, and the rejection is counted. -/
theorem verifyPeerChain_of_denied {g : Failure} {x : World π τ}
    (hv : (known w id).verified = false)
    (h : Denied id (known w id).host (known w id).validators w g x) :
    ∃ j, verifyPeerChain id w =
      .error (handshakeRejection g) { decided .rejected x with journal := j } := by
  obtain ⟨u₁, chain, authType, before, v, rest, u₂, hchain, hauth, hvs, hbefore, hx, hg⟩ := h
  have hask : askAll chain authType (known w id).host (known w id).validators u₁ = .error g x :=
    (askAll_error_iff ..).mpr ⟨before, v, rest, u₂, hvs, hbefore, hx⟩
  obtain ⟨j, hj⟩ := explainRejection_eq (known w id).host g x
  rw [if_pos hg] at hj
  refine ⟨j, ?_⟩
  unfold verifyPeerChain
  rw [Action.bind_of_ok (find_eq id w), hv]
  simp only [Bool.not_false, if_true]
  rw [Action.bind_of_ok hchain, hauth, Action.bind_of_ok (Action.ofExcept_ok authType u₁),
    Action.bind_of_error ((Action.tryCatch_of_error hask _).trans hj)]

/-- The check behind a successful handshake decides, unless it fails for another reason. -/
theorem verifyPeerChain_rules (ho : (known w id).isOpen = true)
    (hr : w.reply (.handshake id) = Except.ok ()) :
    Rules id w (verifyPeerChain id (w.asked (.handshake id))) := by
  have hasked : Quiet (IsHandshake id) w (w.asked (.handshake id)) := w.quiet_asked (.inl rfl)
  have hcheck := verifyPeerChain_check id (w.asked (.handshake id))
  -- Whether a validator rejects is settled first: the check alone does not say which one did.
  by_cases hmeets : ∃ g, Meets id w g
  · obtain ⟨g, hmeets⟩ := hmeets
    have ⟨_, hv, x, _, hdenied⟩ := hmeets
    obtain ⟨j, hj⟩ := verifyPeerChain_of_denied (w := w.asked (.handshake id)) hv hdenied
    have hquiet := quiet_of_inquiry hdenied.quiet
    rw [hj]
    refine .rejects hmeets (.of_sessions hquiet.sessions) ?_
    show x.counters.addDecision _ = _
    rw [hquiet.counters]
  · have hnever : ∀ g, ¬Meets id w g := fun g h => hmeets ⟨g, h⟩
    generalize verifyPeerChain id (w.asked (.handshake id)) = r at hcheck
    cases hcheck with
    | done hv => exact .abstains hnever (keeps_of_quiet hasked) rfl
    | failed hv hq =>
      have hquiet := quiet_of_inquiry hq
      exact .abstains hnever (keeps_of_quiet hquiet) hquiet.counters
    | denied hv hdenied => exact (hnever _ ⟨ho, hv, _, hr, hdenied⟩).elim
    | @approved p hv happroved =>
      have hquiet := quiet_of_inquiry happroved.quiet
      have hknown : known (decided .accepted p) id = known (w.asked (.handshake id)) id :=
        known_of_quiet hquiet id
      have hkeeps : Keeps w (decided .accepted p) := .of_sessions hquiet.sessions
      refine .accepts hv ⟨hr, happroved⟩ ?_ ?_
      · show Verifies id w ((decided .accepted p).setSession id _)
        rw [← hknown]
        exact .of_keeps hkeeps (.setSession _ id)
      · show p.counters.addDecision _ = _
        rw [hquiet.counters]

theorem doHandshake_rules (id : SocketId) (w : World π τ) : Rules id w (doHandshake id w) := by
  rw [doHandshake_eq]
  cases ho : (known w id).isOpen with
  | false =>
    refine .abstains (fun g hmeets => ?_) (.refl w) rfl
    rw [hmeets.1] at ho
    cases ho
  | true =>
    rw [if_pos rfl]
    cases hr : (w.reply (.handshake id) : Except Failure Unit) with
    | ok _ => exact verifyPeerChain_rules ho hr
    | error f =>
      refine .abstains (fun g hmeets => ?_) (.refl w) rfl
      obtain ⟨-, -, x, hok, -⟩ := hmeets
      rw [hr] at hok
      cases hok

theorem requireTrusted_rules (id : SocketId) (w : World π τ) :
    Rules id w (requireTrusted id w) := by
  rw [requireTrusted_eq]
  split
  · exact doHandshake_rules id w
  · next hc =>
    refine .abstains (fun g hmeets => hc ?_) (.refl w) rfl
    rw [hmeets.1, hmeets.2.1]
    rfl

/-! ## Operations -/

theorem version_quietly (id : SocketId) :
    (version id : Action π τ (Option String)).Quietly fun _ => True := by
  refine .bind (.bind .get fun _ => .pure _) fun s => ?_
  split
  · exact .bind (.ask trivial) fun _ => .ofExcept _
  · exact .pure _

theorem cipher_quietly (id : SocketId) :
    (cipher id : Action π τ (Option Cipher)).Quietly fun _ => True := by
  refine .bind (.bind .get fun _ => .pure _) fun s => ?_
  split
  · exact .bind (.ask trivial) fun _ => .ofExcept _
  · exact .pure _

/-- What is ruled stays ruled if nothing but quiet work and the closing of sessions follows. -/
theorem Rules.follow {α β : Type} {r : EStateM.Result Failure (World π τ) α}
    {r' : EStateM.Result Failure (World π τ) β} (h : Rules id w r)
    (hkeeps : Keeps (Action.final r) (Action.final r'))
    (hcounters : (Action.final r').counters = (Action.final r).counters)
    (herror : ∀ f, outcome r = .error f → outcome r' = .error f) : Rules id w r' := by
  cases h with
  | accepts hv hcleared hverifies hcounted =>
    exact .accepts hv hcleared (hverifies.trans_keeps hkeeps) (hcounters.trans hcounted)
  | abstains hnever hkept hcounted =>
    exact .abstains hnever (hkept.trans hkeeps) (hcounters.trans hcounted)
  | @rejects g u hmeets hkept hcounted =>
    have hfails := herror (handshakeRejection g) rfl
    cases r' with
    | ok y u' => cases hfails
    | error f u' =>
      cases hfails
      exact .rejects hmeets (hkept.trans hkeeps) (hcounters.trans hcounted)

theorem Rules.bind {α β : Type} {a : Action π τ α} {f : α → Action π τ β} (h : Rules id w (a w))
    (hf : ∀ x u, a w = .ok x u → Quiet (fun _ => True) u ((f x).after u)) :
    Rules id w ((a >>= f) w) := by
  rw [Action.bind_eq]
  cases ha : a w with
  | error e u =>
    rw [ha] at h
    refine h.follow (.refl u) rfl fun _ hf => ?_
    cases hf
    rfl
  | ok x u =>
    have hquiet := hf x u ha
    rw [ha] at h
    refine h.follow (keeps_of_quiet hquiet) hquiet.counters fun _ hf => ?_
    cases hf

theorem Rules.map {α β : Type} {a : Action π τ α} (h : Rules id u (a w)) (f : α → β) :
    Rules id u ((f <$> a) w) := by
  rw [Action.map_eq]
  cases ha : a w with
  | error e x =>
    rw [ha] at h
    refine h.follow (.refl x) rfl fun _ hf => ?_
    cases hf
    rfl
  | ok y x =>
    rw [ha] at h
    refine h.follow (.refl x) rfl fun _ hf => ?_
    cases hf

theorem gated_rules {α : Type} {work : Action π τ α} {closed : Failure}
    (hwork : work.Quietly fun _ => True) (id : SocketId) (w : World π τ) :
    Rules id w (gated id work closed w) := by
  have hrest : (do if (← find id).isOpen then work else throw closed : Action π τ α).Quietly
      fun _ => True := by
    refine .bind (.bind .get fun _ => .pure _) fun s => ?_
    split
    · exact hwork
    · exact .throw closed
  exact (requireTrusted_rules id w).bind fun _ u _ => hrest u

theorem read_rules (id : SocketId) (size : Int) (w : World π τ) :
    Rules id w (read id size w) := by
  rw [read_eq_gated]
  exact gated_rules (engineRead_quietly id size) id w

theorem write_rules (id : SocketId) (data : Octets) (w : World π τ) :
    Rules id w (write id data w) := by
  rw [write_eq_gated]
  exact gated_rules (engineWrite_quietly id data) id w

theorem send_rules (id : SocketId) (data : Octets) (w : World π τ) :
    Rules id w (send id data w) := by
  rw [send_eq_gated]
  exact gated_rules (engineWrite_quietly id data) id w

theorem receive_rules (id : SocketId) (size : Int) (w : World π τ) :
    Rules id w (receive id size w) := by
  unfold receive
  rw [Action.bind_of_ok (find_eq id w)]
  split
  · exact read_rules id size w
  · next ho => exact .abstains (fun g hmeets => ho hmeets.1) (.refl w) rfl

/-- Only the first part of the data can find the session unverified. -/
theorem sendRest_rules (id : SocketId) (fuel : Nat) (b : UInt8) (bs : Octets) (w : World π τ) :
    Rules id w (sendRest id (fuel + 1) (b :: bs) w) := by
  unfold sendRest
  refine (send_rules id (b :: bs) w).bind fun taken u h => ?_
  rw [send_eq_gated] at h
  exact sendRest_quiet id fuel _ u (verified_of_gated (engineWrite_quietly id (b :: bs)) h)

/-- Without data there is no need of a handshake. -/
theorem sendAll_nil (ho : (known w id).isOpen = true) : sendAll id [] w = .ok () w := by
  unfold sendAll
  rw [Action.bind_of_ok (find_eq id w), ho]
  rfl

theorem sendAll_rules (id : SocketId) (data : Octets) (w : World π τ)
    (hwork : ¬(data = [] ∧ (known w id).isOpen = true)) : Rules id w (sendAll id data w) := by
  unfold sendAll
  rw [Action.bind_of_ok (find_eq id w)]
  split
  · next ho =>
    cases data with
    | nil => exact absurd ⟨rfl, ho⟩ hwork
    | cons b bs => exact sendRest_rules id bs.length b bs w
  · next ho => exact .abstains (fun g hmeets => ho hmeets.1) (.refl w) rfl

end Session

open TrustGate.Tls.Session (Passed Keeps Verifies Meets Rules known)

variable {π τ : Type} [Platform π τ]

/-! ## Acts -/

/-- To start a session and do the handshake rules as the handshake does. -/
theorem Context.wrap_rules (c : Context) (socket : SocketId) (host : Option String)
    (w : World π τ) {name : Option String}
    (hr : w.reply (.wrap c.engine socket host) = Except.ok name) :
    Rules socket (c.started socket host w) (c.wrap socket host true w) := by
  have hrules := Session.doHandshake_rules socket (c.started socket host w)
  rw [wrap_eq, hr]
  simp only [if_true]
  cases hs : Session.doHandshake socket (c.started socket host w) with
  | ok _ u =>
    rw [hs] at hrules
    refine hrules.follow (.refl u) rfl fun _ hf => ?_
    cases hf
  | error f u =>
    rw [hs] at hrules
    refine hrules.follow (Session.keeps_close socket u) rfl fun _ hf => ?_
    cases hf
    rfl

namespace Act

/-- The session with which an act works, and the world in which it begins with that.  To wrap a
socket is to work with the session that starts, if the engine starts one. -/
def entry (w : World π τ) : Act → Option (SocketId × World π τ)
  | .operate id _ => some (id, w)
  | .wrap c socket host _ =>
    match (w.reply (.wrap c.engine socket host) : Except Failure (Option String)) with
    | .ok _ => some (socket, c.started socket host w)
    | .error _ => none
  | .check .. | .peerChain _ | .version _ | .cipher _ => none

/-- The world in which an act begins with its session, if it has one. -/
def begun (act : Act) (w : World π τ) : World π τ := (act.entry w).elim w Prod.snd

/-- A validator rejects the chain in the act, and the act fails with that. -/
def Rejected (act : Act) (w : World π τ) : Prop :=
  ∃ id u g, act.entry w = some (id, u) ∧ Meets id u g ∧
    outcome (act.perform w) = .error (handshakeRejection g)

/-- What an act decides, and how it is counted. -/
inductive Ruling (act : Act) (w : World π τ) : Prop
  | accepts {id : SocketId} {u p : World π τ} : act.entry w = some (id, u) →
      (known u id).verified = false →
      Session.Cleared id (known u id).host (known u id).validators u p →
      Verifies id u (act.perform.after w) →
      (act.perform.after w).counters =
        w.counters.addDecision Metrics.Decision.accepted.label → Ruling act w
  | rejects : act.Rejected w → Keeps (act.begun w) (act.perform.after w) →
      (act.perform.after w).counters =
        w.counters.addDecision Metrics.Decision.rejected.label → Ruling act w
  | abstains : ¬act.Rejected w → Keeps (act.begun w) (act.perform.after w) →
      (act.perform.after w).counters = w.counters → Ruling act w

variable {act : Act} {id : SocketId} {w u : World π τ}

theorem begun_of_entry (h : act.entry w = some (id, u)) : act.begun w = u := by
  unfold begun
  rw [h]
  rfl

theorem begun_of_none (h : act.entry w = none) : act.begun w = w := by
  unfold begun
  rw [h]
  rfl

theorem not_rejected_of_none (h : act.entry w = none) : ¬act.Rejected w := by
  rintro ⟨id, u, g, hentry, -⟩
  rw [h] at hentry
  cases hentry

/-- An act that does not fail is not rejected. -/
theorem not_rejected_of_ok {x : Yield} {w' : World π τ} (h : act.perform w = .ok x w') :
    ¬act.Rejected w := by
  rintro ⟨id, u, g, -, -, hfails⟩
  rw [h] at hfails
  cases hfails

/-- What is ruled in the session's operation is the ruling of the act. -/
theorem ruling_of_rules (hentry : act.entry w = some (id, u)) (hu : u.counters = w.counters)
    (h : Rules id u (act.perform w)) : act.Ruling w := by
  have hbegun := begun_of_entry hentry
  have hafter : act.perform.after w = Action.final (act.perform w) := rfl
  generalize hr : act.perform w = r at h hafter
  cases h with
  | accepts hv hcleared hverifies hcounters =>
    rw [← hafter] at hverifies hcounters
    rw [hu] at hcounters
    exact .accepts hentry hv hcleared hverifies hcounters
  | @rejects g w' hmeets hkeeps hcounters =>
    have hrejected : act.Rejected w := ⟨id, u, g, hentry, hmeets, by rw [hr]; rfl⟩
    replace hafter : act.perform.after w = w' := hafter
    rw [← hafter] at hkeeps hcounters
    rw [hu] at hcounters
    exact .rejects hrejected (hbegun ▸ hkeeps) hcounters
  | abstains hnever hkeeps hcounters =>
    have hnot : ¬act.Rejected w := by
      rintro ⟨id', u', g, hentry', hmeets, -⟩
      rw [hentry] at hentry'
      cases hentry'
      exact hnever g hmeets
    rw [← hafter] at hkeeps hcounters
    rw [hu] at hcounters
    exact .abstains hnot (hbegun ▸ hkeeps) hcounters

/-- An act on no session that is quiet decides nothing. -/
theorem ruling_of_quiet {allowed : Call τ → Prop} (hentry : act.entry w = none)
    (h : Quiet allowed w (act.perform.after w)) : act.Ruling w := by
  refine .abstains (not_rejected_of_none hentry) ?_ h.counters
  rw [begun_of_none hentry]
  exact Session.keeps_of_quiet h

theorem ruling_operate (id : SocketId) (op : Session.Operation) (w : World π τ) :
    (Act.operate id op).Ruling w := by
  have hentry : (Act.operate id op).entry w = some (id, w) := rfl
  cases op with
  | handshake => exact ruling_of_rules hentry rfl ((Session.doHandshake_rules id w).map _)
  | read size => exact ruling_of_rules hentry rfl ((Session.read_rules id size w).map _)
  | receive size => exact ruling_of_rules hentry rfl ((Session.receive_rules id size w).map _)
  | write data => exact ruling_of_rules hentry rfl ((Session.write_rules id data w).map _)
  | send data => exact ruling_of_rules hentry rfl ((Session.send_rules id data w).map _)
  | close =>
    have hclosed : (Act.operate id .close).perform w = .ok .done ((Session.close id).after w) := rfl
    refine .abstains (not_rejected_of_ok hclosed) ?_ ?_
    · rw [Action.after_of_ok hclosed]
      exact Session.keeps_close id w
    · rw [Action.after_of_ok hclosed]
      rfl
  | sendAll data =>
    by_cases hidle : data = [] ∧ (known w id).isOpen = true
    · obtain ⟨rfl, ho⟩ := hidle
      have hsent : (Act.operate id (.sendAll [])).perform w = .ok .done w := by
        show ((fun _ => Yield.done) <$> Session.sendAll id [] : Action π τ Yield) w = _
        rw [Action.map_eq, Session.sendAll_nil ho]
      refine .abstains (not_rejected_of_ok hsent) ?_ ?_
      · rw [Action.after_of_ok hsent]
        exact .refl w
      · rw [Action.after_of_ok hsent]
    · exact ruling_of_rules hentry rfl ((Session.sendAll_rules id data w hidle).map _)

theorem ruling_wrap (c : Context) (socket : SocketId) (host : Option String) (handshake : Bool)
    (w : World π τ) : (Act.wrap c socket host handshake).Ruling w := by
  cases hr : (w.reply (.wrap c.engine socket host) : Except Failure (Option String)) with
  | error f =>
    have hrefused : c.wrap socket host handshake w =
        .error f (w.asked (.wrap c.engine socket host)) := by
      rw [Context.wrap_eq, hr]
    have hafter : (Act.wrap c socket host handshake).perform.after w =
        w.asked (.wrap c.engine socket host) := by
      show ((Yield.session <$> c.wrap socket host handshake : Action π τ Yield)).after w = _
      rw [Action.after_map, Action.after_of_error hrefused]
    have hquiet : Quiet (fun _ => True) w ((Act.wrap c socket host handshake).perform.after w) := by
      rw [hafter]
      exact w.quiet_asked trivial
    exact ruling_of_quiet (by simp only [entry, hr]) hquiet
  | ok _ =>
    have hentry : (Act.wrap c socket host handshake).entry w =
        some (socket, c.started socket host w) := by
      simp only [entry, hr]
    cases handshake with
    | true => exact ruling_of_rules hentry rfl ((c.wrap_rules socket host w hr).map Yield.session)
    | false =>
      have hstarted : (Act.wrap c socket host false).perform w =
          .ok (.session socket) (c.started socket host w) := by
        show (Yield.session <$> c.wrap socket host false : Action π τ Yield) w = _
        rw [Action.map_eq, Context.wrap_eq, hr]
        rfl
      refine .abstains (not_rejected_of_ok hstarted) ?_ ?_
      · rw [Action.after_of_ok hstarted, begun_of_entry hentry]
        exact .refl _
      · rw [Action.after_of_ok hstarted]
        rfl

/-- Whatever is done, at most one decision is made, and each is counted once. -/
theorem ruling (act : Act) (w : World π τ) : act.Ruling w := by
  cases act with
  | wrap c socket host handshake => exact ruling_wrap c socket host handshake w
  | operate id op => exact ruling_operate id op w
  | check p chain authType host =>
    exact ruling_of_quiet rfl ((p.check_quietly chain authType host).map (fun _ => Yield.done) w)
  | peerChain id => exact ruling_of_quiet rfl ((Session.peerChain_quietly id).map Yield.chain w)
  | version id => exact ruling_of_quiet rfl ((Session.version_quietly id).map Yield.version w)
  | cipher id => exact ruling_of_quiet rfl ((Session.cipher_quietly id).map Yield.cipher w)

/-- What is done with sessions counts no connection. -/
theorem connections_eq (act : Act) (w : World π τ) :
    (act.perform.after w).counters.connections = w.counters.connections := by
  cases act.ruling w with
  | accepts _ _ _ _ hcounters =>
    rw [hcounters]
    rfl
  | rejects _ _ hcounters =>
    rw [hcounters]
    rfl
  | abstains _ _ hcounters => rw [hcounters]

end Act

end TrustGate.Tls
