import TrustGate.Connection.Upgrade
import TrustGate.Proofs.Connection.Tally

/-!
# Upgrading and the caller's socket

How starting a session over an open socket can end once the arguments are checked:

    Handed plain w autoClose s u    the session is to run on `s`: the socket, or a duplicate of it
    Upgrades c plain …  w p         `p` is how upgrading can end
    Call.Spares s call              the call takes nothing from whoever has the socket `s`

A duplicate changes hands twice: it is made for the session, which takes it over.  Whatever
fails on the way, it is closed by whoever has it then, and the caller's socket is spared
(upgrade_spares_caller).
-/

namespace TrustGate

/-- The call neither closes the socket nor starts a session that takes it over. -/
def Call.Spares {τ : Type} (s : SocketId) : Call τ → Prop
  | .closeSocket t | .closeSession t | .wrap _ t _ => t ≠ s
  | _ => True

/-- The call starts the session, is for it, or is an inquiry. -/
def Call.IsStarting {τ : Type} (s : SocketId) : Call τ → Prop
  | .wrap _ t _ | .handshake t | .closeSession t => t = s
  | call => call.IsInquiry

namespace Connection

variable {π τ : Type} [Platform π τ]

/-! ## How upgrading can end -/

theorem nonempty?_isNone_iff (host : String) :
    (nonempty? (some host)).isNone = true ↔ host = "" := by
  unfold nonempty?
  split
  · next h => simpa using h
  · next h => simpa using h

theorem checkUpgrade_of_isOpen {plain : SocketId} {w : World π τ}
    (hopen : w.reply (.isOpen plain) = true) (host : String) :
    checkUpgrade (some plain) (some host) w =
      if host = "" then .error (Failure.of RequestFault.emptyHost) (w.asked (.isOpen plain))
      else .ok plain (w.asked (.isOpen plain)) := by
  unfold checkUpgrade
  simp only []
  rw [Action.bind_of_ok (w.ask_asked _), hopen]
  simp only [nonempty?_isNone_iff]
  by_cases hhost : host = ""
  · rw [if_pos hhost, if_pos hhost]
    rfl
  · rw [if_neg hhost, if_neg hhost]
    rfl

/-- The world in which a socket was duplicated and the copy goes by the next number. -/
def doubled (plain : SocketId) (w : World π τ) : World π τ :=
  { w.asked (.duplicate plain w.nextSocket) with nextSocket := w.nextSocket + 1 }

theorem duplicate_eq (plain : SocketId) (w : World π τ) :
    duplicate plain w =
      match (w.reply (.duplicate plain w.nextSocket) : Except Failure Unit) with
      | .ok _ => .ok w.nextSocket (doubled plain w)
      | .error f => .error f (w.asked (.duplicate plain w.nextSocket)) := by
  have hfresh : freshSocket w = .ok w.nextSocket w := rfl
  unfold duplicate
  rw [Action.bind_of_ok hfresh, Action.bind_of_ok (w.ask_asked _)]
  cases (w.reply (.duplicate plain w.nextSocket) : Except Failure Unit) <;> rfl

/-- The socket that a session is to run on, and the world in which it is there. -/
inductive Handed (plain : SocketId) (w : World π τ) : Bool → SocketId → World π τ → Prop
  | own : Handed plain w true plain w
  | copy : w.reply (.duplicate plain w.nextSocket) = Except.ok () →
      Handed plain w false w.nextSocket (doubled plain w)

/-- The world after no session came of a socket: a duplicate is closed. -/
def discarded (autoClose : Bool) (s : SocketId) (w : World π τ) : World π τ :=
  if autoClose then w else w.asked (.closeSocket s)

inductive Upgrades (c : Tls.Context) (plain : SocketId) (host : Option String)
    (autoClose handshake : Bool) (w : World π τ) : End π τ SocketId → Prop
  | undoubled {f : Failure} : autoClose = false →
      w.reply (.duplicate plain w.nextSocket) = Except.error f →
      Upgrades c plain host autoClose handshake w
        (.error f (w.asked (.duplicate plain w.nextSocket)))
  | failed {s : SocketId} {f : Failure} {u v : World π τ} : Handed plain w autoClose s u →
      c.wrap s host handshake u = .error f v →
      Upgrades c plain host autoClose handshake w
        (.error f (discarded autoClose s (counted .error v)))
  | upgraded {s id : SocketId} {u v : World π τ} {j : Logging.Journal} :
      Handed plain w autoClose s u → c.wrap s host handshake u = .ok id v →
      Upgrades c plain host autoClose handshake w
        (.ok id { counted .connected v with journal := j })

theorem upgrade_upgrades (c : Tls.Context) {plain : SocketId} {host : String} (port : Value)
    (autoClose handshake : Bool) {w : World π τ} (hopen : w.reply (.isOpen plain) = true)
    (hhost : host ≠ "") :
    Upgrades c plain (some host) autoClose handshake (w.asked (.isOpen plain))
      (upgrade c (some plain) (some host) port autoClose handshake w) := by
  have hcheck := checkUpgrade_of_isOpen hopen host
  rw [if_neg hhost] at hcheck
  unfold upgrade
  rw [Action.bind_of_ok hcheck]
  generalize w.asked (.isOpen plain) = w
  -- what follows is the same on the socket and on a duplicate of it
  have hrest {s : SocketId} {u : World π τ} (hs : Handed plain w autoClose s u) :
      Upgrades c plain (some host) autoClose handshake w
        ((do
          let session ← Action.onFailure (c.wrap s (some host) handshake)
            (do
              countOutcome .error
              if !autoClose then closeSocket s)
          countOutcome .connected
          debugLog logger "Upgraded connection to %s:%d (auto_close=%s)"
            [((some host).map Value.text).getD .null, port, .bool autoClose]
          return session : Action π τ SocketId) u) := by
    have hsession := Action.onFailure_eq (c.wrap s (some host) handshake : Action π τ SocketId)
      (do
        countOutcome .error
        if !autoClose then closeSocket s) u
    cases hw : (c.wrap s (some host) handshake : Action π τ SocketId) u with
    | error f v =>
      rw [hw] at hsession
      have hfailed := Upgrades.failed (c := c) hs hw
      cases autoClose with
      | true =>
        rw [Action.bind_of_error hsession]
        exact hfailed
      | false =>
        rw [Action.bind_of_error hsession]
        exact hfailed
    | ok id v =>
      rw [hw] at hsession
      obtain ⟨j, hj⟩ := debugLog_ok logger "Upgraded connection to %s:%d (auto_close=%s)"
        [((some host).map Value.text).getD .null, port, .bool autoClose] (counted .connected v)
      rw [Action.bind_of_ok hsession, Action.bind_of_ok (countOutcome_eq .connected v),
        Action.bind_of_ok hj]
      exact .upgraded hs hw
  cases autoClose with
  | true => exact hrest .own
  | false =>
    have hdouble := duplicate_eq plain w
    simp only [Bool.false_eq_true, if_false]
    cases hd : (w.reply (.duplicate plain w.nextSocket) : Except Failure Unit) with
    | error f =>
      rw [hd] at hdouble
      rw [Action.bind_of_error hdouble]
      exact .undoubled rfl hd
    | ok _ =>
      rw [hd] at hdouble
      rw [Action.bind_of_ok hdouble]
      exact hrest (.copy hd)

/-! ## The caller's socket -/

/-- Closing a session takes no other socket. -/
theorem close_spares {s plain : SocketId} (hs : s ≠ plain) (w : World π τ) :
    Makes (Call.Spares plain) w ((Tls.Session.close s).after w) := by
  rw [Action.after_of_ok (Tls.Session.close_eq s w)]
  exact ⟨[.called (.closeSession s) ()], rfl, by simpa [Happening.Within, Call.Spares] using hs⟩

/-- Once the engine was asked for a session, there are calls for that session only, and
inquiries. -/
theorem wrap_goes_on (c : Tls.Context) (s : SocketId) (host : Option String) (handshake : Bool)
    (w : World π τ) :
    Makes (Call.IsStarting s) (w.asked (.wrap c.engine s host))
      ((c.wrap s host handshake).after w) := by
  have hhandshake (call : Call τ) (h : Tls.Session.IsHandshake s call) : call.IsStarting s := by
    rcases h with rfl | h
    · rfl
    · cases call <;> trivial
  have hstarted : Makes (Call.IsStarting s) (w.asked (.wrap c.engine s host))
      (c.started s host w) := ⟨[], rfl, by simp⟩
  unfold Action.after
  rw [Tls.Context.wrap_eq]
  cases hr : (w.reply (.wrap c.engine s host) : Except Failure (Option String)) with
  | error f => exact .refl _
  | ok _ =>
    cases handshake with
    | false => exact hstarted
    | true =>
      have hmakes := hstarted.trans
        ((Tls.Session.doHandshake_makes s (c.started s host w)).mono hhandshake)
      simp only [if_true]
      cases hd : Tls.Session.doHandshake s (c.started s host w) with
      | ok _ u =>
        rw [Action.after_of_ok hd] at hmakes
        exact hmakes
      | error f u =>
        rw [Action.after_of_error hd] at hmakes
        have hclosed : Makes (Call.IsStarting s) u ((Tls.Session.close s).after u) := by
          rw [Action.after_of_ok (Tls.Session.close_eq s u)]
          exact ⟨[.called (.closeSession s) ()], rfl, by simp [Happening.Within, Call.IsStarting]⟩
        exact hmakes.trans hclosed

theorem wrap_makes (c : Tls.Context) (s : SocketId) (host : Option String) (handshake : Bool)
    (w : World π τ) : Makes (Call.IsStarting s) w ((c.wrap s host handshake).after w) := by
  have hwrap : Call.IsStarting s (.wrap c.engine s host : Call τ) := rfl
  exact (w.quiet_asked hwrap).makes.trans (wrap_goes_on c s host handshake w)

omit [Platform π τ] in
theorem IsStarting.spares {s plain : SocketId} (hs : s ≠ plain) (call : Call τ)
    (h : call.IsStarting s) : call.Spares plain := by
  cases call <;> first | trivial | exact fun heq => hs (h.symm.trans heq)

theorem Upgrades.spares {c : Tls.Context} {plain : SocketId} {host : Option String}
    {handshake : Bool} {w : World π τ} {p : End π τ SocketId}
    (h : Upgrades c plain host false handshake w p) (hplain : plain < w.nextSocket) :
    Makes (Call.Spares plain) w (Action.final p) := by
  -- the session runs on the duplicate, whose number is not the socket's
  have hne : w.nextSocket ≠ plain := Nat.ne_of_gt hplain
  have hasked : Makes (Call.Spares plain) w (w.asked (.duplicate plain w.nextSocket)) :=
    (w.quiet_asked trivial).makes
  have hwrapped : Makes (Call.Spares plain) w
      ((c.wrap w.nextSocket host handshake).after (doubled plain w)) :=
    hasked.trans ((wrap_makes c w.nextSocket host handshake _).mono (IsStarting.spares hne))
  cases h with
  | undoubled _ _ => exact hasked
  | failed hs hw =>
    cases hs with
    | copy _ =>
      rw [Action.after_of_error hw] at hwrapped
      exact hwrapped.trans ((World.quiet_asked _ hne).makes)
  | upgraded hs hw =>
    cases hs with
    | copy _ =>
      rwa [Action.after_of_ok hw] at hwrapped

/-! ## The duplicate -/

/-- What has become of a duplicate that was asked for since `w`, if upgrading ends with `p`: the
session that is returned has it, or it was not made or is closed again.  Nothing else is open. -/
def Settled (plain copy : SocketId) (w : World π τ) : End π τ SocketId → Prop
  | .ok session u => session = copy ∧
      .called (.duplicate plain copy) (Except.ok ()) ∈ w.since u ∧
      holding (w.since u) = [(copy, .session)] ∧ CountedAs .connected w u
  | .error f u => holding (w.since u) = [] ∧
      (.called (.duplicate plain copy) (Except.error f) ∈ w.since u ∧ u.counters = w.counters ∨
        .called (.duplicate plain copy) (Except.ok ()) ∈ w.since u ∧ CountedAs .error w u)

/-- Since `w₀` a duplicate was made, nothing else is open, and nothing was counted. -/
structure Doubled (plain copy : SocketId) (w₀ w : World π τ) : Prop where
  called : ∃ past, .called (.duplicate plain copy) (Except.ok ()) :: past <:+ w.history ∧
    w₀.history <:+ past
  holds : Holds w₀ w [(copy, .plain)]
  counters : w.counters = w₀.counters

variable {w₀ w u v : World π τ} {plain s : SocketId}

theorem Handed.doubled (h : Handed plain w false s u) (hw : Holds w₀ w [])
    (hcounters : w.counters = w₀.counters) :
    s = w.nextSocket ∧ Doubled plain w.nextSocket w₀ u := by
  obtain ⟨new, hnew, -⟩ := id hw
  cases h with
  | copy hd =>
    have hlast : .called (.duplicate plain w.nextSocket) (Except.ok ()) :: w.history <:+
        (doubled plain w).history := by
      rw [← hd]
      exact List.suffix_rfl
    exact ⟨rfl, ⟨w.history, hlast, ⟨new, hnew.symm⟩⟩, (hw.asked hd).of_history rfl, hcounters⟩

theorem Upgrades.settled {c : Tls.Context} {host : Option String} {handshake : Bool}
    {p : End π τ SocketId} (h : Upgrades c plain host false handshake w p) (hw : Holds w₀ w [])
    (hcounters : w.counters = w₀.counters) : Settled plain w.nextSocket w₀ p := by
  cases h with
  | @undoubled f _ hd =>
    obtain ⟨new, hnew, -⟩ := id hw
    have hheld : Holds w₀ (w.asked (.duplicate plain w.nextSocket)) [] := hw.asked hd
    have hlast : .called (.duplicate plain w.nextSocket) (Except.error f) :: w.history <:+
        (w.asked (.duplicate plain w.nextSocket)).history := by
      rw [← hd]
      exact List.suffix_rfl
    exact ⟨hheld.foldr_since, .inl ⟨World.mem_since hlast ⟨new, hnew.symm⟩, hcounters⟩⟩
  | @failed s f u v hs hb =>
    obtain ⟨rfl, hdoubled⟩ := hs.doubled hw hcounters
    obtain ⟨past, hcalled, hpast⟩ := hdoubled.called
    have hgrows := (wrap_makes c w.nextSocket host handshake u).suffix
    have hcount := wrap_connections c w.nextSocket host handshake u
    have haccount := wrap_account c host handshake hdoubled.holds
    rw [Action.after_of_error hb] at hgrows hcount
    rw [hb] at haccount
    -- closing the duplicate does nothing more if the session was closed
    have hclosed : Holds w₀ ((counted .error v).asked (.closeSocket w.nextSocket)) [] := by
      rcases haccount with hplain | hnone
      · have hfilter : hold (.called (.closeSocket w.nextSocket : Call τ) ())
            [(w.nextSocket, Holder.plain)] = [] := by
          simp [hold]
        rw [← hfilter]
        exact (holds_counted .error hplain).asked rfl
      · exact (holds_counted .error hnone).asked rfl
    have hcounted : CountedAs .error w₀ ((counted .error v).asked (.closeSocket w.nextSocket)) := by
      refine countedAs_of_connections ?_
      rw [← hdoubled.counters, ← hcount]
      rfl
    have hclosing : v.history <:+ ((counted .error v).asked (.closeSocket w.nextSocket)).history :=
      List.suffix_cons _ _
    have hmem := World.mem_since ((hcalled.trans hgrows).trans hclosing) hpast
    exact ⟨hclosed.foldr_since, .inr ⟨hmem, hcounted⟩⟩
  | @upgraded s id u v j hs hb =>
    obtain ⟨rfl, hdoubled⟩ := hs.doubled hw hcounters
    obtain ⟨past, hcalled, hpast⟩ := hdoubled.called
    have hgrows := (wrap_makes c w.nextSocket host handshake u).suffix
    have hcount := wrap_connections c w.nextSocket host handshake u
    have haccount := wrap_account c host handshake hdoubled.holds
    rw [Action.after_of_ok hb] at hgrows hcount
    rw [hb] at haccount
    obtain ⟨rfl, hsession⟩ := haccount
    have hheld : Holds w₀ { counted .connected v with journal := j } [(w.nextSocket, .session)] :=
      hsession.of_history rfl
    have hcounted : CountedAs .connected w₀ { counted .connected v with journal := j } := by
      refine countedAs_of_connections ?_
      rw [← hdoubled.counters, ← hcount]
      rfl
    exact ⟨rfl, World.mem_since (hcalled.trans hgrows) hpast, hheld.foldr_since, hcounted⟩

/-- Upgrading that is not to close the caller's socket never takes it, nor does closing the session
that it returns.  The duplicate that it makes belongs to that session, or is closed. -/
theorem upgrade_spares_caller (c : Tls.Context) (plain : SocketId) (host : String) (port : Value)
    (handshake : Bool) (w : World π τ) (hopen : w.reply (.isOpen plain) = true) (hhost : host ≠ "")
    (hplain : plain < w.nextSocket) :
    Makes (Call.Spares plain) w
        ((upgrade c (some plain) (some host) port false handshake).after w) ∧
      (∀ session u, upgrade c (some plain) (some host) port false handshake w = .ok session u →
        ∀ v : World π τ, Makes (Call.Spares plain) v ((Tls.Session.close session).after v)) ∧
      Settled plain w.nextSocket w
        (upgrade c (some plain) (some host) port false handshake w) := by
  have hupgrades := upgrade_upgrades c port false handshake hopen hhost
  have hheld : Holds w (w.asked (.isOpen plain)) [] := (Sums.refl w).asked hopen
  have hsettled := hupgrades.settled hheld rfl
  have hasked : Makes (Call.Spares plain) w (w.asked (.isOpen plain)) :=
    (w.quiet_asked trivial).makes
  refine ⟨hasked.trans (hupgrades.spares hplain), fun session u hok => ?_, hsettled⟩
  rw [hok] at hsettled
  obtain ⟨rfl, -⟩ := hsettled
  exact close_spares (Nat.ne_of_gt hplain)

/-- A world in which the socket 0 is open and the engine's handshake is interrupted. -/
def tunnelled : World Rehearsal.Stage Float :=
  let session := { Rehearsal.SessionScript.plain with handshakes := [some (.plain .interrupt "")] }
  let stage := ({ Rehearsal.Stage.start 0.0 0.0 with session }).openSocket 0 .plain
  { World.initial stage .empty with nextSocket := 1 }

/-- An upgrade of the socket 0 that keeps it. -/
def upgradeKeeping : Action Rehearsal.Stage Float SocketId :=
  upgrade unverified (some 0) (some "localhost") (.int 443) false true

/-- How an upgrade of the socket 0 failed, whether the socket is open then, and how many attempts
have been counted. -/
def upgradeFailure? : End Rehearsal.Stage Float SocketId → Option (FailureKind × Bool × Nat)
  | .ok _ _ => none
  | .error f u => some (f.kind, u.reply (.isOpen 0), attemptsCounted u)

/-- An interrupted handshake: the duplicate is closed, and the socket is still open. -/
theorem upgrade_spares_caller_interrupted :
    tunnelled.reply (.isOpen 0) = true ∧ "localhost" ≠ "" ∧ 0 < tunnelled.nextSocket ∧
      ∃ f u, upgradeKeeping tunnelled = .error f u ∧ f.kind = .interrupt ∧
        Makes (Call.Spares 0) tunnelled u ∧ u.reply (.isOpen 0) = true ∧
        .called (.duplicate 0 1) (Except.ok ()) ∈ tunnelled.since u ∧
        holding (tunnelled.since u) = [] ∧ CountedAs .error tunnelled u := by
  have hopen : tunnelled.reply (.isOpen 0) = true := rfl
  have hfails : upgradeFailure? (upgradeKeeping tunnelled) = some (.interrupt, true, 1) := by
    decide +kernel
  have hspares := upgrade_spares_caller unverified 0 "localhost" (.int 443) true tunnelled hopen
    (by decide) Nat.one_pos
  change Makes _ tunnelled (upgradeKeeping.after tunnelled) ∧ _ ∧
    Settled 0 1 tunnelled (upgradeKeeping tunnelled) at hspares
  obtain ⟨hmakes, -, hsettled⟩ := hspares
  cases hu : upgradeKeeping tunnelled with
  | ok session u =>
    rw [hu] at hfails
    cases hfails
  | error f u =>
    rw [hu] at hfails hsettled
    rw [Action.after_of_error hu] at hmakes
    injection hfails with hfails
    injection hfails with hkind hfails
    injection hfails with hstill hcounted
    obtain ⟨hheld, ⟨-, hsame⟩ | ⟨hmem, herror⟩⟩ := hsettled
    · rw [attemptsCounted_same (congrArg Metrics.Counters.connections hsame)] at hcounted
      cases hcounted
    · exact ⟨hopen, by decide, Nat.one_pos, f, u, rfl, hkind, hmakes, hstill, hmem, hheld, herror⟩

end Connection

end TrustGate
