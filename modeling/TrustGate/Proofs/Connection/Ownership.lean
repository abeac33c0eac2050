import TrustGate.Proofs.Connection.Steps

/-!
# Who owns the sockets

A socket that was opened is open until it is closed.  It is closed as it is held: a plain
one as a socket, one that a session took over as a session.

    holding new      what is open of the sockets that were opened in `new`
    abandoned new    what the last happening of `new`, a failure nobody cleans up after, leaves open

Connecting closes what it opened, with one exception:

    connect returns a session   →  holding new = [(session, .session)]
    connect fails               →  holding new = (abandoned new).toList
-/

namespace TrustGate.Connection

/-- What a socket is held as. -/
inductive Holder where
  | plain
  | session
  deriving DecidableEq, Repr

abbrev Holding := List (SocketId × Holder)

variable {π τ : Type}

/-- What is held after a happening. -/
def hold : Happening τ → Holding → Holding
  | .called (.openSocket s _ _) (.ok _), held => (s, .plain) :: held
  | .called (.openDirect s _ _) (.ok _), held => (s, .plain) :: held
  | .called (.duplicate _ s) (.ok _), held => (s, .plain) :: held
  | .called (.wrap _ s _) (.ok _), held =>
    held.map fun x => if x = (s, .plain) then (s, .session) else x
  | .called (.closeSocket s) _, held => held.filter (· ≠ (s, .plain))
  | .called (.closeSession s) _, held => held.filter (· ≠ (s, .session))
  | _, held => held

/-- What is open of the sockets that were opened in some happenings, newest first. -/
def holding (new : List (Happening τ)) : Holding := new.foldr hold []

/-- The socket that a failure leaves open: nothing is closed after the clean-up for failures of the
operating system passed a failure of another kind, after a limit could not be taken off, and after
a session did not tell its version. -/
def abandons : Happening τ → Option (SocketId × Holder)
  | .called (.setTimeout s (.remaining _)) (.error f) =>
    if f.kind.isOs then none else some (s, .plain)
  | .called (.bind s _) (.error f) => if f.kind.isOs then none else some (s, .plain)
  | .called (.connect s _) (.error f) => if f.kind.isOs then none else some (s, .plain)
  | .called (.setTimeout s (.given .null)) (.error _) => some (s, .plain)
  | .called (.version s) (.error _) => some (s, .session)
  | _ => none

def abandoned (new : List (Happening τ)) : Option (SocketId × Holder) := new.head?.bind abandons

/-! ## Keeping account -/

/-- Since `w₀`, what is open at `w` of the sockets that were opened is `held`. -/
abbrev Holds (w₀ w : World π τ) (held : Holding) : Prop := Sums hold [] w₀ w held

/-- Since `w₀`, the last happening at `w` abandoned `left`, and nothing else is open. -/
def Leaves (w₀ w : World π τ) (left : Option (SocketId × Holder)) : Prop :=
  ∃ x new, w.history = x :: new ++ w₀.history ∧ holding (x :: new) = left.toList ∧
    abandons x = left

variable {w₀ w w' : World π τ} {held : Holding} {left : Option (SocketId × Holder)}

theorem holds_counted (o : Metrics.Outcome) (h : Holds w₀ w held) :
    Holds w₀ (counted o w) held := h.of_history rfl

theorem Leaves.of_history (h : Leaves w₀ w left) (hw : w'.history = w.history) :
    Leaves w₀ w' left := by
  obtain ⟨x, new, hnew, hheld, hleft⟩ := h
  exact ⟨x, new, hw.trans hnew, hheld, hleft⟩

theorem Leaves.holds (h : Leaves w₀ w left) : Holds w₀ w left.toList := by
  obtain ⟨x, new, hnew, hheld, -⟩ := h
  exact ⟨x :: new, hnew, hheld⟩

variable [Platform π τ] {r : Request} {e : Endpoint} {s : SocketId}

theorem leaves_asked {call : Call τ} {answer : Reply call} (h : Holds w₀ w held)
    (hanswer : w.reply call = answer) (hheld : hold (.called call answer) held = left.toList)
    (hleft : abandons (.called call answer) = left) : Leaves w₀ (w.asked call) left := by
  obtain ⟨new, hnew, rfl⟩ := h
  subst hanswer
  refine ⟨.called call (w.reply call), new, ?_, hheld, hleft⟩
  rw [World.asked, hnew]
  rfl

omit [Platform π τ] in
theorem ignores_of_isHandshake {id : SocketId} (call : Call τ)
    (h : Tls.Session.IsHandshake id call) : Ignores hold call := by
  intro reply held
  rcases h with rfl | h
  · rfl
  · cases call <;> first | rfl | exact h.elim

/-! ## One address -/

theorem Bound.holds (h : Bound r s w w') (hw : Holds w₀ w held) : Holds w₀ w' held := by
  cases h with
  | anywhere _ => exact hw
  | source _ hb => exact hw.asked hb

theorem Reached.holds {p : End π τ Unit} (h : Reached r e s w p) (hw : Holds w₀ w held) :
    Holds w₀ (Action.final p) held := by
  cases h with
  | unbound _ hb => exact hw.asked hb
  | refused hb hc => exact (hb.holds hw).asked hc
  | connected hb hc => exact (hb.holds hw).asked hc

theorem Prepared.holds {remaining : τ} {p : End π τ Unit} (h : Prepared r e remaining s w p)
    (hw : Holds w₀ w held) : Holds w₀ (Action.final p) held := by
  cases h with
  | unlimited hl => exact hw.asked hl
  | limited hl hr => exact hr.holds (hw.asked hl)

/-- A failure that is not one of the operating system leaves the socket open. -/
theorem Reached.leaves {f : Failure} (h : Reached r e s w (.error f w'))
    (hf : f.kind.isOs = false) (hw : Holds w₀ w [(s, .plain)]) :
    Leaves w₀ w' (some (s, .plain)) := by
  cases h with
  | unbound _ hb => exact leaves_asked hw hb rfl (by simp [abandons, hf])
  | refused hb hc => exact leaves_asked (hb.holds hw) hc rfl (by simp [abandons, hf])

theorem Prepared.leaves {remaining : τ} {f : Failure}
    (h : Prepared r e remaining s w (.error f w')) (hf : f.kind.isOs = false)
    (hw : Holds w₀ w [(s, .plain)]) : Leaves w₀ w' (some (s, .plain)) := by
  cases h with
  | unlimited hl => exact leaves_asked hw hl rfl (by simp [abandons, hf])
  | limited hl hr => exact hr.leaves hf (hw.asked hl)

theorem opened_holds (hw : Holds w₀ w [])
    (ho : w.reply (.openSocket w.nextSocket e.family e.protocol) = Except.ok ()) :
    Holds w₀ (opened e w) [(w.nextSocket, .plain)] :=
  (hw.asked ho).of_history rfl

/-- Between attempts nothing is open, after the one that connects its socket is. -/
def Accounted {ε : Type} (w₀ : World π τ) : End π τ (Except ε SocketId) → Prop
  | .ok (.ok s) w => Holds w₀ w [(s, .plain)]
  | .ok (.error _) w => Leaves w₀ w none
  | .error _ w => ∃ left, Leaves w₀ w left

theorem Tried.accounted {remaining : τ} {p : End π τ (Except Failure SocketId)}
    (h : Tried (Prepared r e remaining) e w p) (hw : Holds w₀ w []) : Accounted w₀ p := by
  cases h with
  | unopened ho _ => exact leaves_asked hw ho rfl rfl
  | stopped ho _ => exact ⟨none, leaves_asked hw ho rfl rfl⟩
  | failed ho hp _ => exact leaves_asked (hp.holds (opened_holds hw ho)) rfl (by simp [hold]) rfl
  | abandoned ho hp hf => exact ⟨_, hp.leaves hf (opened_holds hw ho)⟩
  | connected ho hp => exact hp.holds (opened_holds hw ho)

/-! ## Opening a socket -/

variable [Duration τ]

/-- The invariant of the loop: nothing is open, and the last happening left nothing open. -/
theorem Tries.accounted {deadline : τ} {last : Option Failure} {es : List Endpoint}
    {p : End π τ (Except (Option Failure) SocketId)} (h : Tries r deadline last es w p)
    (hw : Leaves w₀ w none) : Accounted w₀ p := by
  induction h with
  | exhausted => exact hw
  | late _ => exact leaves_asked hw.holds rfl rfl rfl
  | broken _ ht => exact ht.accounted (hw.holds.asked rfl)
  | next _ ht _ ih => exact ih (ht.accounted (hw.holds.asked rfl))
  | stuck _ ht hb =>
    have hopen : Holds w₀ _ [(_, Holder.plain)] := ht.accounted (hw.holds.asked rfl)
    exact ⟨_, leaves_asked hopen hb rfl rfl⟩
  | connected _ ht hb =>
    have hopen : Holds w₀ _ [(_, Holder.plain)] := ht.accounted (hw.holds.asked rfl)
    exact hopen.asked hb

theorem GaveUp.leaves {deadline : τ} {last : Option Failure} {f : Failure}
    (h : GaveUp deadline w last f w') (hw : Leaves w₀ w none) : Leaves w₀ w' none := by
  cases h with
  | untried => exact hw
  | cutOff _ => exact hw
  | elapsed _ _ => exact leaves_asked hw.holds rfl rfl rfl
  | own _ _ => exact leaves_asked hw.holds rfl rfl rfl

/-- What is open when an action that is to return a socket has ended. -/
def Owned (w₀ : World π τ) (holder : Holder) : End π τ SocketId → Prop
  | .ok s w => Holds w₀ w [(s, holder)]
  | .error _ w => ∃ left, Leaves w₀ w left

theorem Within.owned {p : End π τ SocketId} (h : Within r w p) : Owned w .plain p := by
  have hclock : Holds w (w.asked .monotonicClock) [] := (Sums.refl w).asked rfl
  cases h with
  | uncounted _ => exact ⟨none, leaves_asked (Sums.refl w) rfl rfl rfl⟩
  | unresolved _ hr => exact ⟨none, leaves_asked hclock hr rfl rfl⟩
  | broken _ hr ht => exact ht.accounted (leaves_asked hclock hr rfl rfl)
  | gaveUp _ hr ht hg => exact ⟨none, hg.leaves (ht.accounted (leaves_asked hclock hr rfl rfl))⟩
  | connected _ hr ht => exact ht.accounted (leaves_asked hclock hr rfl rfl)

omit [Duration τ] in
theorem connectDirectly_owned (r : Request) (w : World π τ) :
    Owned w .plain (connectDirectly r w) := by
  rw [connectDirectly_eq]
  cases hd : (w.reply (.openDirect w.nextSocket r.address r.sourceAddress?) :
      Except Failure Unit) with
  | ok _ => exact ((Sums.refl w).asked hd).of_history rfl
  | error f => exact ⟨none, leaves_asked (Sums.refl w) hd rfl rfl⟩

theorem openSocket_owned (r : Request) (w : World π τ) : Owned w .plain (openSocket r w) := by
  have hraw : Owned w .plain ((openRaw r : Action π τ SocketId) w) := by
    unfold openRaw
    split
    · exact (connectWithinDeadline_within r w).owned
    · exact connectDirectly_owned r w
  rw [openSocket_eq]
  cases ho : (openRaw r : Action π τ SocketId) w with
  | ok s u =>
    rw [ho] at hraw
    exact hraw
  | error f u =>
    rw [ho] at hraw
    obtain ⟨left, hleft⟩ := hraw
    exact ⟨left, hleft.of_history (history_tallied f u)⟩

/-! ## Connecting -/

omit [Duration τ] in
theorem started_holds (c : Tls.Context) (host : Option String) (hw : Holds w₀ w [(s, .plain)])
    {name : Option String} (hr : w.reply (.wrap c.engine s host) = Except.ok name) :
    Holds w₀ (c.started s host w) [(s, .session)] := by
  have hhandover : hold (.called (.wrap c.engine s host : Call τ) (Except.ok name))
      [(s, Holder.plain)] = [(s, .session)] := by
    simp [hold]
  rw [← hhandover]
  exact (hw.asked hr).of_history rfl

omit [Duration τ] in
theorem close_holds (hw : Holds w₀ w [(s, .session)]) :
    Holds w₀ ((Tls.Session.close s).after w) [] := by
  have hmarked : Holds w₀ (w.setSession s { Tls.Session.known w s with isOpen := false })
      [(s, .session)] := hw.of_history rfl
  have hclosed : hold (.called (.closeSession s : Call τ) ()) [(s, Holder.session)] = [] := by
    simp [hold]
  rw [Action.after_of_ok (Tls.Session.close_eq s w), ← hclosed]
  exact hmarked.asked rfl

omit [Duration τ] in
/-- A session takes the socket over; if it does not come about, the socket may be closed already. -/
theorem wrap_account (c : Tls.Context) (host : Option String) (handshake : Bool)
    (hw : Holds w₀ w [(s, .plain)]) :
    match c.wrap s host handshake w with
    | .ok id u => id = s ∧ Holds w₀ u [(s, .session)]
    | .error _ u => Holds w₀ u [(s, .plain)] ∨ Holds w₀ u [] := by
  rw [Tls.Context.wrap_eq]
  cases hr : (w.reply (.wrap c.engine s host) : Except Failure (Option String)) with
  | error f => exact .inl (hw.asked hr)
  | ok _ =>
    have hstarted := started_holds c host hw hr
    cases handshake with
    | false => exact ⟨rfl, hstarted⟩
    | true =>
      have hmakes := Tls.Session.doHandshake_makes s (c.started s host w)
      have hdone := hstarted.of_makes hmakes ignores_of_isHandshake fun _ _ _ => rfl
      simp only [if_true]
      cases hs : Tls.Session.doHandshake s (c.started s host w) with
      | ok _ u =>
        rw [Action.after_of_ok hs] at hdone
        exact ⟨rfl, hdone⟩
      | error f u =>
        rw [Action.after_of_error hs] at hdone
        exact .inr (close_holds hdone)

omit [Duration τ] in
theorem begin_account (c : Tls.Context) (r : Request) (handshake : Bool)
    (hw : Holds w₀ w [(s, .plain)]) :
    match begin c r handshake s w with
    | .ok id u => id = s ∧ Holds w₀ u [(s, .session)]
    | .error _ u => Holds w₀ u [(s, .plain)] ∨ Holds w₀ u [] := by
  have hlimit := setTimeout_eq s (.given r.soTimeout) w
  unfold begin
  cases hl : (w.reply (.setTimeout s (.given r.soTimeout)) : Except Failure Unit) with
  | error f =>
    rw [hl] at hlimit
    rw [Action.bind_of_error hlimit]
    exact .inl (hw.asked hl)
  | ok _ =>
    rw [hl] at hlimit
    rw [Action.bind_of_ok hlimit]
    exact wrap_account c (peerName r.host) handshake (hw.asked hl)

omit [Duration τ] in
theorem version_account (hw : Holds w₀ w [(s, .session)]) :
    match Tls.Session.version s w with
    | .ok _ u => Holds w₀ u [(s, .session)]
    | .error _ u => Leaves w₀ u (some (s, .session)) := by
  rw [Tls.Session.version_eq]
  cases ho : (Tls.Session.known w s).isOpen with
  | false => exact hw
  | true =>
    rw [if_pos rfl]
    cases hv : (w.reply (.version s) : Except Failure (Option String)) with
    | ok _ => exact hw.asked hv
    | error f => exact leaves_asked hw hv rfl rfl

theorem Connects.owned {c : Tls.Context} {handshake : Bool} {p : End π τ SocketId}
    (h : Connects c r handshake w p) : Owned w .session p := by
  have hopen := openSocket_owned r w
  cases h with
  | unopened ho =>
    rw [ho] at hopen
    exact hopen
  | failed ho hb =>
    rw [ho] at hopen
    have hbegin := begin_account c r handshake hopen
    rw [hb] at hbegin
    -- closing the socket does nothing more if the session was closed
    rcases hbegin with hplain | hnone
    · exact ⟨none, leaves_asked (holds_counted .error hplain) rfl (by simp [hold]) rfl⟩
    · exact ⟨none, leaves_asked (holds_counted .error hnone) rfl rfl rfl⟩
  | unread ho hb hv =>
    rw [ho] at hopen
    have hbegin := begin_account c r handshake hopen
    rw [hb] at hbegin
    obtain ⟨rfl, hsession⟩ := hbegin
    have hversion := version_account (holds_counted .connected hsession)
    rw [hv] at hversion
    exact ⟨_, hversion⟩
  | connected ho hb hv =>
    rw [ho] at hopen
    have hbegin := begin_account c r handshake hopen
    rw [hb] at hbegin
    obtain ⟨rfl, hsession⟩ := hbegin
    have hversion := version_account (holds_counted .connected hsession)
    rw [hv] at hversion
    exact hversion.of_history rfl

/-- When connecting ends with a session, its socket is open and no other is.  When it fails, every
socket is closed but the one that the last happening abandoned, if it abandoned one. -/
theorem holding_connect (c : Tls.Context) (r : Request) (handshake : Bool) (w : World π τ) :
    ∃ new, ((connect c r handshake).after w).history = new ++ w.history ∧
      match connect c r handshake w with
      | .ok session _ => holding new = [(session, .session)]
      | .error _ _ => holding new = (abandoned new).toList := by
  have howned := (connect_connects c r handshake w).owned
  unfold Action.after
  cases hc : connect c r handshake w with
  | ok session u =>
    rw [hc] at howned
    exact howned
  | error f u =>
    rw [hc] at howned
    obtain ⟨left, x, new, hnew, hheld, rfl⟩ := howned
    exact ⟨x :: new, hnew, hheld⟩

/-- The host has one address, and connecting to it is interrupted. -/
def interrupted : Rehearsal.NetScript where
  resolve := ⟨0.0, none, [⟨2, 6, .text "192.0.2.1"⟩]⟩
  sockets := [{ Rehearsal.SocketScript.plain with connectFailure := some (.plain .interrupt "") }]
  directFailure := none

/-- An interrupted attempt leaves its socket open. -/
example : holding ((connect unverified (toHost .null (.float 5.0)) true).after
    (staged interrupted)).history = [(0, .plain)] := by
  decide +kernel

end TrustGate.Connection
