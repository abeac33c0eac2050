import TrustGate.Connection.Connect
import TrustGate.Proofs.Tls.Handshake
import TrustGate.Rehearsal.Stage

/-!
# Connecting, step by step

What connecting can come to, one constructor for each way to end:

    Reached r e s w p              `p` is how binding and connecting a socket can end
    Prepared r e t s w p           how setting its time limit and then reaching `e` can end
    Tried (Prepared r e t) e w p   how trying one address can end
    Tries r deadline last es w p   how trying addresses in order can end
    GaveUp deadline w last f u     what follows from the last failure if none accepted
    Within r w p                   how a socket is opened within a deadline
    Connects c r handshake w p     how connecting can end

Every operation has one of the ends that are listed for it:

    reach_reached, prepare_prepared, attempt_tried, tryEach_tries, giveUp_gaveUp,
    connectWithinDeadline_within, connect_connects

A failure to open a socket is explained and counted at once (openSocket_eq).
-/

namespace TrustGate.Connection

variable {π τ : Type}

/-- What an action ends with: a result or a failure, and the world it leaves. -/
abbrev End (π τ α : Type) := EStateM.Result Failure (World π τ) α

/-- The world after the end of an attempt to connect was counted. -/
def counted (o : Metrics.Outcome) (w : World π τ) : World π τ :=
  { w with counters := w.counters.addConnection o.label }

theorem countOutcome_eq (o : Metrics.Outcome) (w : World π τ) :
    countOutcome o w = .ok () (counted o w) := rfl

/-- A failure to open a socket as it is passed on. -/
def explained (r : Request) (f : Failure) : Failure :=
  if f.kind = .addressInfo then
    (Failure.of (ConnectFault.unresolved r.host.quoted f.message)).because f
  else if f.kind.isTimeout then
    (Failure.of (ConnectFault.timedOut r.host.shown r.port.shown r.limitText)).because f
  else f

/-- What a failure to open a socket is counted as. -/
def outcome? (f : Failure) : Option Metrics.Outcome :=
  if f.kind = .addressInfo then some .unresolved
  else if f.kind.isTimeout then some .timeout
  else if f.kind.isOs then some .error
  else none

/-- The world after a failure to open a socket was counted. -/
def tallied (f : Failure) (w : World π τ) : World π τ :=
  match outcome? f with
  | some o => counted o w
  | none => w

theorem history_tallied (f : Failure) (w : World π τ) : (tallied f w).history = w.history := by
  unfold tallied
  split <;> rfl

theorem explainFailure_eq (r : Request) (f : Failure) (w : World π τ) :
    explainFailure r f w = .error (explained r f) (tallied f w) := by
  unfold explainFailure explained tallied outcome?
  by_cases ha : f.kind = .addressInfo
  · simp only [ha, if_true]
    rw [Action.bind_of_ok (countOutcome_eq .unresolved w)]
    rfl
  · simp only [ha, if_false]
    by_cases ht : f.kind.isTimeout = true
    · simp only [ht, if_true]
      rw [Action.bind_of_ok (countOutcome_eq .timeout w)]
      rfl
    · simp only [ht, if_false, Bool.false_eq_true]
      by_cases ho : f.kind.isOs = true
      · simp only [ho, if_true]
        rw [Action.bind_of_ok (countOutcome_eq .error w)]
        rfl
      · simp only [ho, if_false, Bool.false_eq_true]
        rfl

variable [Platform π τ]

theorem setTimeout_eq (s : SocketId) (limit : TimeLimit τ) (w : World π τ) :
    setTimeout s limit w =
      match (w.reply (.setTimeout s limit) : Except Failure Unit) with
      | .ok _ => .ok () (w.asked (.setTimeout s limit))
      | .error f => .error f (w.asked (.setTimeout s limit)) := by
  unfold setTimeout
  rw [Action.bind_of_ok (w.ask_asked _)]
  cases (w.reply (.setTimeout s limit) : Except Failure Unit) <;> rfl

/-! ## One address -/

/-- The part of preparing a socket that follows its time limit: binds it to the source address, if
there is one, and connects it. -/
def reach (r : Request) (e : Endpoint) (s : SocketId) : Action π τ Unit := do
  match r.sourceAddress? with
  | some source => Action.ofExcept (← ask (.bind s source))
  | none => pure ()
  Action.ofExcept (← ask (.connect s e.address))

/-- The socket is bound to the source address, if there is one. -/
inductive Bound (r : Request) (s : SocketId) (w : World π τ) : World π τ → Prop
  | anywhere : r.sourceAddress? = none → Bound r s w w
  | source {a : Value} : r.sourceAddress? = some a → w.reply (.bind s a) = Except.ok () →
      Bound r s w (w.asked (.bind s a))

inductive Reached (r : Request) (e : Endpoint) (s : SocketId) (w : World π τ) :
    End π τ Unit → Prop
  | unbound {a : Value} {f : Failure} : r.sourceAddress? = some a →
      w.reply (.bind s a) = Except.error f → Reached r e s w (.error f (w.asked (.bind s a)))
  | refused {u : World π τ} {f : Failure} : Bound r s w u →
      u.reply (.connect s e.address) = Except.error f →
      Reached r e s w (.error f (u.asked (.connect s e.address)))
  | connected {u : World π τ} : Bound r s w u →
      u.reply (.connect s e.address) = Except.ok () →
      Reached r e s w (.ok () (u.asked (.connect s e.address)))

/-- The last step of reaching an address. -/
theorem Bound.reached {r : Request} {s : SocketId} {w u : World π τ} (h : Bound r s w u)
    (e : Endpoint) : Reached r e s w
      ((do Action.ofExcept (← ask (.connect s e.address)) : Action π τ Unit) u) := by
  rw [Action.bind_of_ok (u.ask_asked _)]
  cases hc : (u.reply (.connect s e.address) : Except Failure Unit) with
  | ok _ => exact .connected h hc
  | error f => exact .refused h hc

theorem reach_reached (r : Request) (e : Endpoint) (s : SocketId) (w : World π τ) :
    Reached r e s w (reach r e s w) := by
  unfold reach
  cases hs : r.sourceAddress? with
  | none => exact (Bound.anywhere hs).reached e
  | some a =>
    simp only []
    rw [Action.bind_of_ok (World.ask_asked _ _)]
    cases hb : (w.reply (.bind s a) : Except Failure Unit) with
    | error f => exact .unbound hs hb
    | ok _ => exact (Bound.source hs hb).reached e

inductive Prepared (r : Request) (e : Endpoint) (remaining : τ) (s : SocketId) (w : World π τ) :
    End π τ Unit → Prop
  | unlimited {f : Failure} :
      w.reply (.setTimeout s (.remaining remaining)) = Except.error f →
      Prepared r e remaining s w (.error f (w.asked (.setTimeout s (.remaining remaining))))
  | limited {p : End π τ Unit} :
      w.reply (.setTimeout s (.remaining remaining)) = Except.ok () →
      Reached r e s (w.asked (.setTimeout s (.remaining remaining))) p →
      Prepared r e remaining s w p

theorem prepare_prepared (r : Request) (e : Endpoint) (remaining : τ) (s : SocketId)
    (w : World π τ) : Prepared r e remaining s w (prepare r e s remaining w) := by
  have hlimit := setTimeout_eq s (.remaining remaining) w
  have hdef : (prepare r e s remaining : Action π τ Unit) =
      setTimeout s (.remaining remaining) >>= fun _ => reach r e s := rfl
  rw [hdef]
  cases hl : (w.reply (.setTimeout s (.remaining remaining)) : Except Failure Unit) with
  | error f =>
    rw [hl] at hlimit
    rw [Action.bind_of_error hlimit]
    exact .unlimited hl
  | ok _ =>
    rw [hl] at hlimit
    rw [Action.bind_of_ok hlimit]
    exact .limited hl (reach_reached r e s _)

/-- Tries one address, with the given way to prepare its socket. -/
def attempt (e : Endpoint) (prepare : SocketId → Action π τ Unit) :
    Action π τ (Except Failure SocketId) := do
  let socket ← freshSocket
  match ← ask (.openSocket socket e.family e.protocol) with
  | .error f => if f.kind.isOs then return .error f else throw f
  | .ok () =>
    takeSocket socket
    let attempt : Action π τ (Except Failure SocketId) := do
      prepare socket
      return .ok socket
    tryCatch attempt fun f => do
      if f.kind.isOs then
        closeSocket socket
        return .error f
      else throw f

theorem tryEndpoint_eq (r : Request) (e : Endpoint) (remaining : τ) :
    (tryEndpoint r e remaining : Action π τ (Except Failure SocketId)) =
      attempt e fun s => prepare r e s remaining := rfl

/-- The world in which a new socket was opened and goes by the next number. -/
def opened (e : Endpoint) (w : World π τ) : World π τ :=
  { w.asked (.openSocket w.nextSocket e.family e.protocol) with nextSocket := w.nextSocket + 1 }

/-- How trying one address can end, if `Prepares` are the ends of preparing its socket. -/
inductive Tried (Prepares : SocketId → World π τ → End π τ Unit → Prop) (e : Endpoint)
    (w : World π τ) : End π τ (Except Failure SocketId) → Prop
  /-- No socket could be opened. -/
  | unopened {f : Failure} :
      w.reply (.openSocket w.nextSocket e.family e.protocol) = Except.error f →
      f.kind.isOs = true →
      Tried Prepares e w
        (.ok (.error f) (w.asked (.openSocket w.nextSocket e.family e.protocol)))
  | stopped {f : Failure} :
      w.reply (.openSocket w.nextSocket e.family e.protocol) = Except.error f →
      f.kind.isOs = false →
      Tried Prepares e w (.error f (w.asked (.openSocket w.nextSocket e.family e.protocol)))
  /-- The socket is closed again. -/
  | failed {f : Failure} {u : World π τ} :
      w.reply (.openSocket w.nextSocket e.family e.protocol) = Except.ok () →
      Prepares w.nextSocket (opened e w) (.error f u) → f.kind.isOs = true →
      Tried Prepares e w (.ok (.error f) (u.asked (.closeSocket w.nextSocket)))
  /-- The socket stays as it is. -/
  | abandoned {f : Failure} {u : World π τ} :
      w.reply (.openSocket w.nextSocket e.family e.protocol) = Except.ok () →
      Prepares w.nextSocket (opened e w) (.error f u) → f.kind.isOs = false →
      Tried Prepares e w (.error f u)
  | connected {u : World π τ} :
      w.reply (.openSocket w.nextSocket e.family e.protocol) = Except.ok () →
      Prepares w.nextSocket (opened e w) (.ok () u) →
      Tried Prepares e w (.ok (.ok w.nextSocket) u)

theorem attempt_tried {Prepares : SocketId → World π τ → End π τ Unit → Prop}
    {prepare : SocketId → Action π τ Unit} (hprepare : ∀ s w, Prepares s w (prepare s w))
    (e : Endpoint) (w : World π τ) : Tried Prepares e w (attempt e prepare w) := by
  have hfresh : freshSocket w = .ok w.nextSocket w := rfl
  unfold attempt
  rw [Action.bind_of_ok hfresh, Action.bind_of_ok (w.ask_asked _)]
  cases ho : (w.reply (.openSocket w.nextSocket e.family e.protocol) : Except Failure Unit) with
  | error f =>
    cases hf : f.kind.isOs with
    | true =>
      simp only [hf, if_true]
      exact .unopened ho hf
    | false =>
      simp only [hf, Bool.false_eq_true, if_false]
      exact .stopped ho hf
  | ok _ =>
    have htake : takeSocket w.nextSocket
        (w.asked (.openSocket w.nextSocket e.family e.protocol)) = .ok () (opened e w) := rfl
    simp only []
    rw [Action.bind_of_ok htake, Action.tryCatch_eq, Action.bind_eq]
    have hprepared := hprepare w.nextSocket (opened e w)
    cases hp : prepare w.nextSocket (opened e w) with
    | ok _ u =>
      rw [hp] at hprepared
      exact .connected ho hprepared
    | error f u =>
      rw [hp] at hprepared
      cases hf : f.kind.isOs with
      | true =>
        simp only [hf, if_true]
        exact .failed ho hprepared hf
      | false =>
        simp only [hf, Bool.false_eq_true, if_false]
        exact .abandoned ho hprepared hf

/-! ## All addresses -/

variable [Duration τ]

/-- How trying addresses in order can end, with the last failure so far. -/
inductive Tries (r : Request) (deadline : τ) :
    Option Failure → List Endpoint → World π τ →
      End π τ (Except (Option Failure) SocketId) → Prop
  | exhausted {last : Option Failure} {w : World π τ} :
      Tries r deadline last [] w (.ok (.error last) w)
  | late {last : Option Failure} {e : Endpoint} {rest : List Endpoint} {w : World π τ} :
      Duration.le (Duration.sub deadline w.time) Duration.zero = true →
      Tries r deadline last (e :: rest) w (.ok (.error last) (w.asked .monotonicClock))
  | broken {last : Option Failure} {e : Endpoint} {rest : List Endpoint} {w u : World π τ}
      {f : Failure} :
      Duration.le (Duration.sub deadline w.time) Duration.zero = false →
      Tried (Prepared r e (Duration.sub deadline w.time)) e (w.asked .monotonicClock)
        (.error f u) →
      Tries r deadline last (e :: rest) w (.error f u)
  | next {last : Option Failure} {e : Endpoint} {rest : List Endpoint} {w u : World π τ}
      {f : Failure} {p : End π τ (Except (Option Failure) SocketId)} :
      Duration.le (Duration.sub deadline w.time) Duration.zero = false →
      Tried (Prepared r e (Duration.sub deadline w.time)) e (w.asked .monotonicClock)
        (.ok (.error f) u) →
      Tries r deadline (some f) rest u p → Tries r deadline last (e :: rest) w p
  /-- Connected, but the limit cannot be taken off the socket. -/
  | stuck {last : Option Failure} {e : Endpoint} {rest : List Endpoint} {w u : World π τ}
      {s : SocketId} {f : Failure} :
      Duration.le (Duration.sub deadline w.time) Duration.zero = false →
      Tried (Prepared r e (Duration.sub deadline w.time)) e (w.asked .monotonicClock)
        (.ok (.ok s) u) →
      u.reply (.setTimeout s (.given .null)) = Except.error f →
      Tries r deadline last (e :: rest) w (.error f (u.asked (.setTimeout s (.given .null))))
  | connected {last : Option Failure} {e : Endpoint} {rest : List Endpoint} {w u : World π τ}
      {s : SocketId} :
      Duration.le (Duration.sub deadline w.time) Duration.zero = false →
      Tried (Prepared r e (Duration.sub deadline w.time)) e (w.asked .monotonicClock)
        (.ok (.ok s) u) →
      u.reply (.setTimeout s (.given .null)) = Except.ok () →
      Tries r deadline last (e :: rest) w
        (.ok (.ok s) (u.asked (.setTimeout s (.given .null))))

theorem tryEach_tries (r : Request) (deadline : τ) (last : Option Failure) (es : List Endpoint)
    (w : World π τ) : Tries r deadline last es w (tryEach r deadline last es w) := by
  induction es generalizing last w with
  | nil => exact .exhausted
  | cons e rest ih =>
    unfold tryEach
    rw [Action.bind_of_ok w.ask_time]
    cases hlate : Duration.le (Duration.sub deadline w.time) Duration.zero with
    | true =>
      rw [if_pos rfl]
      exact .late hlate
    | false =>
      rw [if_neg Bool.false_ne_true]
      have htried := attempt_tried
        (prepare_prepared (π := π) r e (Duration.sub deadline w.time)) e (w.asked .monotonicClock)
      rw [Action.bind_eq, tryEndpoint_eq]
      cases ht : attempt e (fun s => prepare r e s (Duration.sub deadline w.time))
          (w.asked .monotonicClock) with
      | error f u =>
        rw [ht] at htried
        exact .broken hlate htried
      | ok x u =>
        rw [ht] at htried
        cases x with
        | error f => exact .next hlate htried (ih (some f) u)
        | ok s =>
          have hblock := setTimeout_eq s (.given .null) u
          simp only []
          cases hb : (u.reply (.setTimeout s (.given .null)) : Except Failure Unit) with
          | error f =>
            rw [hb] at hblock
            rw [Action.bind_of_error hblock]
            exact .stuck hlate htried hb
          | ok _ =>
            rw [hb] at hblock
            rw [Action.bind_of_ok hblock]
            exact .connected hlate htried hb

/-- The failure of an attempt that ran out of time, by what happened last. -/
def expired (last : Option Failure) : Failure :=
  match last with
  | none => Failure.of ConnectFault.expired
  | some f => (Failure.of ConnectFault.expired).because f

inductive GaveUp (deadline : τ) (w : World π τ) :
    Option Failure → Failure → World π τ → Prop
  | untried : GaveUp deadline w none (expired none) w
  | cutOff {f : Failure} : f.kind.isTimeout = true →
      GaveUp deadline w (some f) (expired (some f)) w
  | elapsed {f : Failure} : f.kind.isTimeout = false →
      Duration.le deadline w.time = true →
      GaveUp deadline w (some f) (expired (some f)) (w.asked .monotonicClock)
  | own {f : Failure} : f.kind.isTimeout = false →
      Duration.le deadline w.time = false →
      GaveUp deadline w (some f) f (w.asked .monotonicClock)

theorem giveUp_gaveUp (deadline : τ) (last : Option Failure) (w : World π τ) :
    ∃ f u, giveUp deadline last w = .error f u ∧ GaveUp deadline w last f u := by
  unfold giveUp
  cases last with
  | none => exact ⟨_, _, rfl, .untried⟩
  | some f =>
    cases hf : f.kind.isTimeout with
    | true =>
      simp only [hf, if_true]
      exact ⟨_, _, rfl, .cutOff hf⟩
    | false =>
      simp only [hf, Bool.false_eq_true, if_false]
      rw [Action.bind_of_ok w.ask_time]
      change ∃ g u, (ite _ _ _ : Action π τ _) _ = .error g u ∧ GaveUp deadline w (some f) g u
      cases hlate : Duration.le deadline w.time with
      | true =>
        rw [if_pos rfl]
        exact ⟨_, _, rfl, .elapsed hf hlate⟩
      | false =>
        rw [if_neg Bool.false_ne_true]
        exact ⟨_, _, rfl, .own hf hlate⟩

/-! ## Opening a socket -/

inductive Within (r : Request) (w : World π τ) : End π τ SocketId → Prop
  /-- The time limit is too large to count. -/
  | uncounted {f : Failure} : Duration.ofValue (τ := τ) r.connectTimeout = .error f →
      Within r w (.error f (w.asked .monotonicClock))
  | unresolved {limit : τ} {f : Failure} : Duration.ofValue r.connectTimeout = .ok limit →
      (w.asked .monotonicClock).reply (.resolve r.host r.port) = Except.error f →
      Within r w (.error f ((w.asked .monotonicClock).asked (.resolve r.host r.port)))
  | broken {limit : τ} {es : List Endpoint} {f : Failure} {u : World π τ} :
      Duration.ofValue r.connectTimeout = .ok limit →
      (w.asked .monotonicClock).reply (.resolve r.host r.port) = Except.ok es →
      Tries r (Duration.add w.time limit) none es
        ((w.asked .monotonicClock).asked (.resolve r.host r.port)) (.error f u) →
      Within r w (.error f u)
  | gaveUp {limit : τ} {es : List Endpoint} {last : Option Failure} {f : Failure}
      {u v : World π τ} : Duration.ofValue r.connectTimeout = .ok limit →
      (w.asked .monotonicClock).reply (.resolve r.host r.port) = Except.ok es →
      Tries r (Duration.add w.time limit) none es
        ((w.asked .monotonicClock).asked (.resolve r.host r.port)) (.ok (.error last) u) →
      GaveUp (Duration.add w.time limit) u last f v → Within r w (.error f v)
  | connected {limit : τ} {es : List Endpoint} {s : SocketId} {u : World π τ} :
      Duration.ofValue r.connectTimeout = .ok limit →
      (w.asked .monotonicClock).reply (.resolve r.host r.port) = Except.ok es →
      Tries r (Duration.add w.time limit) none es
        ((w.asked .monotonicClock).asked (.resolve r.host r.port)) (.ok (.ok s) u) →
      Within r w (.ok s u)

theorem connectWithinDeadline_within (r : Request) (w : World π τ) :
    Within r w (connectWithinDeadline r w) := by
  unfold connectWithinDeadline
  rw [Action.bind_of_ok (α := τ) w.ask_time]
  cases hl : Duration.ofValue (τ := τ) r.connectTimeout with
  | error f =>
    rw [Action.bind_of_error (Action.ofExcept_error f _)]
    exact .uncounted hl
  | ok limit =>
    rw [Action.bind_of_ok (Action.ofExcept_ok limit _)]
    rw [Action.bind_of_ok (World.ask_asked _ _)]
    cases hr : ((w.asked .monotonicClock).reply (.resolve r.host r.port) :
        Except Failure (List Endpoint)) with
    | error f =>
      rw [Action.bind_of_error (Action.ofExcept_error f _)]
      exact .unresolved hl hr
    | ok es =>
      rw [Action.bind_of_ok (Action.ofExcept_ok es _), Action.bind_eq]
      have htries := tryEach_tries r (Duration.add w.time limit) none es
        ((w.asked .monotonicClock).asked (.resolve r.host r.port))
      cases ht : tryEach r (Duration.add w.time limit) none es
          ((w.asked .monotonicClock).asked (.resolve r.host r.port)) with
      | error f u =>
        rw [ht] at htries
        exact .broken hl hr htries
      | ok x u =>
        rw [ht] at htries
        cases x with
        | ok s => exact .connected hl hr htries
        | error last =>
          obtain ⟨f, v, hg, hgave⟩ :=
            giveUp_gaveUp (Duration.add w.time limit) last u
          simp only []
          rw [hg]
          exact .gaveUp hl hr htries hgave

omit [Duration τ] in
theorem connectDirectly_eq (r : Request) (w : World π τ) :
    connectDirectly r w =
      match (w.reply (.openDirect w.nextSocket r.address r.sourceAddress?) :
          Except Failure Unit) with
      | .ok _ => .ok w.nextSocket
          { w.asked (.openDirect w.nextSocket r.address r.sourceAddress?) with
            nextSocket := w.nextSocket + 1 }
      | .error f => .error f (w.asked (.openDirect w.nextSocket r.address r.sourceAddress?)) := by
  have hfresh : freshSocket w = .ok w.nextSocket w := rfl
  unfold connectDirectly
  rw [Action.bind_of_ok hfresh, Action.bind_of_ok (w.ask_asked _)]
  cases (w.reply (.openDirect w.nextSocket r.address r.sourceAddress?) : Except Failure Unit) with
  | ok _ => rfl
  | error f => rfl

/-- Opens a socket; what it fails with is not explained yet. -/
def openRaw (r : Request) : Action π τ SocketId :=
  if r.hasDeadline then connectWithinDeadline r else connectDirectly r

theorem openSocket_eq (r : Request) (w : World π τ) :
    openSocket r w =
      match (openRaw r : Action π τ SocketId) w with
      | .ok s u => .ok s u
      | .error f u => .error (explained r f) (tallied f u) := by
  have hdef : (openSocket r : Action π τ SocketId) = tryCatch (openRaw r) (explainFailure r) := rfl
  rw [hdef, Action.tryCatch_eq]
  cases (openRaw r : Action π τ SocketId) w with
  | ok s u => rfl
  | error f u => exact explainFailure_eq r f u

/-! ## Connecting -/

/-- The part of connecting whose failure closes the socket. -/
def begin (c : Tls.Context) (r : Request) (handshake : Bool) (s : SocketId) :
    Action π τ SocketId := do
  setTimeout s (.given r.soTimeout)
  c.wrap s (peerName r.host) handshake

inductive Connects (c : Tls.Context) (r : Request) (handshake : Bool) (w : World π τ) :
    End π τ SocketId → Prop
  | unopened {f : Failure} {u : World π τ} : openSocket r w = .error f u →
      Connects c r handshake w (.error f u)
  /-- No session came of the socket, which is closed. -/
  | failed {s : SocketId} {f : Failure} {u v : World π τ} : openSocket r w = .ok s u →
      begin c r handshake s u = .error f v →
      Connects c r handshake w (.error f ((counted .error v).asked (.closeSocket s)))
  /-- The session does not tell its version; it stays as it is. -/
  | unread {s id : SocketId} {f : Failure} {u v x : World π τ} : openSocket r w = .ok s u →
      begin c r handshake s u = .ok id v →
      Tls.Session.version id (counted .connected v) = .error f x →
      Connects c r handshake w (.error f x)
  | connected {s id : SocketId} {version : Option String} {u v x : World π τ}
      {j : Logging.Journal} : openSocket r w = .ok s u → begin c r handshake s u = .ok id v →
      Tls.Session.version id (counted .connected v) = .ok version x →
      Connects c r handshake w (.ok id { x with journal := j })

theorem connect_connects (c : Tls.Context) (r : Request) (handshake : Bool) (w : World π τ) :
    Connects c r handshake w (connect c r handshake w) := by
  unfold connect
  cases ho : (openSocket r : Action π τ SocketId) w with
  | error f u =>
    rw [Action.bind_of_error ho]
    exact .unopened ho
  | ok s u =>
    rw [Action.bind_of_ok ho]
    change Connects c r handshake w ((Action.onFailure (begin c r handshake s) _ >>= _) u)
    have hsession := Action.onFailure_eq (begin c r handshake s : Action π τ SocketId)
      (do
        countOutcome .error
        closeSocket s) u
    cases hb : (begin c r handshake s : Action π τ SocketId) u with
    | error f v =>
      rw [hb] at hsession
      rw [Action.bind_of_error hsession]
      exact .failed ho hb
    | ok id v =>
      rw [hb] at hsession
      rw [Action.bind_of_ok hsession]
      rw [Action.bind_of_ok (countOutcome_eq .connected v)]
      cases hv : Tls.Session.version id (counted .connected v) with
      | error f x =>
        rw [Action.bind_of_error hv]
        exact .unread ho hb hv
      | ok version x =>
        obtain ⟨j, hj⟩ := debugLog_ok logger "Connected to %s:%d (%s)"
          [r.host, r.port, .text ((nonempty? version).getD "handshake pending")] x
        rw [Action.bind_of_ok hv, Action.bind_of_ok hj]
        exact .connected ho hb hv

/-! ## Rehearsals -/

/-- A world at the start of a rehearsal, with a script for the network. -/
def staged (net : Rehearsal.NetScript) : World Rehearsal.Stage Float :=
  .initial { Rehearsal.Stage.start 0.0 0.0 with net } .empty

/-- A context without validators. -/
def unverified : Tls.Context := ⟨0, .tls12, false, []⟩

def toHost (localAddress connectTimeout : Value) : Request :=
  ⟨.text "host", .int 443, localAddress, .int 0, connectTimeout, .null⟩

end TrustGate.Connection
