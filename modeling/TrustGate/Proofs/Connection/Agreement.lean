import TrustGate.Proofs.Connection.Cause
import TrustGate.Proofs.Connection.Deadline
import TrustGate.Proofs.Connection.InStep
import TrustGate.Proofs.Connection.Limits

/-!
# With a deadline or without

A request with a deadline comes to the same as one without, as long as there is time.  What
opening directly does is written out in the calls that opening within a deadline makes:

    connectPlainly c r handshake       connecting, with the opening written out
    Correspond F I p q                 `p` and `q` end alike but for failures, which `F` relates
    connectWithinDeadline, createConnection
                                       correspond, a timeout standing for a timeout
                                                             (connectWithinDeadline_inStep)
    connect, connectPlainly            correspond: the same address is connected, in the same
                                       way, or the failures differ in the time limit that
                                       the text of a timeout ends with   (connect_inStep)

Opening directly fails as what is written out fails, and is counted as it is
(follows_createConnection).  Each way, the socket of a session has the time limit of the request,
whatever limits it had on the way (connect_limited, connectPlainly_limited).
-/

namespace TrustGate.Connection

open TrustGate.Action (Coupled EndsAlike)

variable {π τ : Type} {F : Failure → Failure → Prop} {I : World π τ → World π τ → Prop}

/-- Both end with one socket, or both fail, with failures that `F` relates. -/
inductive Correspond (F : Failure → Failure → Prop) (I : World π τ → World π τ → Prop) :
    End π τ SocketId → End π τ SocketId → Prop
  | ok {s : SocketId} {w v : World π τ} : I w v → Correspond F I (.ok s w) (.ok s v)
  | error {f g : Failure} {w v : World π τ} : F f g → I w v →
      Correspond F I (.error f w) (.error g v)

theorem Correspond.of_endsAlike {p q : End π τ SocketId} (h : EndsAlike I Eq p q)
    (hF : ∀ f, F f f) : Correspond F I p q := by
  cases h with
  | ok hst hw =>
    subst hst
    exact .ok hw
  | error hw => exact .error (hF _) hw

/-! ## Failures -/

/-- What opening within a deadline fails with if opening directly fails with `g`: the same, or its
own timeout on account of another. -/
def StandsFor (f g : Failure) : Prop := f = g ∨ g.kind.isTimeout = true ∧ f = expired (some g)

/-- The text that a time limit adds to a timeout. -/
def Request.limitSuffix (r : Request) : String :=
  (r.limitText.map fun l => " after " ++ l ++ "s").getD ""

/-- Failures of one kind and one text, but for the time limit at the end of a timeout. -/
structure SameButLimit (r : Request) (f g : Failure) : Prop where
  kind : f.kind = g.kind
  message : f.message = g.message ∨
    f.kind = .connectTimeout ∧ f.message = g.message ++ r.limitSuffix

theorem SameButLimit.refl (r : Request) (f : Failure) : SameButLimit r f f := ⟨rfl, .inl rfl⟩

/-- The request with another time limit. -/
def Request.withLimit (r : Request) (limit : Value) : Request := { r with connectTimeout := limit }

variable {r : Request} {f g : Failure} {limit : Value}

theorem limitSuffix_withLimit (hlimit : limit.isGiven = false) :
    (r.withLimit limit).limitSuffix = "" := by
  unfold Request.limitSuffix Request.limitText Request.hasDeadline
  show (Option.map _ (if limit.isGiven then _ else none)).getD "" = ""
  rw [hlimit]
  rfl

theorem message_timedOut (r : Request) (f : Failure) :
    ((Failure.of (ConnectFault.timedOut r.host.shown r.port.shown r.limitText)).because f).message =
      "Connect to " ++ r.host.shown ++ ":" ++ r.port.shown ++ " timed out" ++ r.limitSuffix := rfl

theorem explained_of_isTimeout (r : Request) (hf : f.kind.isTimeout = true) :
    explained r f =
      (Failure.of (ConnectFault.timedOut r.host.shown r.port.shown r.limitText)).because f := by
  have hne : f.kind ≠ .addressInfo := by
    intro heq
    rw [heq] at hf
    exact absurd hf (by decide)
  rw [explained, if_neg hne, if_pos hf]

/-- Timeouts are explained alike but for the limit. -/
theorem explained_timeouts (hf : f.kind.isTimeout = true) (hg : g.kind.isTimeout = true)
    (hlimit : limit.isGiven = false) :
    SameButLimit r (explained r f) (explained (r.withLimit limit) g) := by
  rw [explained_of_isTimeout r hf, explained_of_isTimeout (r.withLimit limit) hg]
  refine ⟨rfl, .inr ⟨rfl, ?_⟩⟩
  rw [message_timedOut, message_timedOut, limitSuffix_withLimit hlimit, String.append_empty]
  rfl

/-- What stands for a failure is explained like it and counted like it. -/
theorem StandsFor.explained (h : StandsFor f g) (hlimit : limit.isGiven = false) :
    SameButLimit r (explained r f) (explained (r.withLimit limit) g) ∧ outcome? f = outcome? g := by
  rcases h with rfl | ⟨hg, rfl⟩
  · refine ⟨?_, rfl⟩
    by_cases ha : f.kind = .addressInfo
    · rw [Connection.explained, Connection.explained, if_pos ha, if_pos ha]
      exact .refl r _
    · cases ht : f.kind.isTimeout with
      | true => exact explained_timeouts ht ht hlimit
      | false =>
        rw [explained_own r ha ht, explained_own _ ha ht]
        exact .refl r f
  · have hexpired : (expired (some g)).kind.isTimeout = true := by rw [kind_expired]; rfl
    refine ⟨explained_timeouts hexpired hg hlimit, ?_⟩
    rw [(explained_timeout r hexpired).2, (explained_timeout r hg).2]

/-! ## Opening -/

variable [Platform π τ] {same : π → π → Prop} {w v : World π τ}

omit [Platform π τ] in
theorem tallied_inStep (hw : InStep same w v) (hout : outcome? f = outcome? g) :
    InStep same (tallied f w) (tallied g v) := by
  unfold tallied
  rw [hout]
  cases outcome? g with
  | none => exact hw
  | some o =>
    exact ⟨hw.platform, hw.history, hw.told, congrArg (·.addConnection o.label) hw.counters,
      hw.nextSocket, hw.sessions⟩

/-- A host that has addresses is tried at one of them at least. -/
theorem tryEachPlainly_tried {es : List Endpoint} {u : World π τ} (hes : es ≠ []) :
    tryEachPlainly r none es w ≠ .ok (.error none) u := by
  intro heq
  have htries := tryEachPlainly_tries r none es w
  rw [heq] at htries
  obtain ⟨_, _, _, hnone⟩ := htries.comes ((Tells.refl w).trying rfl)
  rcases (hnone rfl).2 with hempty | hlate
  · exact hes hempty
  · exact hlate

variable [Duration τ]

/-- With time left, giving up is failing as the last attempt did, or timing out if it did. -/
theorem giveUp_inStep (h : Indifferent π τ same) (hw : InStep same w v) {deadline : τ}
    (htime : InTime deadline w ((giveUp deadline (some g)).after w)) :
    ∃ f u, giveUp deadline (some g) w = .error f u ∧ StandsFor f g ∧ InStep same u v := by
  obtain ⟨f, u, heq, hgave⟩ := giveUp_gaveUp deadline (some g) w
  rw [Action.after_of_error heq] at htime
  refine ⟨f, u, heq, ?_⟩
  cases hgave with
  | cutOff hg => exact ⟨.inr ⟨hg, rfl⟩, hw⟩
  | elapsed _ hlate =>
    -- the clock would have been found past the deadline
    have hintime := (htime.now List.suffix_rfl).2
    rw [hlate] at hintime
    cases hintime
  | own _ _ => exact ⟨.inl rfl, hw.looked h⟩

/-- Connecting within a deadline, once the host is resolved. -/
def reachWithin (r : Request) (deadline : τ) (es : List Endpoint) : Action π τ SocketId := do
  match ← tryEach r deadline none es with
  | .ok socket => return socket
  | .error last => giveUp deadline last

omit [Duration τ] in
/-- Connecting directly, once the host is resolved. -/
def reachAny (r : Request) (es : List Endpoint) : Action π τ SocketId := do
  match ← tryEachPlainly r none es with
  | .ok socket => return socket
  | .error last => throw (last.getD noAddresses)

theorem reachWithin_eq (r : Request) (deadline : τ) (es : List Endpoint) (w : World π τ) :
    reachWithin r deadline es w =
      match tryEach r deadline none es w with
      | .error f u => .error f u
      | .ok (.ok s) u => .ok s u
      | .ok (.error last) u => giveUp deadline last u := by
  unfold reachWithin
  rw [Action.bind_eq]
  cases tryEach r deadline none es w with
  | error f u => rfl
  | ok x u => cases x <;> rfl

omit [Duration τ] in
theorem reachAny_eq (r : Request) (es : List Endpoint) (w : World π τ) :
    reachAny r es w =
      match tryEachPlainly r none es w with
      | .error f u => .error f u
      | .ok (.ok s) u => .ok s u
      | .ok (.error last) u => .error (last.getD noAddresses) u := by
  unfold reachAny
  rw [Action.bind_eq]
  cases tryEachPlainly r none es w with
  | error f u => rfl
  | ok x u => cases x <;> rfl

/-- Trying addresses is the first part of reaching one. -/
theorem history_tryEach_reachWithin (r : Request) (deadline : τ) (es : List Endpoint)
    (w : World π τ) :
    ((tryEach r deadline none es).after w).history <:+
      ((reachWithin r deadline es).after w).history := by
  unfold Action.after
  rw [reachWithin_eq]
  cases tryEach r deadline none es w with
  | error f u => exact List.suffix_rfl
  | ok x u =>
    cases x with
    | ok s => exact List.suffix_rfl
    | error last =>
      obtain ⟨f, u', heq, hgave⟩ := giveUp_gaveUp deadline last u
      simp only [heq]
      exact hgave.onward onward_history

theorem reachWithin_inStep (h : Indifferent π τ same) (r : Request) (deadline : τ)
    {es : List Endpoint} (hes : es ≠ []) (hw : InStep same w v)
    (htime : InTime deadline w ((reachWithin r deadline es).after w)) :
    Correspond StandsFor (InStep same) (reachWithin r deadline es w) (reachAny r es v) := by
  have hsofar := (tryEach_tries r deadline none es w).onward onward_history
  have hrest := history_tryEach_reachWithin r deadline es w
  have htried := tryEach_inStep h r deadline none es hw (htime.mono List.suffix_rfl hsofar hrest)
  unfold Action.after at htime hrest
  rw [reachWithin_eq] at htime hrest ⊢
  rw [reachAny_eq]
  cases ht : tryEach r deadline none es w with
  | error f u =>
    rw [ht] at htried
    generalize tryEachPlainly r none es v = q at htried ⊢
    cases htried with
    | error hu => exact .error (.inl rfl) hu
  | ok x u =>
    rw [ht] at htried hsofar
    simp only [ht] at htime hrest
    cases hplain : tryEachPlainly r none es v with
    | error g u' =>
      rw [hplain] at htried
      cases htried
    | ok y u' =>
      rw [hplain] at htried
      cases htried with
      | ok hxy hu =>
        subst hxy
        cases x with
        | ok s => exact .ok hu
        | error last =>
          cases last with
          | none => exact absurd hplain (tryEachPlainly_tried hes)
          | some g =>
            -- only the look at the clock on giving up tells the two sides apart
            have hlate := htime.mono hsofar hrest List.suffix_rfl
            obtain ⟨f, u'', heq, hstands, hu''⟩ := giveUp_inStep h hu hlate
            simp only [heq]
            exact .error hstands hu''

/-- With time enough, connecting within a deadline comes to the same as connecting directly. -/
theorem connectWithinDeadline_inStep (h : Indifferent π τ same) (r : Request) {limit : τ}
    (hlimit : Duration.ofValue r.connectTimeout = .ok limit) (hw : InStep same w v)
    (haddresses : v.reply (.resolve r.host r.port) ≠ Except.ok [])
    (htime : InTime (Duration.add w.time limit) w ((connectWithinDeadline r).after w)) :
    Correspond StandsFor (InStep same) (connectWithinDeadline r w) (createConnection r v) := by
  obtain ⟨hreply, hresolved⟩ := (hw.looked h).asked h (.resolve r.host r.port) nofun
  unfold Action.after at htime
  unfold connectWithinDeadline at htime ⊢
  unfold createConnection
  rw [Action.bind_of_ok (α := τ) w.ask_time, hlimit, Action.bind_of_ok (Action.ofExcept_ok limit _),
    Action.bind_of_ok (World.ask_asked _ _)] at htime ⊢
  rw [Action.bind_of_ok (World.ask_asked _ _)]
  rw [hreply] at htime ⊢
  cases hr : (v.reply (.resolve r.host r.port) : Except Failure (List Endpoint)) with
  | error f =>
    rw [Action.bind_of_error (Action.ofExcept_error f _),
      Action.bind_of_error (Action.ofExcept_error f _)]
    exact .error (.inl rfl) hresolved
  | ok es =>
    have hes : es ≠ [] := by
      intro hempty
      rw [hempty] at hr
      exact haddresses hr
    rw [hr] at htime
    rw [Action.bind_of_ok (Action.ofExcept_ok es _)] at htime ⊢
    rw [Action.bind_of_ok (Action.ofExcept_ok es _)]
    have hlooks : w.history <:+ (afterResolving r w).history :=
      (List.suffix_cons _ _).trans (List.suffix_cons _ _)
    have hsofar := (tryEach_tries r (Duration.add w.time limit) none es
      (afterResolving r w)).onward onward_history
    have hgrows := hsofar.trans (history_tryEach_reachWithin r _ es (afterResolving r w))
    exact reachWithin_inStep h r _ hes hresolved (htime.mono hlooks hgrows List.suffix_rfl)

/-! ## Connecting -/

section

omit [Duration τ]

/-- What is made of a connected socket. -/
def complete (c : Tls.Context) (r : Request) (handshake : Bool) (socket : SocketId) :
    Action π τ SocketId := do
  let session ← Action.onFailure (begin c r handshake socket)
    (do
      countOutcome .error
      closeSocket socket)
  countOutcome .connected
  let version ← Tls.Session.version session
  let shown := (nonempty? version).getD "handshake pending"
  debugLog logger "Connected to %s:%d (%s)" [r.host, r.port, .text shown]
  return session

/-- Connecting without a deadline, if the platform opens sockets directly in calls for single
addresses. -/
def connectPlainly (c : Tls.Context) (r : Request) (handshake : Bool) : Action π τ SocketId := do
  let socket ← tryCatch (createConnection r) (explainFailure r)
  complete c r handshake socket

variable (h : Indifferent π τ same)

include h

theorem countOutcome_inStep (o : Metrics.Outcome) :
    Coupled (InStep same) Eq (countOutcome o : Action π τ Unit) (countOutcome o) :=
  .modify fun _ _ hw => (steady_inStep h).count hw fun c => c.addConnection o.label

/-- The limit of the caller, the session and what is counted are the same. -/
theorem complete_inStep (c : Tls.Context) (r : Request) (handshake : Bool) (s : SocketId) :
    Coupled (InStep same) Eq (complete c r handshake s : Action π τ SocketId)
      (complete c r handshake s) := by
  have hsteady : Steady Eq (InStep same) := steady_inStep h
  have hbegin : Coupled (InStep same) Eq (begin c r handshake s : Action π τ SocketId)
      (begin c r handshake s) :=
    .bind_same (setTimeout_inStep h s (.given r.soTimeout)) fun _ =>
      Tls.Context.wrap_alike hsteady (c.alike_refl fun _ => rfl) s (peerName r.host) handshake
  have hclean : Coupled (InStep same) Eq
      (do
        countOutcome .error
        closeSocket s : Action π τ Unit)
      (do
        countOutcome .error
        closeSocket s) :=
    .bind_same (countOutcome_inStep h .error) fun _ => ask_inStep h (.closeSocket s) nofun
  unfold complete
  refine .bind_same (.onFailure hbegin hclean) fun session => ?_
  refine .bind_same (countOutcome_inStep h .connected) fun _ => ?_
  refine .bind_same (Tls.Session.version_alike hsteady session) fun version => ?_
  refine .bind_same (emit_coupled (fun _ _ hw => hw.journal) _ _ _ _ _) fun _ => ?_
  exact .pure rfl

end

omit [Duration τ] in
/-- Without a deadline the time limit does not matter. -/
theorem tryEachPlainly_withLimit (r : Request) (limit : Value) (last : Option Failure)
    (es : List Endpoint) :
    (tryEachPlainly (r.withLimit limit) last es :
      Action π τ (Except (Option Failure) SocketId)) = tryEachPlainly r last es := by
  induction es generalizing last with
  | nil => rfl
  | cons e rest ih =>
    rw [tryEachPlainly, tryEachPlainly]
    simp only [ih]
    rfl

omit [Duration τ] in
theorem createConnection_withLimit (r : Request) (limit : Value) :
    (createConnection (r.withLimit limit) : Action π τ SocketId) = createConnection r := by
  unfold createConnection
  simp only [tryEachPlainly_withLimit]
  rfl

/-- With time enough, connecting with a deadline comes to the same as connecting without one. -/
theorem connect_inStep (h : Indifferent π τ same) (c : Tls.Context) (r : Request)
    (handshake : Bool) {limit : τ} {never : Value} (hdeadline : r.hasDeadline = true)
    (hlimit : Duration.ofValue r.connectTimeout = .ok limit) (hnever : never.isGiven = false)
    (haddresses : w.reply (.resolve r.host r.port) ≠ Except.ok [])
    (htime : InTime (Duration.add w.time limit) w ((connectWithinDeadline r).after w)) :
    Correspond (SameButLimit r) (InStep same) (connect c r handshake w)
      (connectPlainly c (r.withLimit never) handshake w) := by
  have hopening := connectWithinDeadline_inStep h r hlimit (.refl h w) haddresses htime
  have hconnect : (connect c r handshake : Action π τ SocketId) =
      openSocket r >>= complete c r handshake := rfl
  have hplainly : (connectPlainly c (r.withLimit never) handshake : Action π τ SocketId) =
      tryCatch (createConnection r) (explainFailure (r.withLimit never)) >>=
        complete c r handshake := by
    rw [← createConnection_withLimit r never]
    rfl
  rw [hconnect, hplainly, Action.bind_eq, Action.bind_eq, openSocket_eq, openRaw, if_pos hdeadline,
    Action.tryCatch_eq]
  generalize connectWithinDeadline r w = p at hopening ⊢
  generalize createConnection r w = q at hopening ⊢
  cases hopening with
  | @ok s u v hu =>
    exact .of_endsAlike (complete_inStep h c r handshake s u v hu) (SameButLimit.refl r)
  | error hstands hu =>
    obtain ⟨hexplained, hout⟩ := hstands.explained (r := r) hnever
    simp only [explainFailure_eq]
    exact .error hexplained (tallied_inStep hu hout)

/-! ## Opening directly -/

theorem counters_createConnection (hdirect : r.hasDeadline = false) (w : World π τ) :
    ((createConnection r).after w).counters = w.counters := by
  have hcreated := createConnection_created r w
  unfold Action.after
  cases hc : createConnection r w with
  | ok s u =>
    rw [hc] at hcreated
    obtain ⟨_, htells, -⟩ := hcreated.tells
    exact htells.counters
  | error f u =>
    rw [hc] at hcreated
    obtain ⟨_, htells, -⟩ := hcreated.raised hdirect
    exact htells.counters

/-- What connecting comes to if the platform opens sockets directly, by the end of what opening
directly does: the same is made of the socket, or the failure is the same and counted as it is. -/
def Follows (c : Tls.Context) (r : Request) (handshake : Bool) (w : World π τ) :
    End π τ SocketId → Prop
  | .ok s u => connectPlainly c r handshake w = complete c r handshake s u ∧
      ∃ v, connect c r handshake w = complete c r handshake w.nextSocket v ∧
        v.counters = u.counters
  | .error _ _ => ∃ g u v, connectPlainly c r handshake w = .error g u ∧
      connect c r handshake w = .error g v ∧ v.counters = u.counters

theorem follows_createConnection (c : Tls.Context) (handshake : Bool)
    (hdirect : r.hasDeadline = false) (hplain : OpensPlainly r w) :
    Follows c r handshake w (createConnection r w) := by
  have hcounters := counters_createConnection hdirect w
  have hconnect : (connect c r handshake : Action π τ SocketId) =
      openSocket r >>= complete c r handshake := rfl
  unfold Action.after at hcounters
  unfold OpensPlainly at hplain
  unfold Follows connectPlainly
  rw [hconnect, Action.bind_eq, Action.bind_eq, openSocket_eq, openRaw, hdirect,
    if_neg Bool.false_ne_true, connectDirectly_eq, hplain, Action.tryCatch_eq]
  cases hc : createConnection r w with
  | ok s u =>
    rw [hc] at hcounters
    exact ⟨rfl, _, rfl, hcounters.symm⟩
  | error f u =>
    rw [hc] at hcounters
    simp only [explainFailure_eq]
    have hu : u.counters = w.counters := hcounters
    refine ⟨_, _, _, rfl, rfl, ?_⟩
    rw [counters_tallied, counters_tallied, hu]
    rfl

/-! ## The limit in the end -/

section

omit [Duration τ]

/-- What is made of a socket has the limit of the request. -/
theorem complete_limited (c : Tls.Context) (r : Request) (handshake : Bool) (s : SocketId)
    (w : World π τ) : EndsLimited r.soTimeout (complete c r handshake s w) := by
  cases hend : complete c r handshake s w with
  | error f u => trivial
  | ok id u =>
    obtain ⟨session, v, hsession, hrest⟩ := Action.exists_of_bind_ok hend
    obtain ⟨rfl, hlimited⟩ := begin_limited (Action.of_onFailure_ok hsession)
    rw [Action.bind_of_ok (countOutcome_eq .connected v)] at hrest
    -- what is left asks for the version and writes to the journal
    have hmakes : Makes SparesLimits (counted .connected v) u := by
      rw [← Action.after_of_ok hrest]
      refine Action.makes_bind (version_spares session) (fun version => ?_) _
      exact Action.makes_bind (fun y => (emit_quietly y).makes) fun _ y => .refl y
    obtain ⟨version, y, -, hrest⟩ := Action.exists_of_bind_ok hrest
    obtain ⟨_, z, -, hend⟩ := Action.exists_of_bind_ok hrest
    cases hend
    exact Limited.of_makes ⟨hlimited.last, hlimited.wrapped⟩ hmakes

/-- However its socket was opened, a session has the limit of the request. -/
theorem opened_limited (opening : Action π τ SocketId) (c : Tls.Context) (r : Request)
    (handshake : Bool) (w : World π τ) :
    EndsLimited r.soTimeout ((opening >>= complete c r handshake) w) := by
  rw [Action.bind_eq]
  cases opening w with
  | ok s u => exact complete_limited c r handshake s u
  | error f u => trivial

theorem connectPlainly_limited (c : Tls.Context) (r : Request) (handshake : Bool)
    (w : World π τ) : EndsLimited r.soTimeout (connectPlainly c r handshake w) :=
  opened_limited (tryCatch (createConnection r) (explainFailure r)) c r handshake w

end

theorem connect_limited (c : Tls.Context) (r : Request) (handshake : Bool) (w : World π τ) :
    EndsLimited r.soTimeout (connect c r handshake w) :=
  opened_limited (openSocket r) c r handshake w

/-- With a deadline that does not pass, connecting ends as without one: the same addresses are tried
in the same order, from the same source and with the same sockets closed, and it ends with the same
session, or with the same failure but for the time limit in its text, which is counted as the same
outcome.  Without a deadline the platform opens the socket by one call; if that does what it is
documented to do, the same is made of the socket, and the failures are the same.  Whichever way a
session comes about, the limit that its socket had when it was wrapped, and has in the end, is the
one of the request. -/
theorem deadline_agrees (h : Indifferent π τ same) (c : Tls.Context) (r : Request)
    (handshake : Bool) (limit : τ) (never : Value) (w : World π τ)
    (hdeadline : r.hasDeadline = true) (hlimit : Duration.ofValue r.connectTimeout = .ok limit)
    (hnever : never.isGiven = false)
    (haddresses : w.reply (.resolve r.host r.port) ≠ Except.ok [])
    (htime : InTime (Duration.add w.time limit) w ((connectWithinDeadline r).after w))
    (hplain : OpensPlainly (r.withLimit never) w) :
    Correspond (SameButLimit r) (InStep same) (connect c r handshake w)
        (connectPlainly c (r.withLimit never) handshake w) ∧
      Follows c (r.withLimit never) handshake w (createConnection (r.withLimit never) w) ∧
      EndsLimited r.soTimeout (connect c r handshake w) ∧
      EndsLimited r.soTimeout (connectPlainly c (r.withLimit never) handshake w) ∧
      EndsLimited r.soTimeout (connect c (r.withLimit never) handshake w) :=
  ⟨connect_inStep h c r handshake hdeadline hlimit hnever haddresses htime,
    follows_createConnection c handshake hnever hplain, connect_limited c r handshake w,
    connectPlainly_limited c (r.withLimit never) handshake w,
    connect_limited c (r.withLimit never) handshake w⟩

theorem indifferent_timetable : Indifferent Rehearsal.Timetable Int Eq where
  refl _ := rfl
  answers call p q hpq _ := by
    subst hpq
    exact ⟨rfl, rfl⟩
  looks hpq := hpq
  limits _ _ _ _ _ hpq := ⟨rfl, hpq⟩

/-- On both sides the second of two addresses is connected, with a deadline after five seconds
and without one. -/
theorem deadline_agrees_second_address :
    let r := toHost .null (.int 5)
    let w := secondAddress
    Indifferent Rehearsal.Timetable Int Eq ∧ r.hasDeadline = true ∧
      Duration.ofValue r.connectTimeout = Except.ok (5 : Int) ∧ (Value.int 0).isGiven = false ∧
      w.reply (.resolve r.host r.port) ≠ Except.ok [] ∧
      InTime (Duration.add w.time 5) w ((connectWithinDeadline r).after w) ∧
      OpensPlainly (r.withLimit (.int 0)) w ∧
      (Correspond (SameButLimit r) (InStep Eq) (connect unverified r true w)
          (connectPlainly unverified (r.withLimit (.int 0)) true w) ∧
        Follows unverified (r.withLimit (.int 0)) true w
          (createConnection (r.withLimit (.int 0)) w) ∧
        EndsLimited r.soTimeout (connect unverified r true w) ∧
        EndsLimited r.soTimeout (connectPlainly unverified (r.withLimit (.int 0)) true w) ∧
        EndsLimited r.soTimeout (connect unverified (r.withLimit (.int 0)) true w)) := by
  intro r w
  have haddresses : w.reply (.resolve r.host r.port) ≠ Except.ok [] := by
    intro heq
    cases heq
  have htime : InTime (Duration.add w.time 5) w ((connectWithinDeadline r).after w) := by
    have hreadings : readings w ((connectWithinDeadline r).after w) = [102, 100, 100] := by
      decide +kernel
    intro t ht
    rw [hreadings] at ht
    have hdecided : ∀ t ∈ [(102 : Int), 100, 100],
        Duration.le (Duration.sub (105 : Int) t) Duration.zero = false ∧
          Duration.le (105 : Int) t = false := by decide
    exact hdecided t ht
  have hplain : OpensPlainly (r.withLimit (.int 0)) w := rfl
  exact ⟨indifferent_timetable, rfl, rfl, rfl, haddresses, htime, hplain,
    deadline_agrees indifferent_timetable unverified r true 5 (.int 0) w rfl rfl rfl haddresses
      htime hplain⟩

end TrustGate.Connection
