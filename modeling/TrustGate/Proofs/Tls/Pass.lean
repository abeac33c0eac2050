import TrustGate.Proofs.Trust.Observers
import TrustGate.Proofs.Tls.Gate

/-!
# Who is asked in a pass

A context is built from a list of trust providers.  Those that check chains are put behind
delegates, and it is these that a pass asks, in the order of the list:

    Managed o p m                     `m` is the manager of the provider `p`
    Presents id w chain u             what the peer presents, leaf first
    Consults o chain authType host asked w r
                                      `asked` are asked in turn, up to the first that fails

A provider is asked if and only if it checks chains and all before it have accepted
(asked_in_order): none is left out, asked twice or asked out of turn.
-/

namespace TrustGate.Tls

open Trust (Provider Observer)

/-! ## Managers -/

namespace Context

/-- How a provider becomes a manager: one that checks chains is wrapped, once. -/
inductive Managed (o : Observer) : Provider → Provider → Prop
  | wrapped {p : Provider} : p.isChainValidator = true → Managed o p (.delegate p o)
  | unchanged {p : Provider} : p.isChainValidator = false → Managed o p p

theorem managed (observer : Option Observer) (p : Provider) :
    Managed (observer.getD .default) p (manager observer p) := by
  unfold manager
  by_cases hp : p.isChainValidator = true
  · rw [if_pos hp]
    exact .wrapped hp
  · rw [if_neg hp]
    exact .unchanged (Bool.eq_false_iff.mpr hp)

theorem filter_managers (observer : Option Observer) (trusts : List Provider) :
    (trusts.map (manager observer)).filter (·.isChainValidator) =
      (trusts.filter (·.isChainValidator)).map (.delegate · (observer.getD .default)) := by
  induction trusts with
  | nil => rfl
  | cons p ps ih =>
    rw [List.map_cons]
    by_cases hp : p.isChainValidator = true
    · have hmanager : manager observer p = .delegate p (observer.getD .default) := if_pos hp
      rw [hmanager, List.filter_cons_of_pos rfl, List.filter_cons_of_pos hp, List.map_cons, ih]
    · have hmanager : manager observer p = p := if_neg hp
      rw [hmanager, List.filter_cons_of_neg hp, List.filter_cons_of_neg hp, ih]

variable {π τ : Type} [Platform π τ]

/-- To start a session with a handshake is to start it and then do the handshake. -/
theorem wrap_handshake {c : Context} {socket id : SocketId} {host : Option String}
    {v w₀ : World π τ} (h : c.wrap socket host false v = .ok id w₀) :
    c.wrap socket host true v =
      match Session.doHandshake id w₀ with
      | .ok _ x => .ok id x
      | .error f x => .error f ((Session.close id).after x) := by
  rw [wrap_eq] at h ⊢
  cases hr : (v.reply (.wrap c.engine socket host) : Except Failure (Option String)) with
  | error f =>
    rw [hr] at h
    cases h
  | ok _ =>
    rw [hr] at h
    cases h
    rfl

/-- A context is as it was asked for: it is pinned to the version that the protocol stands for. -/
theorem of_build {identities trusts : List Provider} {protocol : Value}
    {checkHostname : Bool} {observer : Option Observer} {c : Context} {w w₁ : World π τ}
    (h : build identities trusts protocol checkHostname observer w = .ok c w₁) :
    resolveProtocol protocol = .ok c.protocol ∧ c.checkHostname = checkHostname ∧
      c.managers = trusts.map (manager observer) := by
  unfold build at h
  obtain ⟨_, _, -, h⟩ := Action.exists_of_bind_ok h
  obtain ⟨version, _, hversion, h⟩ := Action.exists_of_bind_ok h
  obtain ⟨managers, _, hmanagers, h⟩ := Action.exists_of_bind_ok h
  obtain ⟨engine, _, -, h⟩ := Action.exists_of_bind_ok h
  obtain ⟨_, _, -, h⟩ := Action.exists_of_bind_ok h
  cases h
  unfold createManagers at hmanagers
  obtain ⟨_, _, -, hmanagers⟩ := Action.exists_of_bind_ok hmanagers
  cases hmanagers
  cases hresolved : resolveProtocol protocol with
  | ok v =>
    rw [hresolved] at hversion
    cases hversion
    exact ⟨rfl, rfl, rfl⟩
  | error f =>
    rw [hresolved] at hversion
    cases hversion

theorem managers_of_build {identities trusts : List Provider} {protocol : Value}
    {checkHostname : Bool} {observer : Option Observer} {c : Context} {w w₁ : World π τ}
    (h : build identities trusts protocol checkHostname observer w = .ok c w₁) :
    c.managers = trusts.map (manager observer) := (of_build h).2.2

end Context

namespace Session

variable {π τ : Type} [Platform π τ]

/-! ## The chain -/

/-- What the peer presents: the chain as the engine verified it unless it is empty, or else the
leaf alone, or else nothing. -/
inductive Presents (id : SocketId) (w : World π τ) : List Certificate → World π τ → Prop
  | verified {ders : List Octets} {chain : List Certificate} :
      w.reply (.verifiedChain id) = Except.ok ders → ders ≠ [] →
      ders.Forall₂ (fun der c => Certificate.ofOctets der = .ok c) chain →
      Presents id w chain (w.asked (.verifiedChain id))
  | leaf {der : Octets} {c : Certificate} :
      w.reply (.verifiedChain id) = Except.ok [] →
      (w.asked (.verifiedChain id)).reply (.peer id) = Except.ok (some der) → der ≠ [] →
      Certificate.ofOctets der = .ok c →
      Presents id w [c] ((w.asked (.verifiedChain id)).asked (.peer id))
  | nothing {der : Option Octets} :
      w.reply (.verifiedChain id) = Except.ok [] →
      (w.asked (.verifiedChain id)).reply (.peer id) = Except.ok der → der.getD [] = [] →
      Presents id w [] ((w.asked (.verifiedChain id)).asked (.peer id))

/-- The chain of a leaf alone, if there is one. -/
def leafChain : Option Octets → Except Failure (List Certificate)
  | none | some [] => .ok []
  | some der => (Certificate.ofOctets der).map fun c => [c]

theorem leafChain_some {der : Octets} (h : der ≠ []) :
    leafChain (some der) = (Certificate.ofOctets der).map fun c => [c] := by
  cases der with
  | nil => exact absurd rfl h
  | cons b bs => rfl

/-- If the engine has verified no chain, the leaf is asked for, and is all there is. -/
theorem peerChain_of_none {id : SocketId} {w : World π τ} (ho : (known w id).isOpen = true)
    (hders : w.reply (.verifiedChain id) = Except.ok []) :
    peerChain id w =
      Action.ofExcept (((w.asked (.verifiedChain id)).reply (.peer id) :
        Except Failure (Option Octets)) >>= leafChain)
        ((w.asked (.verifiedChain id)).asked (.peer id)) := by
  have ho' : (known (w.asked (.verifiedChain id)) id).isOpen = true := ho
  unfold peerChain
  rw [Action.bind_of_ok (w.ask_asked _)]
  simp only [hders]
  rw [Action.bind_of_ok (Action.ofExcept_ok _ _)]
  simp only [List.isEmpty_nil, Bool.not_true, Bool.false_eq_true, if_false]
  rw [Action.bind_of_ok (find_eq id _), ho']
  simp only [Bool.not_true, Bool.false_eq_true, if_false]
  rw [Action.bind_of_ok (World.ask_asked _ _)]
  cases ((w.asked (.verifiedChain id)).reply (.peer id) : Except Failure (Option Octets)) with
  | error f => exact Action.bind_of_error (Action.ofExcept_error f _) _
  | ok der =>
    rw [Action.bind_of_ok (Action.ofExcept_ok _ _)]
    match der with
    | none => rfl
    | some [] => rfl
    | some (b :: bs) =>
      show (Action.ofExcept (Certificate.ofOctets (b :: bs)) >>= fun c => pure [c] :
        Action π τ (List Certificate)) _ =
          Action.ofExcept ((Certificate.ofOctets (b :: bs)).map fun c => [c]) _
      cases Certificate.ofOctets (b :: bs) <;> rfl

theorem peerChain_of_unverified {id : SocketId} {w : World π τ} {der : Option Octets}
    (ho : (known w id).isOpen = true) (hders : w.reply (.verifiedChain id) = Except.ok [])
    (hpeer : (w.asked (.verifiedChain id)).reply (.peer id) = Except.ok der) :
    peerChain id w =
      Action.ofExcept (leafChain der) ((w.asked (.verifiedChain id)).asked (.peer id)) := by
  rw [peerChain_of_none ho hders, hpeer]
  rfl

/-- A chain that the engine has verified is read as a whole. -/
theorem peerChain_of_verified {id : SocketId} {w : World π τ} {ders : List Octets}
    (hders : w.reply (.verifiedChain id) = Except.ok ders) (hne : ders ≠ []) :
    peerChain id w =
      Action.ofExcept (ders.mapM Certificate.ofOctets) (w.asked (.verifiedChain id)) := by
  unfold peerChain
  rw [Action.bind_of_ok (w.ask_asked _)]
  simp only [hders]
  rw [Action.bind_of_ok (Action.ofExcept_ok _ _)]
  simp only [List.isEmpty_eq_false_iff.mpr hne, Bool.not_false, if_true]

theorem peerChain_of_presents {id : SocketId} {w u : World π τ} {chain : List Certificate}
    (ho : (known w id).isOpen = true) (h : Presents id w chain u) :
    peerChain id w = .ok chain u := by
  cases h with
  | verified hders hne hload =>
    rw [peerChain_of_verified hders hne, mapM_eq_ok_iff.mpr hload]
    rfl
  | @leaf der c hders hpeer hne hload =>
    rw [peerChain_of_unverified ho hders hpeer, leafChain_some hne, hload]
    rfl
  | @nothing der hders hpeer hnone =>
    rw [peerChain_of_unverified ho hders hpeer]
    cases der with
    | none => rfl
    | some bs =>
      have hbs : bs = [] := hnone
      subst hbs
      rfl

/-- Reading the chain is nothing that anybody is told of. -/
theorem Presents.notes {id : SocketId} {w u : World π τ} {chain : List Certificate}
    (h : Presents id w chain u) : u.notes = w.notes := by
  cases h with
  | verified _ _ _ => exact (w.notes_asked _).trans (List.append_nil _)
  | leaf _ _ _ _ =>
    rw [World.notes_asked, World.notes_asked]
    simp [Happening.note?]
  | nothing _ _ _ =>
    rw [World.notes_asked, World.notes_asked]
    simp [Happening.note?]

/-! ## The validators -/

/-- Validators are asked about a chain in turn, each after the observer was told of it, and the
first that fails is the last that is asked. -/
inductive Consults (o : Observer) (chain : List Certificate) (authType : String)
    (host : Option String) :
    List Provider → World π τ → EStateM.Result Failure (World π τ) Unit → Prop
  | nobody {w : World π τ} : Consults o chain authType host [] w (.ok () w)
  | accepts {p : Provider} {ps : List Provider} {w u x : World π τ}
      {r : EStateM.Result Failure (World π τ) Unit} :
      o.notify ⟨chain, authType, host, p.typeName⟩ w = .ok () u →
      p.check chain authType host u = .ok () x → Consults o chain authType host ps x r →
      Consults o chain authType host (p :: ps) w r
  | raises {p : Provider} {w u x : World π τ} {f : Failure} :
      o.notify ⟨chain, authType, host, p.typeName⟩ w = .ok () u →
      p.check chain authType host u = .error f x →
      Consults o chain authType host [p] w (.error f x)

/-- All are asked unless one of them fails. -/
theorem askAll_consults {o : Observer} (ho : o.IsMild) (chain : List Certificate)
    (authType : String) (host : Option String) (ps : List Provider) (w : World π τ) :
    ∃ asked, asked <+: ps ∧
      Consults o chain authType host asked w
        (askAll chain authType host (ps.map (.delegate · o)) w) ∧
      ∀ x, askAll chain authType host (ps.map (.delegate · o)) w = .ok () x → asked = ps := by
  induction ps generalizing w with
  | nil => exact ⟨[], List.nil_prefix, .nobody, fun _ _ => rfl⟩
  | cons p ps ih =>
    obtain ⟨j, hnotify⟩ := Observer.notify_mild ho ⟨chain, authType, host, p.typeName⟩ w
    have hcheck : (Provider.delegate p o).check chain authType host w =
        p.check chain authType host _ := Action.bind_of_ok hnotify _
    rw [List.map_cons]
    unfold askAll
    rw [Action.bind_eq, hcheck]
    cases hp : p.check chain authType host
        { o.hear ⟨chain, authType, host, p.typeName⟩ w with journal := j } with
    | error f x =>
      refine ⟨[p], ?_, .raises hnotify hp, ?_⟩
      · rw [List.cons_prefix_cons]
        exact ⟨rfl, List.nil_prefix⟩
      · intro y hy
        cases hy
    | ok _ x =>
      obtain ⟨asked, hle, hasked, hall⟩ := ih x
      refine ⟨p :: asked, ?_, .accepts hnotify hp hasked, ?_⟩
      · rw [List.cons_prefix_cons]
        exact ⟨rfl, hle⟩
      · intro y hy
        rw [hall y hy]

/-- Whoever is asked leaves notes, and nobody else does. -/
theorem Consults.notes {o : Observer} (ho : o.IsMild) {chain : List Certificate}
    {authType : String} {host : Option String} {asked : List Provider}
    (hmild : ∀ p ∈ asked, p.IsMild) {w : World π τ}
    {r : EStateM.Result Failure (World π τ) Unit} (h : Consults o chain authType host asked w r) :
    (Action.final r).notes =
      w.notes ++ asked.flatMap fun p => (Provider.delegate p o).notes chain authType host := by
  have hnotes {p : Provider} (hp : p.IsMild) (w : World π τ) :=
    Provider.notes_check (p := .delegate p o) ⟨hp, ho⟩ chain authType host w
  induction h with
  | nobody => exact (List.append_nil _).symm
  | @accepts p ps w u x r hnotify hcheck _ ih =>
    have hdone : (Provider.delegate p o).check chain authType host w = .ok () x :=
      (Action.bind_of_ok hnotify _).trans hcheck
    have hp := hnotes (hmild p List.mem_cons_self) w
    rw [Action.after_of_ok hdone] at hp
    rw [ih fun q hq => hmild q (List.mem_cons_of_mem _ hq), hp, List.flatMap_cons,
      List.append_assoc]
  | @raises p w u x f hnotify hcheck =>
    have hdone : (Provider.delegate p o).check chain authType host w = .error f x :=
      (Action.bind_of_ok hnotify _).trans hcheck
    have hp := hnotes (hmild p List.mem_cons_self) w
    rw [Action.after_of_error hdone] at hp
    rw [List.flatMap_cons, List.flatMap_nil, List.append_nil]
    exact hp

/-! ## The pass -/

/-- A pass begins at `w`: the engine finishes its handshake, and by `u` the chain is read. -/
structure Begins (id : SocketId) (w : World π τ) (chain : List Certificate) (authType : String)
    (u : World π τ) : Prop where
  isOpen : (known w id).isOpen = true
  handshake : w.reply (.handshake id) = Except.ok ()
  presents : Presents id (w.asked (.handshake id)) chain u
  authType : chainAuthType chain = .ok authType

/-- What an operation fails with if a validator fails in its pass. -/
def passFailure (f : Failure) : Failure :=
  if f.kind = .certificateRejected then handshakeRejection f else f

theorem explainRejection_error (host : Option String) (f : Failure) (w : World π τ) :
    ∃ x, explainRejection host f w = .error (passFailure f) x ∧ x.history = w.history := by
  obtain ⟨j, hj⟩ := explainRejection_eq host f w
  unfold passFailure
  by_cases hf : f.kind = .certificateRejected
  · rw [if_pos hf] at hj ⊢
    exact ⟨_, hj, rfl⟩
  · rw [if_neg hf] at hj ⊢
    exact ⟨_, hj, rfl⟩

variable {id : SocketId} {chain : List Certificate} {authType : String} {w u x : World π τ}

theorem Begins.doHandshake_eq (h : Begins id w chain authType u) :
    doHandshake id w = verifyPeerChain id (w.asked (.handshake id)) := by
  rw [Session.doHandshake_eq, if_pos h.isOpen]
  simp only [h.handshake]

theorem Begins.notes (h : Begins id w chain authType u) : u.notes = w.notes :=
  h.presents.notes.trans ((w.notes_asked _).trans (List.append_nil _))

/-- On a session that is not verified, once the chain is read all validators are asked. -/
theorem verifyPeerChain_of_read (hv : (known w id).verified = false)
    (hchain : peerChain id w = .ok chain u) (hauth : chainAuthType chain = .ok authType) :
    verifyPeerChain id w =
      (do
        tryCatch (askAll chain authType (known w id).host (known w id).validators)
          (explainRejection (known w id).host)
        countDecision .accepted
        modify fun u => u.setSession id { known w id with verified := true } :
        Action π τ Unit) u := by
  unfold verifyPeerChain
  rw [Action.bind_of_ok (find_eq id _), hv]
  simp only [Bool.not_false, if_true]
  rw [Action.bind_of_ok hchain, hauth]
  rfl

theorem Begins.verifyPeerChain_eq (h : Begins id w chain authType u)
    (hv : (known w id).verified = false) :
    verifyPeerChain id (w.asked (.handshake id)) =
      (do
        tryCatch (askAll chain authType (known w id).host (known w id).validators)
          (explainRejection (known w id).host)
        countDecision .accepted
        modify fun u => u.setSession id { known w id with verified := true } :
        Action π τ Unit) u :=
  verifyPeerChain_of_read (w := w.asked (.handshake id)) hv
    (peerChain_of_presents h.isOpen h.presents) h.authType

theorem Begins.accepted (h : Begins id w chain authType u) (hv : (known w id).verified = false)
    (hasked : askAll chain authType (known w id).host (known w id).validators u = .ok () x) :
    ∃ y, doHandshake id w = .ok () y ∧ y.history = x.history := by
  rw [h.doHandshake_eq, h.verifyPeerChain_eq hv, Action.bind_of_ok (Action.tryCatch_of_ok hasked _)]
  exact ⟨_, rfl, rfl⟩

theorem Begins.failed (h : Begins id w chain authType u) (hv : (known w id).verified = false)
    {f : Failure}
    (hasked : askAll chain authType (known w id).host (known w id).validators u = .error f x) :
    ∃ y, doHandshake id w = .error (passFailure f) y ∧ y.history = x.history := by
  obtain ⟨y, hy, hhistory⟩ := explainRejection_error (known w id).host f x
  have hcaught := (Action.tryCatch_of_error hasked (explainRejection (known w id).host)).trans hy
  rw [h.doHandshake_eq, h.verifyPeerChain_eq hv, Action.bind_of_error hcaught]
  exact ⟨y, rfl, hhistory⟩

/-- How a pass over wrapped validators ends: as asking them does, nothing else leaves notes. -/
theorem Begins.consults (h : Begins id w chain authType u) {o : Observer} (ho : o.IsMild)
    {ps : List Provider} (hvs : (known w id).validators = ps.map (.delegate · o))
    (hv : (known w id).verified = true → ps = []) :
    ∃ asked r, asked <+: ps ∧ Consults o chain authType (known w id).host asked u r ∧
      (match r with
        | .ok _ _ => asked = ps ∧ ∃ x, doHandshake id w = .ok () x
        | .error f _ => ∃ x, doHandshake id w = .error (passFailure f) x) ∧
      ((doHandshake id).after w).notes = (Action.final r).notes := by
  have hnotes {x y : World π τ} (h : y.history = x.history) : y.notes = x.notes := by
    unfold World.notes
    rw [h]
  cases hverified : (known w id).verified with
  | true =>
    obtain rfl := hv hverified
    have hdone : doHandshake id w = .ok () (w.asked (.handshake id)) := by
      have hknown : known (w.asked (.handshake id)) id = known w id := rfl
      rw [h.doHandshake_eq]
      unfold verifyPeerChain
      rw [Action.bind_of_ok (find_eq id _), hknown, hverified]
      rfl
    refine ⟨[], .ok () u, List.nil_prefix, .nobody, ⟨rfl, _, hdone⟩, ?_⟩
    rw [Action.after_of_ok hdone, Action.final, h.presents.notes]
  | false =>
    obtain ⟨asked, hle, hasked, hall⟩ :=
      askAll_consults ho chain authType (known w id).host ps u
    rw [← hvs] at hasked hall
    refine ⟨asked, _, hle, hasked, ?_⟩
    cases hr : askAll chain authType (known w id).host (known w id).validators u with
    | ok _ x =>
      obtain ⟨y, hy, hhistory⟩ := h.accepted hverified hr
      rw [Action.after_of_ok hy]
      exact ⟨⟨hall x hr, y, hy⟩, hnotes hhistory⟩
    | error f x =>
      obtain ⟨y, hy, hhistory⟩ := h.failed hverified hr
      rw [Action.after_of_error hy]
      exact ⟨⟨y, hy⟩, hnotes hhistory⟩

theorem known_run (id : SocketId) (ops : List Operation) (w : World π τ) :
    (known (run id ops w) id).host = (known w id).host ∧
      (known (run id ops w) id).validators = (known w id).validators := by
  induction ops generalizing w with
  | nil => exact ⟨rfl, rfl⟩
  | cons op ops ih =>
    have hstep := op.guarded id w
    obtain ⟨hhost, hvalidators⟩ := ih ((op.perform id).after w)
    exact ⟨hhost.trans hstep.host, hvalidators.trans hstep.validators⟩

theorem Cleared.grows {host : Option String} {vs : List Provider} {p : World π τ}
    (h : Cleared id host vs w p) :
    .called (.handshake id) (w.reply (.handshake id)) :: w.history <:+ p.history :=
  h.2.quiet.makes.suffix

/-- A session with validators is not verified before a pass that was over ended well. -/
theorem unverified_of_not_cleared {c : Context} (hc : c.validators ≠ []) {host : Option String}
    (before : List Operation)
    (hfirst : ∀ done p, done <+: before → done ≠ before →
      ¬Cleared id (c.nameOf id host w) c.validators (run id done (c.started id host w)) p) :
    (known (run id before (c.started id host w)) id).verified = false := by
  have htraced := run_traced id (c.started id host w) (started_unverified hc) before
  have hverified := htraced.verified
  rw [Context.known_started] at hverified
  cases hv : (known (run id before (c.started id host w)) id).verified with
  | false => rfl
  | true =>
    obtain ⟨done, p, hdone, hp, hle⟩ := hverified hv
    by_cases hall : done = before
    · -- a pass that starts at the end of the run is not over by then
      subst hall
      exact (not_before_and_since hp.grows hle).elim
    · exact absurd hp (hfirst done p hdone hall)

/-- A pass over a session of a built context, before one ended well, asks the providers that check
chains: in the order of the list, each as often as it stands there, up to the first that fails.  All
are asked about the name that the engine has made of the host.  The pass ends well if and only if
all of them accept.  Starting the session with a handshake makes a pass at once. -/
theorem asked_in_order (identities trusts : List Provider) (protocol : Value)
    (checkHostname : Bool) (observer : Option Observer) (c : Context) (w w₁ : World π τ)
    (hbuild : Context.build identities trusts protocol checkHostname observer w = .ok c w₁)
    (ho : (observer.getD .default).IsMild) (socket id : SocketId) (host : Option String)
    (v w₀ : World π τ) (hwrap : c.wrap socket host false v = .ok id w₀)
    (before : List Operation)
    (hfirst : ∀ done p, done <+: before → done ≠ before →
      ¬Cleared id (known w₀ id).host c.validators (run id done w₀) p)
    (chain : List Certificate) (authType : String) (u : World π τ)
    (hpass : Begins id (run id before w₀) chain authType u) :
    trusts.Forall₂ (Context.Managed (observer.getD .default)) c.managers ∧
      v.reply (.wrap c.engine socket host) = Except.ok (known w₀ id).host ∧
      (c.wrap socket host true v =
        match doHandshake id w₀ with
        | .ok _ x => .ok id x
        | .error f x => .error f ((close id).after x)) ∧
      ∃ asked r, asked <+: trusts.filter (·.isChainValidator) ∧
        Consults (observer.getD .default) chain authType (known w₀ id).host asked u r ∧
        (match r with
          | .ok _ _ => asked = trusts.filter (·.isChainValidator) ∧
            ∃ x, doHandshake id (run id before w₀) = .ok () x
          | .error f _ => ∃ x, doHandshake id (run id before w₀) = .error (passFailure f) x) ∧
        ((∀ p ∈ trusts, p.IsMild) →
          ((doHandshake id).after (run id before w₀)).notes =
            (run id before w₀).notes ++ asked.flatMap fun p =>
              (Provider.delegate p (observer.getD .default)).notes chain authType
                (known w₀ id).host) := by
  have hmanagers := Context.managers_of_build hbuild
  have hvalidators : c.validators =
      (trusts.filter (·.isChainValidator)).map (.delegate · (observer.getD .default)) := by
    unfold Context.validators
    rw [hmanagers, Context.filter_managers]
  have hshake := Context.wrap_handshake hwrap
  have hname := Context.reply_of_wrap hwrap
  rw [host_of_wrap hwrap] at hfirst ⊢
  obtain ⟨rfl, -, hstart⟩ := Context.wrap_ok hwrap
  replace hstart : w₀ = c.started id host v := hstart
  subst hstart
  obtain ⟨hhost, hvs⟩ := known_run id before (c.started id host v)
  rw [Context.known_started] at hhost hvs
  have hunasked : (known (run id before (c.started id host v)) id).verified = true →
      trusts.filter (·.isChainValidator) = [] := by
    intro hv
    by_cases hc : c.validators = []
    · rwa [hvalidators, List.map_eq_nil_iff] at hc
    · rw [unverified_of_not_cleared hc before hfirst] at hv
      cases hv
  obtain ⟨asked, r, hle, hasked, hends, hnotes⟩ :=
    hpass.consults ho (hvs.trans hvalidators) hunasked
  rw [hhost] at hasked
  refine ⟨?_, hname, hshake, asked, r, hle, hasked, hends, fun hmild => ?_⟩
  · rw [hmanagers, List.forall₂_map_right_iff]
    exact List.forall₂_same.mpr fun p _ => Context.managed observer p
  · have hmild' : ∀ p ∈ asked, p.IsMild := fun p hp =>
      hmild p (List.mem_of_mem_filter (hle.subset hp))
    rw [hnotes, hasked.notes ho hmild', hpass.notes]

/-- Three validators behind trust material. -/
def threeJudges : List Provider :=
  [.trust ⟨none, some "PEM"⟩, judge 1, judge 2, judge 3]

theorem threeJudges_isMild : ∀ p ∈ threeJudges, p.IsMild := by
  intro p hp
  simp only [threeJudges, List.mem_cons, List.not_mem_nil, or_false] at hp
  rcases hp with rfl | rfl | rfl | rfl <;> trivial

/-- The second of the validators rejects every chain. -/
def divided : World Rehearsal.Stage Float :=
  .initial { Rehearsal.Stage.start 0.0 0.0 with
    customs := [(2, ⟨none, some (.plain .certificateRejected "no"), .ok []⟩)] } .empty

theorem build_threeJudges :
    ∃ c w₁, Context.build [] threeJudges (.version .tls12) true (some .silent) divided =
      .ok c w₁ := by
  have hbuilt : (match Context.build [] threeJudges (.version .tls12) true (some .silent)
      divided with
    | .ok _ _ => true
    | .error _ _ => false) = true := by
    decide +kernel
  cases h : Context.build [] threeJudges (.version .tls12) true (some .silent) divided with
  | ok c w₁ => exact ⟨c, w₁, rfl⟩
  | error f w₁ =>
    rw [h] at hbuilt
    cases hbuilt

/-- The first pass of a session whose peer presents nothing, where the validators do not agree. -/
theorem asked_in_order_divided :
    ∃ c w₁ w₀ u, Context.build [] threeJudges (.version .tls12) true (some .silent) divided =
        .ok c w₁ ∧
      Observer.silent.IsMild ∧ c.wrap 0 (some "host") false divided = .ok 0 w₀ ∧
      Begins 0 (run 0 [] w₀) [] Certificate.unknownAuthType u ∧
      threeJudges.Forall₂ (Context.Managed .silent) c.managers ∧
      divided.reply (.wrap c.engine 0 (some "host")) = Except.ok (some "host") ∧
      ∃ asked r, asked <+: [judge 1, judge 2, judge 3] ∧
        Consults .silent [] Certificate.unknownAuthType (some "host") asked u r ∧
        ((doHandshake 0).after w₀).notes = w₀.notes ++ asked.flatMap fun p =>
          (Provider.delegate p .silent).notes [] Certificate.unknownAuthType (some "host") := by
  obtain ⟨c, w₁, hbuild⟩ := build_threeJudges
  have hwrap : c.wrap 0 (some "host") false divided =
      .ok 0 (c.started 0 (some "host") divided) := rfl
  have hpass : Begins 0 (c.started 0 (some "host") divided) [] Certificate.unknownAuthType _ :=
    ⟨rfl, rfl, .nothing rfl rfl rfl, rfl⟩
  have hfirst : ∀ done p, done <+: [] → done ≠ [] → ¬Cleared 0 (some "host") c.validators
      (run 0 done (c.started 0 (some "host") divided)) p := by
    intro done p hdone hne
    exact absurd (List.prefix_nil.mp hdone) hne
  obtain ⟨hmanaged, hname, -, asked, r, hle, hasked, -, hnotes⟩ :=
    asked_in_order [] threeJudges (.version .tls12) true (some .silent) c divided w₁ hbuild
      Observer.silent_isMild 0 0 (some "host") divided _ hwrap [] hfirst [] _ _ hpass
  exact ⟨c, w₁, _, _, hbuild, Observer.silent_isMild, hwrap, hpass, hmanaged, hname, asked, r, hle,
    hasked, hnotes threeJudges_isMild⟩

end Session

end TrustGate.Tls
