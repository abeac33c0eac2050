import TrustGate.Proofs.Connection.Cause
import TrustGate.Proofs.Connection.InStep
import TrustGate.Proofs.Connection.Ownership
import TrustGate.Proofs.Tls.Rulings

/-!
# Every attempt is counted once

An attempt to connect is counted in one of five places, by how it ends:

    job.Ends w o               how connecting from `w` can end so that it is counted as `o`
    job.CountedRightly w o     it is counted as `o` once, and `o` is what became of it

If resolving and the calls for a TCP connection fail as operating systems do, this is so for
every attempt whose time limit can be counted (counted_rightly_iff).  A limit that is too large
fails outside of all handlers, so that attempt is not counted at all.
-/

namespace TrustGate

/-- The failure that a call on the way to a TCP connection ends with. -/
def Happening.failure? {τ : Type} : Happening τ → Option Failure
  | .called (.resolve _ _) (.error f) => some f
  | .called (.openSocket _ _ _) (.error f) => some f
  | .called (.setTimeout _ _) (.error f) => some f
  | .called (.bind _ _) (.error f) => some f
  | .called (.connect _ _) (.error f) => some f
  | .called (.openDirect _ _ _) (.error f) => some f
  | _ => none

/-- A session does not tell its version. -/
def Happening.isUntold {τ : Type} : Happening τ → Bool
  | .called (.version _) (.error _) => true
  | _ => false

namespace Connection

variable {π τ : Type}

/-! ## Failed calls -/

/-- What happened last, and after `w`, is a call that failed with `f`. -/
def FailedLast (w u : World π τ) (f : Failure) : Prop :=
  ∃ h past, u.history = h :: past ∧ w.history <:+ past ∧ h.failure? = some f

theorem FailedLast.mono {w v u : World π τ} {f : Failure} (h : FailedLast v u f)
    (hle : w.history <:+ v.history) : FailedLast w u f := by
  obtain ⟨x, past, hu, hpast, hx⟩ := h
  exact ⟨x, past, hu, hle.trans hpast, hx⟩

theorem FailedLast.mem_since {w u : World π τ} {f : Failure} (h : FailedLast w u f) :
    ∃ x ∈ w.since u, x.failure? = some f := by
  obtain ⟨x, past, hu, hpast, hx⟩ := h
  exact ⟨x, World.mem_since (hu ▸ List.suffix_rfl) hpast, hx⟩

theorem fault?_of_failure? {x : Happening τ} {f : Failure} (h : x.failure? = some f) :
    x.fault? = some f := by
  unfold Happening.failure? at h
  split at h <;> first | exact h | cases h

theorem FailedLast.failedIn {w u : World π τ} {f : Failure} (h : FailedLast w u f) :
    FailedIn w u f := by
  obtain ⟨x, past, hu, hpast, hx⟩ := h
  exact ⟨x, past, hu ▸ List.suffix_rfl, hpast, fault?_of_failure? hx⟩

variable [Platform π τ] {r : Request} {e : Endpoint} {s : SocketId} {w u : World π τ}
  {f : Failure}

theorem failedLast_asked {call : Call τ} {answer : Reply call} (hanswer : w.reply call = answer)
    (hf : Happening.failure? (.called call answer) = some f) : FailedLast w (w.asked call) f := by
  subst hanswer
  exact ⟨_, _, rfl, List.suffix_rfl, hf⟩

theorem Reached.failedLast (h : Reached r e s w (.error f u)) : FailedLast w u f := by
  cases h with
  | unbound _ hb => exact failedLast_asked hb rfl
  | refused hb hc => exact (failedLast_asked hc rfl).mono (hb.onward onward_history)

theorem Prepared.failedLast {remaining : τ} (h : Prepared r e remaining s w (.error f u)) :
    FailedLast w u f := by
  cases h with
  | unlimited hl => exact failedLast_asked hl rfl
  | limited _ hr => exact hr.failedLast.mono (List.suffix_cons _ _)

theorem Tried.failedLast {remaining : τ} (h : Tried (Prepared r e remaining) e w (.error f u)) :
    FailedLast w u f := by
  cases h with
  | stopped ho _ => exact failedLast_asked ho rfl
  | abandoned _ hp _ => exact hp.failedLast.mono (opened_onward onward_history e w)

theorem Tried.isOs {Prepares : SocketId → World π τ → End π τ Unit → Prop}
    (h : Tried Prepares e w (.ok (.error f) u)) : f.kind.isOs = true := by
  cases h with
  | unopened _ hf => exact hf
  | failed _ _ hf => exact hf

variable [Duration τ]

theorem Tries.failedLast {deadline : τ} {last : Option Failure} {es : List Endpoint}
    {p : End π τ (Except (Option Failure) SocketId)} (h : Tries r deadline last es w p)
    (hp : p = .error f u) : FailedLast w u f := by
  induction h with
  | exhausted => cases hp
  | late _ => cases hp
  | broken _ ht =>
    cases hp
    exact ht.failedLast.mono (List.suffix_cons _ _)
  | next _ ht _ ih =>
    exact (ih hp).mono ((List.suffix_cons _ _).trans (ht.onward onward_history))
  | stuck _ ht hb =>
    cases hp
    exact (failedLast_asked hb rfl).mono ((List.suffix_cons _ _).trans (ht.onward onward_history))
  | connected _ _ _ => cases hp

/-- The last failure, if none of the addresses accepted, is the operating system's. -/
theorem Tries.isOs {deadline : τ} {last last' : Option Failure} {es : List Endpoint}
    {p : End π τ (Except (Option Failure) SocketId)} (h : Tries r deadline last es w p)
    (hlast : ∀ g ∈ last, g.kind.isOs = true) (hp : p = .ok (.error last') u) :
    ∀ g ∈ last', g.kind.isOs = true := by
  induction h with
  | exhausted =>
    cases hp
    exact hlast
  | late _ =>
    cases hp
    exact hlast
  | broken _ _ => cases hp
  | next _ ht _ ih =>
    refine ih (fun g hg => ?_) hp
    cases hg
    exact ht.isOs
  | stuck _ _ _ => cases hp
  | connected _ _ _ => cases hp

variable {R : World π τ → World π τ → Prop} (hR : Onward R)

include hR in
theorem Within.onward {p : End π τ SocketId} (h : Within r w p) : R w (Action.final p) := by
  have hclock := hR.asked w .monotonicClock
  have hresolved := hR.trans hclock (hR.asked (w.asked .monotonicClock) (.resolve r.host r.port))
  cases h with
  | uncounted _ => exact hclock
  | unresolved _ _ => exact hresolved
  | broken _ _ ht => exact hR.trans hresolved (ht.onward hR)
  | gaveUp _ _ ht hg => exact hR.trans hresolved (hR.trans (ht.onward hR) (hg.onward hR))
  | connected _ _ ht => exact hR.trans hresolved (ht.onward hR)

include hR in
theorem openRaw_onward (r : Request) (w : World π τ) : R w ((openRaw r).after w) := by
  unfold openRaw
  split
  · exact (connectWithinDeadline_within r w).onward hR
  · unfold Action.after
    rw [connectDirectly_eq]
    have hasked := hR.asked w (.openDirect w.nextSocket r.address r.sourceAddress?)
    split
    · exact hR.trans hasked (hR.numbered _ _)
    · exact hasked

omit [Duration τ] in
theorem onward_counters : Onward fun w u : World π τ => u.counters = w.counters where
  refl _ := rfl
  trans h h' := h'.trans h
  asked _ _ := rfl
  numbered _ _ := rfl

/-- Opening that fails, and not for the size of the limit, fails as the last call did, or with a
failure of the operating system's. -/
theorem Within.cause (h : Within r w (.error f u))
    (hlimit : ∃ limit : τ, Duration.ofValue r.connectTimeout = .ok limit) :
    f.kind.isOs = true ∨ FailedLast w u f := by
  have hclock : w.history <:+ (w.asked .monotonicClock).history := List.suffix_cons _ _
  have hresolved : w.history <:+
      ((w.asked .monotonicClock).asked (.resolve r.host r.port)).history :=
    hclock.trans (List.suffix_cons _ _)
  cases h with
  | uncounted hl =>
    obtain ⟨limit, hlimit⟩ := hlimit
    cases hl.symm.trans hlimit
  | unresolved _ hr => exact .inr ((failedLast_asked hr rfl).mono hclock)
  | broken _ _ ht => exact .inr ((ht.failedLast rfl).mono hresolved)
  | gaveUp _ _ ht hg =>
    have hos := ht.isOs (by simp) rfl
    refine .inl ?_
    cases hg with
    | untried => rfl
    | cutOff _ => rfl
    | elapsed _ _ => rfl
    | own _ _ => exact hos _ rfl

theorem openRaw_cause (hcounts : Counts τ r) (h : openRaw r w = .error f u) :
    f.kind.isOs = true ∨ FailedLast w u f := by
  unfold openRaw at h
  split at h
  · next hd =>
    have hwithin := connectWithinDeadline_within r w
    rw [h] at hwithin
    exact hwithin.cause (hcounts hd)
  · rw [connectDirectly_eq] at h
    split at h
    · cases h
    · next hr =>
      cases h
      exact .inr (failedLast_asked hr rfl)

/-- A limit that is too large fails at once. -/
theorem openRaw_of_not_counts (hcounts : ¬Counts τ r) (w : World π τ) :
    ∃ f u, (openRaw r : Action π τ SocketId) w = .error f u ∧
      Duration.ofValue (τ := τ) r.connectTimeout = .error f := by
  have hd : r.hasDeadline = true := by
    by_contra hd
    exact hcounts fun htrue => absurd htrue hd
  have hwithin := connectWithinDeadline_within (π := π) r w
  have hnone : ∀ limit : τ, Duration.ofValue r.connectTimeout ≠ .ok limit :=
    fun limit hl => hcounts fun _ => ⟨limit, hl⟩
  unfold openRaw
  rw [if_pos hd]
  generalize connectWithinDeadline r w = p at hwithin
  cases hwithin with
  | uncounted hl => exact ⟨_, _, rfl, hl⟩
  | unresolved hl _ => exact absurd hl (hnone _)
  | broken hl _ _ => exact absurd hl (hnone _)
  | gaveUp hl _ _ _ => exact absurd hl (hnone _)
  | connected hl _ _ => exact absurd hl (hnone _)

/-! ## Counting -/

/-- How often an outcome was counted. -/
def timesCounted (o : Metrics.Outcome) (w : World π τ) : Nat :=
  w.counters.connections.count o.label

/-- How often any outcome was counted. -/
def attemptsCounted (w : World π τ) : Nat :=
  timesCounted .connected w + timesCounted .timeout w + timesCounted .unresolved w +
    timesCounted .error w

/-- From `w` to `w'` this outcome is counted once, and no other. -/
def CountedAs (o : Metrics.Outcome) (w w' : World π τ) : Prop :=
  ∀ o', timesCounted o' w' = timesCounted o' w + if o' = o then 1 else 0

section

omit [Platform π τ] [Duration τ]

variable {w w' : World π τ} {o : Metrics.Outcome}

theorem label_ne {o o' : Metrics.Outcome} (h : o ≠ o') : o.label ≠ o'.label := by
  cases o <;> cases o' <;> first | exact absurd rfl h | decide

theorem countedAs_of_connections
    (h : w'.counters.connections = w.counters.connections.add o.label) : CountedAs o w w' := by
  intro o'
  unfold timesCounted
  rw [h]
  by_cases ho : o' = o
  · rw [ho, if_pos rfl, Metrics.Samples.count_add_self]
  · rw [if_neg ho, Metrics.Samples.count_add_of_ne _ (label_ne ho)]
    rfl

theorem CountedAs.unique {o' : Metrics.Outcome} (h : CountedAs o w w')
    (h' : CountedAs o' w w') : o = o' := by
  by_contra hne
  have hself := h o
  have hother := h' o
  rw [if_pos rfl] at hself
  rw [if_neg hne] at hother
  omega

theorem CountedAs.attemptsCounted_eq (h : CountedAs o w w') :
    attemptsCounted w' = attemptsCounted w + 1 := by
  unfold attemptsCounted
  rw [h .connected, h .timeout, h .unresolved, h .error]
  cases o <;> simp <;> omega

theorem attemptsCounted_same (h : w'.counters.connections = w.counters.connections) :
    attemptsCounted w' = attemptsCounted w := by
  unfold attemptsCounted timesCounted
  rw [h]

end

/-! ## What connecting counts -/

omit [Duration τ] in
/-- Starting a session counts no connection. -/
theorem wrap_connections (c : Tls.Context) (s : SocketId) (host : Option String) (handshake : Bool)
    (w : World π τ) :
    ((c.wrap s host handshake).after w).counters.connections = w.counters.connections := by
  rw [← Action.after_map Tls.Yield.session]
  exact (Tls.Act.wrap c s host handshake).connections_eq w

omit [Duration τ] in
theorem begin_connections (c : Tls.Context) (r : Request) (handshake : Bool) (s : SocketId)
    (w : World π τ) :
    ((begin c r handshake s).after w).counters.connections = w.counters.connections := by
  unfold begin Action.after
  rw [Action.bind_eq, setTimeout_eq]
  cases (w.reply (.setTimeout s (.given r.soTimeout)) : Except Failure Unit) with
  | error f => rfl
  | ok _ => exact wrap_connections c s (peerName r.host) handshake _

theorem openSocket_of_error {r : Request} {f : Failure} {u : World π τ}
    (h : openRaw r w = .error f u) : openSocket r w = .error (explained r f) (tallied f u) := by
  rw [openSocket_eq, h]

/-- Opening that succeeds counts nothing. -/
theorem counters_of_openSocket {r : Request} {s : SocketId} {u : World π τ}
    (h : openSocket r w = .ok s u) : u.counters = w.counters := by
  rw [openSocket_eq] at h
  have hraw := openRaw_onward onward_counters r w
  cases ho : (openRaw r : Action π τ SocketId) w with
  | error f v =>
    rw [ho] at h
    cases h
  | ok s' v =>
    rw [ho] at h
    cases h
    rwa [Action.after_of_ok ho] at hraw

/-- A failure of the operating system's is counted. -/
theorem exists_outcome {f : Failure} (hf : f.kind.isOs = true) : ∃ o, outcome? f = some o := by
  unfold outcome?
  rw [hf]
  split
  · exact ⟨_, rfl⟩
  · split <;> exact ⟨_, rfl⟩

/-- What a failure to open the TCP connection is counted as, by how it is explained. -/
theorem outcome_iff {r : Request} {f : Failure} {o : Metrics.Outcome} (ho : outcome? f = some o)
    (hos : f.kind.isOs = true) :
    o ≠ .connected ∧ (o = .timeout ↔ (explained r f).kind = .connectTimeout) ∧
      (f.kind ≠ .unresolvedHost →
        (o = .unresolved ↔ (explained r f).kind = .unresolvedHost)) ∧
      (f.kind = .unresolvedHost →
        o = .error ∧ (explained r f).kind = .unresolvedHost) := by
  by_cases ha : f.kind = .addressInfo
  · obtain ⟨hkind, houtcome⟩ := explained_addressInfo r ha
    cases houtcome.symm.trans ho
    rw [hkind, ha]
    simp
  · cases ht : f.kind.isTimeout with
    | true =>
      obtain ⟨hkind, houtcome⟩ := explained_timeout r ht
      cases houtcome.symm.trans ho
      have hne : f.kind ≠ .unresolvedHost := by
        intro heq
        rw [heq] at ht
        exact absurd ht (by decide)
      rw [hkind]
      simp [hne]
    | false =>
      have houtcome := outcome?_own ha ht
      rw [hos, if_pos rfl] at houtcome
      cases houtcome.symm.trans ho
      rw [explained_own r ha ht]
      simp [ne_connectTimeout ht]

/-! ## Attempts -/

/-- An attempt to connect that is to be made. -/
structure Job where
  context : Tls.Context
  request : Request
  handshake : Bool

namespace Job

def perform (job : Job) : Action π τ SocketId :=
  Connection.connect job.context job.request job.handshake

/-- Calls on the way to a TCP connection fail as operating systems do, and the session tells its
version.  A limit that is too large to count is not a failure of the operating system's. -/
structure Orderly (job : Job) (w : World π τ) : Prop where
  os : ∀ h ∈ w.since ((openSocket job.request).after w), h.failure?.all (·.kind.isOs) = true
  version : ∀ h ∈ w.since (job.perform.after w), h.isUntold = false
  limit : ∀ f, Duration.ofValue (τ := τ) job.request.connectTimeout = .error f →
    f.kind.isOs = false

/-- How an attempt that is counted can end, and as what it is counted. -/
inductive Ends (job : Job) (w : World π τ) : Metrics.Outcome → Prop
  | connected {id : SocketId} {u : World π τ} : job.perform w = .ok id u → Ends job w .connected
  | unopened {o : Metrics.Outcome} {f : Failure} {u : World π τ} :
      openRaw job.request w = .error f u → f.kind.isOs = true → outcome? f = some o →
      job.perform w = .error (explained job.request f) (tallied f u) → Ends job w o
  | failed {s : SocketId} {f : Failure} {u v : World π τ} : openSocket job.request w = .ok s u →
      job.perform w = .error f v → Ends job w .error

/-- Connecting fails in opening the TCP connection, with a failure of the kind. -/
def FailsOpening (job : Job) (w : World π τ) (kind : FailureKind) : Prop :=
  ∃ f u, openSocket job.request w = .error f u ∧ job.perform w = .error f u ∧ f.kind = kind

/-- The attempt is counted once, as what became of it. -/
structure CountedRightly (job : Job) (w : World π τ) (o : Metrics.Outcome) : Prop where
  counted : CountedAs o w (job.perform.after w)
  connected : o = .connected ↔ ∃ id u, job.perform w = .ok id u
  unresolved : o = .unresolved ↔ job.FailsOpening w .unresolvedHost
  timeout : o = .timeout ↔ job.FailsOpening w .connectTimeout

variable {job : Job} {w : World π τ} {o : Metrics.Outcome}

theorem perform_unopened {f : Failure} {u : World π τ}
    (h : openSocket job.request w = .error f u) : job.perform w = .error f u := by
  unfold perform connect
  exact Action.bind_of_error h _

/-- Opening that fails as operating systems do is counted by the failure's kind. -/
theorem ends_of_unopened (h : job.Orderly w) (hcounts : Counts τ job.request) {f : Failure}
    {u : World π τ} (ho : openSocket job.request w = .error f u) :
    ∃ o, job.Ends w o ∧ CountedAs o w u := by
  have hopened := ho
  rw [openSocket_eq] at ho
  have hcounters := openRaw_onward onward_counters job.request w
  cases hraw : (openRaw job.request : Action π τ SocketId) w with
  | ok s v =>
    rw [hraw] at ho
    cases ho
  | error g v =>
    rw [hraw] at ho
    cases ho
    rw [Action.after_of_error hraw] at hcounters
    have hos : g.kind.isOs = true := by
      rcases openRaw_cause hcounts hraw with hos | ⟨x, past, hv, hpast, hx⟩
      · exact hos
      · -- The call is on record, so it is one of those that fail as operating systems do.
        have hlast : FailedLast w (tallied g v) g :=
          ⟨x, past, (history_tallied g v).trans hv, hpast, hx⟩
        obtain ⟨x, hmem, hx⟩ := hlast.mem_since
        rw [← Action.after_of_error hopened] at hmem
        simpa [hx] using h.os x hmem
    obtain ⟨o, houtcome⟩ := exists_outcome hos
    refine ⟨o, .unopened hraw hos houtcome (perform_unopened hopened),
      countedAs_of_connections ?_⟩
    rw [counters_tallied, houtcome, hcounters]
    rfl

/-- A session that does not tell its version is on record. -/
theorem exists_untold {s id : SocketId} {f : Failure} {u v x : World π τ}
    (ho : openSocket job.request w = .ok s u)
    (hb : begin job.context job.request job.handshake s u = .ok id v)
    (hv : Tls.Session.version id (counted .connected v) = .error f x) :
    ∃ h ∈ w.since x, h.isUntold = true := by
  have howned := openSocket_owned job.request w
  rw [ho] at howned
  have hbegun := begin_account job.context job.request job.handshake howned
  rw [hb] at hbegun
  obtain ⟨-, new, hgrows, -⟩ := hbegun
  rw [Tls.Session.version_eq] at hv
  split at hv
  · cases hr : ((counted .connected v).reply (.version id) : Except Failure (Option String)) with
    | ok version =>
      rw [hr] at hv
      cases hv
    | error g =>
      rw [hr] at hv
      cases hv
      have hlast : .called (.version id) (Except.error f) :: v.history <:+
          ((counted .connected v).asked (.version id)).history := by
        rw [← hr]
        exact List.suffix_rfl
      exact ⟨_, World.mem_since hlast ⟨new, hgrows.symm⟩, rfl⟩
  · cases hv

theorem ends (h : job.Orderly w) (hcounts : Counts τ job.request) :
    ∃ o, job.Ends w o ∧ CountedAs o w (job.perform.after w) := by
  have hconnects := connect_connects job.context job.request job.handshake w
  have hversion := h.version
  have hafter : job.perform.after w = Action.final (job.perform w) := rfl
  have hdef : job.perform w = connect job.context job.request job.handshake w := rfl
  rw [← hdef] at hconnects
  generalize hp : job.perform w = p at hconnects hafter
  rw [hafter] at hversion ⊢
  cases hconnects with
  | unopened ho => exact ends_of_unopened h hcounts ho
  | @failed s f u v ho hb =>
    refine ⟨.error, .failed ho hp, countedAs_of_connections ?_⟩
    have hbegin := begin_connections job.context job.request job.handshake s u
    rw [Action.after_of_error hb, counters_of_openSocket ho] at hbegin
    rw [← hbegin]
    rfl
  | unread ho hb hv =>
    obtain ⟨x, hmem, huntold⟩ := exists_untold ho hb hv
    rw [hversion x hmem] at huntold
    cases huntold
  | @connected s id version u v x j ho hb hv =>
    refine ⟨.connected, .connected hp, countedAs_of_connections ?_⟩
    have hbegin := begin_connections job.context job.request job.handshake s u
    rw [Action.after_of_ok hb, counters_of_openSocket ho] at hbegin
    have hquiet := (Tls.Session.version_quietly id).of_ok hv
    rw [← hbegin]
    show x.counters.connections = _
    rw [hquiet.counters]
    rfl

/-- Opening the TCP connection fails with the library's own failure for unresolved hosts before it
is explained: a call fails with it. -/
def OpensUnresolved (job : Job) (w : World π τ) : Prop :=
  ∃ f u, openRaw job.request w = .error f u ∧ f.kind = .unresolvedHost

theorem failsOpening_iff {f : Failure} {u : World π τ} (hraw : openRaw job.request w = .error f u)
    (kind : FailureKind) :
    job.FailsOpening w kind ↔ (explained job.request f).kind = kind := by
  have hopened := openSocket_of_error hraw
  constructor
  · rintro ⟨g, v, hg, -, hkind⟩
    cases hopened.symm.trans hg
    exact hkind
  · exact fun hkind => ⟨_, _, hopened, perform_unopened hopened, hkind⟩

theorem not_failsOpening {s : SocketId} {u : World π τ} (ho : openSocket job.request w = .ok s u)
    (kind : FailureKind) : ¬job.FailsOpening w kind := by
  rintro ⟨f, v, hf, -⟩
  cases ho.symm.trans hf

/-- A limit that is too large to count: the attempt fails, and nothing is counted. -/
theorem uncounted (h : job.Orderly w) (hcounts : ¬Counts τ job.request) :
    ∃ f u, job.perform w = .error f u ∧ u.counters = w.counters := by
  obtain ⟨f, u, hraw, hlimit⟩ := openRaw_of_not_counts hcounts w
  have hos := h.limit f hlimit
  have hcounters := openRaw_onward onward_counters job.request w
  rw [Action.after_of_error hraw] at hcounters
  have hopened := openSocket_of_error hraw
  refine ⟨_, _, perform_unopened hopened, ?_⟩
  rw [counters_tallied, outcome?_of_not_isOs hos]
  exact hcounters

theorem openSocket_of_opensUnresolved (h : job.OpensUnresolved w) :
    ∃ f u, openSocket job.request w = .error f u := by
  obtain ⟨f, u, hraw, -⟩ := h
  exact ⟨_, _, openSocket_of_error hraw⟩

theorem ends_countedRightly_iff (hends : job.Ends w o)
    (hcounted : CountedAs o w (job.perform.after w)) :
    job.CountedRightly w o ↔ ¬job.OpensUnresolved w := by
  cases hends with
  | @connected id u hp =>
    have hreturns (kind : FailureKind) : ¬job.FailsOpening w kind := by
      rintro ⟨f, v, -, hf, -⟩
      cases hp.symm.trans hf
    have hopens : ¬job.OpensUnresolved w := by
      intro hunresolved
      obtain ⟨f, v, ho⟩ := openSocket_of_opensUnresolved hunresolved
      cases hp.symm.trans (perform_unopened ho)
    refine ⟨fun _ => hopens, fun _ => ⟨hcounted, ?_, ?_, ?_⟩⟩
    · simp [hp]
    · simp [hreturns]
    · simp [hreturns]
  | @failed s f u v ho hp =>
    have hopens : ¬job.OpensUnresolved w := by
      intro hunresolved
      obtain ⟨g, x, hg⟩ := openSocket_of_opensUnresolved hunresolved
      cases ho.symm.trans hg
    refine ⟨fun _ => hopens, fun _ => ⟨hcounted, ?_, ?_, ?_⟩⟩
    · simp [hp]
    · simp [not_failsOpening ho]
    · simp [not_failsOpening ho]
  | @unopened o f u hraw hos houtcome hp =>
    obtain ⟨hconnected, htimeout, hother, hunresolved⟩ :=
      outcome_iff (r := job.request) houtcome hos
    constructor
    · rintro hright ⟨g, v, hg, hkind⟩
      cases hraw.symm.trans hg
      obtain ⟨rfl, hexplained⟩ := hunresolved hkind
      have hfails := (failsOpening_iff hraw .unresolvedHost).mpr hexplained
      cases hright.unresolved.mpr hfails
    · intro hnot
      have hkind : f.kind ≠ .unresolvedHost := fun hkind => hnot ⟨f, u, hraw, hkind⟩
      refine ⟨hcounted, ?_, ?_, ?_⟩
      · simp [hp, hconnected]
      · rw [failsOpening_iff hraw, hother hkind]
      · rw [failsOpening_iff hraw, htimeout]

/-- An attempt is counted once, as what became of it, if its limit can be counted and opening does
not fail with the library's own failure for unresolved hosts, and only then. -/
theorem countedRightly_iff (h : job.Orderly w) :
    (∃ o, job.CountedRightly w o) ↔ Counts τ job.request ∧ ¬job.OpensUnresolved w := by
  by_cases hcounts : Counts τ job.request
  · obtain ⟨o, hends, hcounted⟩ := job.ends h hcounts
    have hiff := ends_countedRightly_iff hends hcounted
    constructor
    · rintro ⟨o', hright⟩
      cases hright.counted.unique hcounted
      exact ⟨hcounts, hiff.mp hright⟩
    · exact fun hboth => ⟨o, hiff.mpr hboth.2⟩
  · obtain ⟨f, u, hfails, hsame⟩ := uncounted h hcounts
    refine ⟨fun ⟨o, hright⟩ => ?_, fun hboth => absurd hboth.1 hcounts⟩
    have hcounted := hright.counted.attemptsCounted_eq
    rw [Action.after_of_error hfails,
      attemptsCounted_same (congrArg Metrics.Counters.connections hsame)] at hcounted
    omega

/-! ## One attempt after the other -/

/-- Whether the time limit can be counted, if there is one. -/
def isCountable (τ : Type) [Duration τ] (job : Job) : Bool :=
  !job.request.hasDeadline || (Duration.ofValue (τ := τ) job.request.connectTimeout).isOk

omit [Platform π τ] in
theorem isCountable_iff (job : Job) : job.isCountable τ = true ↔ Counts τ job.request := by
  unfold isCountable Counts
  cases hd : job.request.hasDeadline with
  | false => simp
  | true =>
    cases Duration.ofValue (τ := τ) job.request.connectTimeout with
    | ok limit => simp [Except.isOk, Except.toBool]
    | error f => simp [Except.isOk, Except.toBool]

/-- What one attempt adds to the samples, all together. -/
theorem attemptsCounted_perform (h : job.Orderly w) :
    attemptsCounted (job.perform.after w) =
      attemptsCounted w + if job.isCountable τ then 1 else 0 := by
  by_cases hcounts : Counts τ job.request
  · obtain ⟨o, -, hcounted⟩ := job.ends h hcounts
    rw [hcounted.attemptsCounted_eq, if_pos (job.isCountable_iff.mpr hcounts)]
  · obtain ⟨f, u, hfails, hsame⟩ := uncounted h hcounts
    rw [Action.after_of_error hfails, if_neg fun h => hcounts (job.isCountable_iff.mp h)]
    exact attemptsCounted_same (congrArg Metrics.Counters.connections hsame)

end Job

/-- One attempt after the other, whether they fail or not. -/
def carryOut (jobs : List Job) (w : World π τ) : World π τ :=
  jobs.foldl (fun w job => job.perform.after w) w

/-- All attempts are orderly. -/
def AllOrderly : List Job → World π τ → Prop
  | [], _ => True
  | job :: rest, w => job.Orderly w ∧ AllOrderly rest (job.perform.after w)

theorem AllOrderly.last {before : List Job} {job : Job} {jobs : List Job} {w : World π τ}
    (h : AllOrderly jobs w) (hle : before ++ [job] <+: jobs) : job.Orderly (carryOut before w) := by
  induction before generalizing jobs w with
  | nil =>
    obtain ⟨rest, rfl⟩ := hle
    exact h.1
  | cons first before ih =>
    obtain ⟨rest, rfl⟩ := hle
    exact ih h.2 ⟨rest, rfl⟩

/-- Attempts whose limits can be counted are counted, each once, and the others are not. -/
theorem attemptsCounted_carryOut {jobs : List Job} {w : World π τ} (h : AllOrderly jobs w) :
    attemptsCounted (carryOut jobs w) =
      attemptsCounted w + jobs.countP fun job => job.isCountable τ := by
  induction jobs generalizing w with
  | nil => rfl
  | cons job rest ih =>
    have hrest : carryOut (job :: rest) w = carryOut rest (job.perform.after w) := rfl
    rw [hrest, ih h.2, Job.attemptsCounted_perform h.1, List.countP_cons]
    omega

/-- Of attempts made in turn, those are counted whose limits can be counted, each once, and as what
became of them unless opening fails with the library's own failure for unresolved hosts.  A limit
that is too large fails the attempt and nothing is counted. -/
theorem attempts_counted_once (jobs : List Job) (w : World π τ) (h : AllOrderly jobs w) :
    attemptsCounted (carryOut jobs w) =
        attemptsCounted w + jobs.countP (fun job => job.isCountable τ) ∧
      ∀ before job, before ++ [job] <+: jobs →
        ((∃ o, job.CountedRightly (carryOut before w) o) ↔
          Counts τ job.request ∧ ¬job.OpensUnresolved (carryOut before w)) ∧
        (¬Counts τ job.request → ∃ f u, job.perform (carryOut before w) = .error f u ∧
          u.counters = (carryOut before w).counters) :=
  ⟨attemptsCounted_carryOut h, fun _ _ hle =>
    ⟨Job.countedRightly_iff (h.last hle), Job.uncounted (h.last hle)⟩⟩

omit [Platform π τ] [Duration τ] in
theorem kind_of_ofValue_error {v : Value} {f : Failure} (h : Seconds.ofValue v = .error f) :
    f.kind = .overflow := by
  unfold Seconds.ofValue at h
  split at h
  · cases h
  · cases h
    rfl

/-- A limit of more seconds than a double can hold. -/
def overlong : Job := ⟨unverified, toHost .null (.int (Int.pow 10 200 * Int.pow 10 200)), true⟩

/-- One attempt that connects, and one whose limit cannot be counted. -/
def twoJobs : List Job := [⟨unverified, toHost .null (.int 0), true⟩, overlong]

/-- Both requests are accepted, but only the first attempt is counted. -/
theorem attempts_counted_once_overlong :
    AllOrderly twoJobs (staged .plain) ∧
      attemptsCounted (carryOut twoJobs (staged .plain)) =
        attemptsCounted (staged .plain) + twoJobs.countP (fun job => job.isCountable Float) ∧
      twoJobs.countP (fun job => job.isCountable Float) = 1 ∧
      Request.make (.text "host") (.int 443) .null (.int 0) overlong.request.connectTimeout .null =
        .ok overlong.request := by
  have hlimit (job : Job) (f : Failure)
      (h : Duration.ofValue (τ := Float) job.request.connectTimeout = .error f) :
      f.kind.isOs = false := by
    rw [kind_of_ofValue_error h]
    rfl
  have horderly : AllOrderly twoJobs (staged .plain) :=
    ⟨⟨by decide +kernel, by decide +kernel, hlimit _⟩,
      ⟨by decide +kernel, by decide +kernel, hlimit _⟩, trivial⟩
  exact ⟨horderly, (attempts_counted_once twoJobs _ horderly).1, by decide +kernel, rfl⟩

end Connection

end TrustGate
