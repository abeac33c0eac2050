import TrustGate.Proofs.Connection.Plain

/-!
# What a failure to connect says of its cause

`Course` is what the opening of a socket has come to, read off what happened: how
resolving the host ended, which attempts failed, last one first, and whether one connected.

    NamesCause r w c f w'     `f` is the failure that `c` calls for, and is counted as such
    Explicable r w c          resolving fails as resolving does, and the last attempt does not

For a connection that fails before there is a TCP connection, these are equivalent.  A failure is
explained by its kind alone: if binding to a local name fails as resolving does, the host
is said to be unresolved, and if resolving fails in another way, it is not.
-/

namespace TrustGate.Connection

variable {π τ : Type}

structure Course (τ : Type) where
  resolution : Option (Except Failure (List Endpoint))
  /-- How attempts failed, the last one first. -/
  failures : List Failure
  connected : Bool
  /-- What the clock showed last. -/
  now : Option τ

namespace Course

def start : Course τ := ⟨none, [], false, none⟩

def fail (c : Course τ) (f : Failure) : Course τ := { c with failures := f :: c.failures }

def succeed (c : Course τ) : Course τ := { c with connected := true }

def add : Happening τ → Course τ → Course τ
  | .called .monotonicClock t, c => { c with now := some t }
  | .called (.resolve _ _) x, c => { c with resolution := some x }
  | .called (.openSocket _ _ _) (.error f), c => c.fail f
  | .called (.setTimeout _ (.remaining _)) (.error f), c => c.fail f
  | .called (.bind _ _) (.error f), c => c.fail f
  | .called (.connect _ _) (.error f), c => c.fail f
  | .called (.connect _ _) (.ok _), c => c.succeed
  | _, c => c

end Course

/-- Since `w₀`, opening has come to `c`, and nothing was counted. -/
structure Tells (w₀ w : World π τ) (c : Course τ) : Prop where
  sums : Sums Course.add .start w₀ w c
  counters : w.counters = w₀.counters

variable {w₀ w w' : World π τ} {c : Course τ}

theorem Tells.refl (w : World π τ) : Tells w w .start := ⟨.refl w, rfl⟩

theorem Tells.of_eq (h : Tells w₀ w c) (hw : w'.history = w.history)
    (hc : w'.counters = w.counters) : Tells w₀ w' c :=
  ⟨h.sums.of_history hw, hc.trans h.counters⟩

variable [Platform π τ] {r : Request} {e : Endpoint} {s : SocketId}

theorem Tells.asked {call : Call τ} {answer : Reply call} (h : Tells w₀ w c)
    (hanswer : w.reply call = answer) :
    Tells w₀ (w.asked call) (Course.add (.called call answer) c) :=
  ⟨h.sums.asked hanswer, h.counters⟩

theorem Tells.clock (h : Tells w₀ w c) :
    Tells w₀ (w.asked .monotonicClock) { c with now := some w.time } := h.asked rfl

/-! ## One address -/

/-- Preparing a socket adds its failure to the course or a connection. -/
def Adds (w₀ : World π τ) (c : Course τ) : End π τ Unit → Prop
  | .ok _ w => Tells w₀ w c.succeed
  | .error f w => Tells w₀ w (c.fail f)

theorem Bound.tells (h : Bound r s w w') (hw : Tells w₀ w c) : Tells w₀ w' c := by
  cases h with
  | anywhere _ => exact hw
  | source _ hb => exact hw.asked hb

theorem Reached.adds {p : End π τ Unit} (h : Reached r e s w p) (hw : Tells w₀ w c) :
    Adds w₀ c p := by
  cases h with
  | unbound _ hb => exact hw.asked hb
  | refused hb hc => exact (hb.tells hw).asked hc
  | connected hb hc => exact (hb.tells hw).asked hc

theorem Prepared.adds {remaining : τ} {p : End π τ Unit} (h : Prepared r e remaining s w p)
    (hw : Tells w₀ w c) : Adds w₀ c p := by
  cases h with
  | unlimited hl => exact hw.asked hl
  | limited hl hr => exact hr.adds (hw.asked hl)

/-- An attempt adds its failure to the course or a connection; after a failure that is not the
operating system's there is no other attempt. -/
def AddsOne (w₀ : World π τ) (c : Course τ) : End π τ (Except Failure SocketId) → Prop
  | .ok (.ok _) w => Tells w₀ w c.succeed
  | .ok (.error f) w => Tells w₀ w (c.fail f) ∧ f.kind.isOs = true
  | .error f w => Tells w₀ w (c.fail f) ∧ f.kind.isOs = false

theorem Tried.addsOne {Prepares : SocketId → World π τ → End π τ Unit → Prop}
    (hprepares : ∀ s w p c, Prepares s w p → Tells w₀ w c → Adds w₀ c p)
    {p : End π τ (Except Failure SocketId)} (h : Tried Prepares e w p) (hw : Tells w₀ w c) :
    AddsOne w₀ c p := by
  have hopened (ho : w.reply (.openSocket w.nextSocket e.family e.protocol) = Except.ok ()) :
      Tells w₀ (opened e w) c := (hw.asked ho).of_eq rfl rfl
  cases h with
  | unopened ho hf => exact ⟨hw.asked ho, hf⟩
  | stopped ho hf => exact ⟨hw.asked ho, hf⟩
  | failed ho hp hf =>
    have hfail : Tells w₀ _ (c.fail _) := hprepares _ _ _ c hp (hopened ho)
    exact ⟨hfail.asked rfl, hf⟩
  | abandoned ho hp hf => exact ⟨hprepares _ _ _ c hp (hopened ho), hf⟩
  | connected ho hp => exact hprepares _ _ _ c hp (hopened ho)

/-! ## All addresses -/

/-- Between attempts: the last failure is the one at hand, and all were the operating system's. -/
structure Trying (w₀ w : World π τ) (c : Course τ) (last : Option Failure) : Prop where
  tells : Tells w₀ w c
  last : c.failures.head? = last
  os : ∀ f ∈ c.failures, f.kind.isOs = true

omit [Platform π τ] in
theorem Tells.trying (h : Tells w₀ w c) (hc : c.failures = []) : Trying w₀ w c none := by
  refine ⟨h, by rw [hc]; rfl, fun f hf => ?_⟩
  rw [hc] at hf
  cases hf

omit [Platform π τ] in
theorem Trying.next {last : Option Failure} {f : Failure} (h : Trying w₀ w c last)
    (ht : Tells w₀ w' (c.fail f)) (hf : f.kind.isOs = true) :
    Trying w₀ w' (c.fail f) (some f) := by
  refine ⟨ht, rfl, fun g hg => ?_⟩
  rcases List.mem_cons.mp hg with rfl | hg
  · exact hf
  · exact h.os g hg

/-- What trying some addresses comes to, from a course on; `Late` says that there was no time for
another attempt. -/
def Comes (w₀ : World π τ) (c : Course τ) (last : Option Failure) (es : List Endpoint)
    (Late : Course τ → Prop) : End π τ (Except (Option Failure) SocketId) → Prop
  | .ok (.ok _) w => ∃ c', Tells w₀ w c' ∧ c'.connected = true
  | .ok (.error last') w => ∃ c', Trying w₀ w c' last' ∧ c'.resolution = c.resolution ∧
      (last' = none → last = none ∧ (es = [] ∨ Late c'))
  | .error f w => ∃ c', Tells w₀ w c' ∧ c'.resolution = c.resolution ∧
      (c'.connected = true ∨ c'.failures.head? = some f ∧ f.kind.isOs = false)

omit [Platform π τ] in
/-- What it comes to after one more failure. -/
theorem Comes.of_next {c' : Course τ} {last : Option Failure} {f : Failure}
    {es rest : List Endpoint} {Late : Course τ → Prop}
    {p : End π τ (Except (Option Failure) SocketId)} (h : Comes w₀ c' (some f) rest Late p)
    (hres : c'.resolution = c.resolution) : Comes w₀ c last es Late p := by
  cases p with
  | error g u =>
    obtain ⟨c₁, htells, hres₁, hfailed⟩ := h
    exact ⟨c₁, htells, hres₁.trans hres, hfailed⟩
  | ok x u =>
    cases x with
    | ok s => exact h
    | error last' =>
      obtain ⟨c₁, htrying, hres₁, hnone⟩ := h
      exact ⟨c₁, htrying, hres₁.trans hres, fun hlast => absurd (hnone hlast).1 (by simp)⟩

theorem TriesPlainly.comes {last : Option Failure} {es : List Endpoint}
    {p : End π τ (Except (Option Failure) SocketId)} (h : TriesPlainly r last es w p)
    (hw : Trying w₀ w c last) : Comes w₀ c last es (fun _ => False) p := by
  have hreach (e : Endpoint) : ∀ s (w : World π τ) p c, Reached r e s w p → Tells w₀ w c →
      Adds w₀ c p := fun _ _ _ _ h hw => h.adds hw
  induction h generalizing c with
  | exhausted => exact ⟨c, hw, rfl, fun hnone => ⟨hnone, .inl rfl⟩⟩
  | broken ht =>
    obtain ⟨hfail, hf⟩ := ht.addsOne (hreach _) hw.tells
    exact ⟨_, hfail, rfl, .inr ⟨rfl, hf⟩⟩
  | next ht _ ih =>
    obtain ⟨hfail, hf⟩ := ht.addsOne (hreach _) hw.tells
    exact (ih (hw.next hfail hf)).of_next rfl
  | connected ht => exact ⟨_, ht.addsOne (hreach _) hw.tells, rfl⟩

variable [Duration τ]

/-- When the clock was read last, no time was left for an attempt. -/
def NoTimeLeft (deadline : τ) (c : Course τ) : Prop :=
  ∃ now, c.now = some now ∧ Duration.le (Duration.sub deadline now) Duration.zero = true

theorem Tries.comes {deadline : τ} {last : Option Failure} {es : List Endpoint}
    {p : End π τ (Except (Option Failure) SocketId)} (h : Tries r deadline last es w p)
    (hw : Trying w₀ w c last) : Comes w₀ c last es (NoTimeLeft deadline) p := by
  have hprepare (e : Endpoint) (remaining : τ) : ∀ s (w : World π τ) p c,
      Prepared r e remaining s w p → Tells w₀ w c → Adds w₀ c p := fun _ _ _ _ h hw => h.adds hw
  have hclock {w : World π τ} {c : Course τ} {last : Option Failure} (hw : Trying w₀ w c last) :
      Trying w₀ (w.asked .monotonicClock) { c with now := some w.time } last :=
    ⟨hw.tells.clock, hw.last, hw.os⟩
  induction h generalizing c with
  | exhausted => exact ⟨c, hw, rfl, fun hnone => ⟨hnone, .inl rfl⟩⟩
  | late hl => exact ⟨_, hclock hw, rfl, fun hnone => ⟨hnone, .inr ⟨_, rfl, hl⟩⟩⟩
  | broken _ ht =>
    obtain ⟨hfail, hf⟩ := ht.addsOne (hprepare _ _) (hclock hw).tells
    exact ⟨_, hfail, rfl, .inr ⟨rfl, hf⟩⟩
  | next _ ht _ ih =>
    obtain ⟨hfail, hf⟩ := ht.addsOne (hprepare _ _) (hclock hw).tells
    exact (ih ((hclock hw).next hfail hf)).of_next rfl
  -- the limit stayed on the socket, but it is connected
  | stuck _ ht hb =>
    have hconnected : Tells w₀ _ (Course.succeed _) := ht.addsOne (hprepare _ _) (hclock hw).tells
    exact ⟨_, hconnected.asked hb, rfl, .inl rfl⟩
  | connected _ ht hb =>
    have hconnected : Tells w₀ _ (Course.succeed _) := ht.addsOne (hprepare _ _) (hclock hw).tells
    exact ⟨_, hconnected.asked hb, rfl⟩

/-! ## Failures of opening -/

/-- The time limit can be counted, if there is one. -/
def Counts (τ : Type) [Duration τ] (r : Request) : Prop :=
  r.hasDeadline = true → ∃ limit : τ, Duration.ofValue r.connectTimeout = .ok limit

/-- There was a deadline, and when the clock was read last it had passed, or no time was left for
the first attempt. -/
def Elapsed (r : Request) (w : World π τ) (c : Course τ) : Prop :=
  r.hasDeadline = true ∧ ∃ limit now, Duration.ofValue r.connectTimeout = .ok limit ∧
    c.now = some now ∧ (Duration.le (Duration.add w.time limit) now = true ∨
      c.failures = [] ∧
        Duration.le (Duration.sub (Duration.add w.time limit) now) Duration.zero = true)

/-- What opening can fail with, before it is explained. -/
inductive Raised (r : Request) (w : World π τ) (c : Course τ) : Failure → Prop
  | uncounted {f : Failure} : ¬Counts τ r → c.resolution = none → c.failures = [] →
      Raised r w c f
  | unresolved {f : Failure} : Counts τ r → c.resolution = some (.error f) → c.failures = [] →
      Raised r w c f
  | expired {es : List Endpoint} {f : Failure} : Counts τ r → c.resolution = some (.ok es) →
      (∀ g ∈ c.failures, g.kind.isOs = true) →
      (Elapsed r w c ∨ ∃ g, c.failures.head? = some g ∧ g.kind.isTimeout = true) →
      f.kind = .timeout → Raised r w c f
  | own {es : List Endpoint} {f : Failure} : Counts τ r → c.resolution = some (.ok es) →
      (∀ g ∈ c.failures, g.kind.isOs = true) → c.failures.head? = some f → ¬Elapsed r w c →
      Raised r w c f
  | foreign {es : List Endpoint} {f : Failure} : c.resolution = some (.ok es) →
      c.failures.head? = some f → f.kind.isOs = false → Raised r w c f

omit [Platform π τ] [Duration τ] in
theorem kind_expired (last : Option Failure) : (expired last).kind = .timeout := by
  cases last <;> rfl

theorem GaveUp.raised {limit : τ} {last : Option Failure} {f : Failure} {es : List Endpoint}
    (h : GaveUp (Duration.add w₀.time limit) w last f w') (hd : r.hasDeadline = true)
    (hlimit : Duration.ofValue r.connectTimeout = .ok limit) (hw : Trying w₀ w c last)
    (hres : c.resolution = some (.ok es))
    (hnone : last = none → es = [] ∨ NoTimeLeft (Duration.add w₀.time limit) c) :
    ∃ c', Tells w₀ w' c' ∧ c'.resolution = some (.ok es) ∧ (es ≠ [] → Raised r w₀ c' f) := by
  have hcounts : Counts τ r := fun _ => ⟨limit, hlimit⟩
  have hclock := hw.tells.clock
  cases h with
  | untried =>
    refine ⟨c, hw.tells, hres, fun hes => ?_⟩
    obtain ⟨now, hnow, hlate⟩ := (hnone rfl).resolve_left hes
    have helapsed : Elapsed r w₀ c :=
      ⟨hd, limit, now, hlimit, hnow, .inr ⟨List.head?_eq_none_iff.mp hw.last, hlate⟩⟩
    exact .expired hcounts hres hw.os (.inl helapsed) (kind_expired none)
  | cutOff hf =>
    exact ⟨c, hw.tells, hres, fun _ =>
      .expired hcounts hres hw.os (.inr ⟨_, hw.last, hf⟩) (kind_expired _)⟩
  | elapsed _ hlate =>
    have helapsed : Elapsed r w₀ { c with now := some w.time } :=
      ⟨hd, limit, w.time, hlimit, rfl, .inl hlate⟩
    exact ⟨_, hclock, hres, fun _ =>
      .expired hcounts hres hw.os (.inl helapsed) (kind_expired _)⟩
  | own _ hintime =>
    refine ⟨_, hclock, hres, fun _ => .own hcounts hres hw.os hw.last ?_⟩
    rintro ⟨-, limit', now, hlimit', hnow, hlate⟩
    cases hlimit.symm.trans hlimit'
    cases hnow
    rcases hlate with hlate | ⟨hempty, -⟩
    · exact absurd (hintime.symm.trans hlate) Bool.false_ne_true
    · exact absurd (hw.last.symm.trans (congrArg List.head? hempty)) (by simp)

theorem Within.tells {s : SocketId} (h : Within r w (.ok s w')) :
    ∃ c, Tells w w' c ∧ c.connected = true := by
  cases h with
  | connected _ hr ht => exact ht.comes (((Tells.refl w).clock.asked hr).trying rfl)

/-- What opening a socket within a deadline can fail with, unless it connected or the host has no
address. -/
theorem Within.raised {f : Failure} (h : Within r w (.error f w')) (hd : r.hasDeadline = true) :
    ∃ c, Tells w w' c ∧
      (c.connected = false → c.resolution ≠ some (.ok []) → Raised r w c f) := by
  have hclock := (Tells.refl w).clock
  have hresolved {es : List Endpoint}
      (hr : (w.asked .monotonicClock).reply (.resolve r.host r.port) = Except.ok es) :
      Trying w _ _ none := (hclock.asked hr).trying rfl
  cases h with
  | uncounted hl =>
    refine ⟨_, hclock, fun _ _ => .uncounted (fun hcounts => ?_) rfl rfl⟩
    obtain ⟨limit, hlimit⟩ := hcounts hd
    cases hl.symm.trans hlimit
  | unresolved hl hr =>
    exact ⟨_, hclock.asked hr, fun _ _ => .unresolved (fun _ => ⟨_, hl⟩) rfl rfl⟩
  | broken hl hr ht =>
    obtain ⟨c, htells, hres, hfailed⟩ := ht.comes (hresolved hr)
    refine ⟨c, htells, fun hconnected _ => ?_⟩
    rcases hfailed with hc | ⟨hhead, hf⟩
    · exact absurd (hconnected.symm.trans hc) Bool.false_ne_true
    · exact .foreign hres hhead hf
  | gaveUp hl hr ht hg =>
    obtain ⟨c, htrying, hres, hnone⟩ := ht.comes (hresolved hr)
    obtain ⟨c', htells, hres', hraised⟩ :=
      hg.raised hd hl htrying hres fun hlast => (hnone hlast).2
    refine ⟨c', htells, fun _ hes => hraised fun hempty => hes ?_⟩
    rw [hres', hempty]

omit [Duration τ] in
theorem Created.tells {s : SocketId} (h : Created r w (.ok s w')) :
    ∃ c, Tells w w' c ∧ c.connected = true := by
  cases h with
  | connected hr ht => exact ht.comes (((Tells.refl w).asked hr).trying rfl)

/-- What opening a socket directly can fail with, unless it connected or the host has no address. -/
theorem Created.raised {f : Failure} (h : Created r w (.error f w')) (hd : r.hasDeadline = false) :
    ∃ c, Tells w w' c ∧
      (c.connected = false → c.resolution ≠ some (.ok []) → Raised r w c f) := by
  have hcounts : Counts τ r := fun htrue => absurd (hd.symm.trans htrue) Bool.false_ne_true
  have helapsed (c : Course τ) : ¬Elapsed r w c :=
    fun h => absurd (hd.symm.trans h.1) Bool.false_ne_true
  have hresolved {es : List Endpoint} (hr : w.reply (.resolve r.host r.port) = Except.ok es) :
      Trying w _ _ none := ((Tells.refl w).asked hr).trying rfl
  cases h with
  | unresolved hr => exact ⟨_, (Tells.refl w).asked hr, fun _ _ => .unresolved hcounts rfl rfl⟩
  | broken hr ht =>
    obtain ⟨c, htells, hres, hfailed⟩ := ht.comes (hresolved hr)
    refine ⟨c, htells, fun hconnected _ => ?_⟩
    rcases hfailed with hc | ⟨hhead, hf⟩
    · exact absurd (hconnected.symm.trans hc) Bool.false_ne_true
    · exact .foreign hres hhead hf
  | @failed es last _ hr ht =>
    obtain ⟨c, htrying, hres, hnone⟩ := ht.comes (hresolved hr)
    refine ⟨c, htrying.tells, fun _ hes => ?_⟩
    cases last with
    | none =>
      rcases (hnone rfl).2 with hempty | hlate
      · exact absurd (hres.trans (congrArg (some ∘ Except.ok) hempty)) hes
      · exact hlate.elim
    | some f => exact .own hcounts hres htrying.os htrying.last (helapsed c)

/-! ## Explained failures -/

/-- What a failure is to be counted as. -/
def outcomeOf (kind : FailureKind) : Metrics.Outcome :=
  if kind = .unresolvedHost then .unresolved
  else if kind = .connectTimeout then .timeout
  else .error

/-- A failure to open a socket, from `w` to `w'`, is the one that its course calls for. -/
structure NamesCause (r : Request) (w : World π τ) (c : Course τ) (f : Failure)
    (w' : World π τ) : Prop where
  unresolved : f.kind = .unresolvedHost ↔ ∃ g, c.resolution = some (.error g)
  timedOut : f.kind = .connectTimeout →
    (∃ g ∈ c.failures, g.kind.isTimeout = true) ∨ Elapsed r w c
  own : f.kind ≠ .unresolvedHost → f.kind ≠ .connectTimeout → c.failures.head? = some f
  counted : w'.counters = w.counters.addConnection (outcomeOf f.kind).label

/-- Kinds of failure tell causes apart: resolving fails as it does, attempts fail as operating
systems do, and the last one, unless time ran out, does not fail as resolving does. -/
structure Explicable (r : Request) (w : World π τ) (c : Course τ) : Prop where
  limit : Counts τ r
  resolver : ∀ g, c.resolution = some (.error g) → g.kind = .addressInfo
  attempts : ∀ g ∈ c.failures, g.kind.isOs = true
  last : ∀ g, c.failures.head? = some g → g.kind.isTimeout = false → ¬Elapsed r w c →
    g.kind ≠ .addressInfo ∧ g.kind ≠ .unresolvedHost

section

omit [Platform π τ] [Duration τ]

variable {f : Failure}

theorem explained_addressInfo (r : Request) (hf : f.kind = .addressInfo) :
    (explained r f).kind = .unresolvedHost ∧ outcome? f = some .unresolved := by
  constructor
  · rw [explained, if_pos hf]
    rfl
  · rw [outcome?, if_pos hf]

theorem explained_timeout (r : Request) (hf : f.kind.isTimeout = true) :
    (explained r f).kind = .connectTimeout ∧ outcome? f = some .timeout := by
  have hne : f.kind ≠ .addressInfo := by
    intro heq
    rw [heq] at hf
    exact absurd hf (by decide)
  constructor
  · rw [explained, if_neg hne, if_pos hf]
    rfl
  · rw [outcome?, if_neg hne, if_pos hf]

theorem explained_own (r : Request) (hf : f.kind ≠ .addressInfo) (ht : f.kind.isTimeout = false) :
    explained r f = f := by
  simp [explained, hf, ht]

theorem outcome?_own (hf : f.kind ≠ .addressInfo) (ht : f.kind.isTimeout = false) :
    outcome? f = if f.kind.isOs then some .error else none := by
  simp [outcome?, hf, ht]

/-- Failures that are not the operating system's pass as they are and are not counted. -/
theorem outcome?_of_not_isOs (hf : f.kind.isOs = false) : outcome? f = none := by
  have ha : f.kind ≠ .addressInfo := by
    intro heq
    rw [heq] at hf
    exact absurd hf (by decide)
  have ht : f.kind.isTimeout = false := by
    rw [Bool.eq_false_iff]
    intro htimeout
    rw [FailureKind.isOs_of_isTimeout htimeout] at hf
    cases hf
  rw [outcome?_own ha ht, hf]
  rfl

theorem ne_connectTimeout (ht : f.kind.isTimeout = false) : f.kind ≠ .connectTimeout := by
  intro heq
  rw [heq] at ht
  exact absurd ht (by decide)

theorem counters_tallied (f : Failure) (w : World π τ) :
    (tallied f w).counters =
      match outcome? f with
      | some o => w.counters.addConnection o.label
      | none => w.counters := by
  unfold tallied
  cases outcome? f <;> rfl

/-- Counting one outcome is not counting another, nor none. -/
theorem addConnection_ne (c : Metrics.Counters) {label other : String} (h : label ≠ other) :
    c.addConnection label ≠ c.addConnection other := by
  intro heq
  have hcount := congrArg (fun x => x.connections.count label) heq
  simp only [Metrics.Counters.addConnection, Metrics.Samples.count_add_self,
    Metrics.Samples.count_add_of_ne _ h] at hcount
  omega

theorem ne_addConnection (c : Metrics.Counters) (label : String) : c ≠ c.addConnection label := by
  intro heq
  have hcount := congrArg (fun x => x.connections.count label) heq
  simp only [Metrics.Counters.addConnection, Metrics.Samples.count_add_self] at hcount
  omega

end

/-- Resolving the host failed: this is told if it failed as resolving does, and only then. -/
theorem namesCause_unresolved_iff {f : Failure} (hlimit : Counts τ r)
    (hres : c.resolution = some (.error f)) (hfailures : c.failures = [])
    (hw : w'.counters = (tallied f w).counters) :
    NamesCause r w c (explained r f) w' ↔ Explicable r w c := by
  rw [counters_tallied] at hw
  constructor
  · intro hn
    have hkind := hn.unresolved.mpr ⟨f, hres⟩
    by_cases hf : f.kind = .addressInfo
    · refine ⟨hlimit, fun g hg => ?_, by simp [hfailures], by simp [hfailures]⟩
      cases hres.symm.trans hg
      exact hf
    · exfalso
      cases ht : f.kind.isTimeout with
      | true => exact absurd ((explained_timeout r ht).1.symm.trans hkind) (by simp)
      | false =>
        have heq := explained_own r hf ht
        rw [heq] at hkind
        have hcounted := hn.counted
        rw [heq, hw, outcome?_own hf ht, hkind] at hcounted
        exact addConnection_ne _ (by decide) hcounted
  · intro he
    obtain ⟨hkind, hout⟩ := explained_addressInfo r (he.resolver f hres)
    refine ⟨⟨fun _ => ⟨f, hres⟩, fun _ => hkind⟩, fun ht => ?_, fun hne => absurd hkind hne, ?_⟩
    · exact absurd (hkind.symm.trans ht) (by simp)
    · rw [hw, hout, hkind]
      rfl

/-- An attempt ended with the failure of the last address. -/
theorem namesCause_own_iff {f : Failure} {es : List Endpoint} (hlimit : Counts τ r)
    (hres : c.resolution = some (.ok es)) (hos : ∀ g ∈ c.failures, g.kind.isOs = true)
    (hlast : c.failures.head? = some f) (helapsed : ¬Elapsed r w c)
    (hw : w'.counters = (tallied f w).counters) :
    NamesCause r w c (explained r f) w' ↔ Explicable r w c := by
  rw [counters_tallied] at hw
  have hresolved : ¬∃ g, c.resolution = some (.error g) := by
    rintro ⟨g, hg⟩
    cases hres.symm.trans hg
  have hmem : f ∈ c.failures := List.mem_of_mem_head? hlast
  constructor
  · intro hn
    have hkind : (explained r f).kind ≠ .unresolvedHost := fun h => hresolved (hn.unresolved.mp h)
    refine ⟨hlimit, fun g hg => absurd ⟨g, hg⟩ hresolved, hos, fun g hg ht _ => ?_⟩
    cases hlast.symm.trans hg
    have hf : f.kind ≠ .addressInfo := fun hf => hkind (explained_addressInfo r hf).1
    rw [explained_own r hf ht] at hkind
    exact ⟨hf, hkind⟩
  · intro he
    cases ht : f.kind.isTimeout with
    | true =>
      obtain ⟨hkind, hout⟩ := explained_timeout r ht
      refine ⟨⟨fun h => ?_, fun h => absurd h hresolved⟩, fun _ => .inl ⟨f, hmem, ht⟩,
        fun _ hne => absurd hkind hne, ?_⟩
      · exact absurd (hkind.symm.trans h) (by simp)
      · rw [hw, hout, hkind]
        rfl
    | false =>
      obtain ⟨hf, hne⟩ := he.last f hlast ht helapsed
      rw [explained_own r hf ht]
      refine ⟨⟨fun h => absurd h hne, fun h => absurd h hresolved⟩,
        fun h => absurd h (ne_connectTimeout ht), fun _ _ => hlast, ?_⟩
      rw [hw, outcome?_own hf ht, hos f hmem, outcomeOf, if_neg hne, if_neg (ne_connectTimeout ht)]
      rfl

/-- Time ran out: this is told. -/
theorem namesCause_expired_iff {f : Failure} {es : List Endpoint} (hlimit : Counts τ r)
    (hres : c.resolution = some (.ok es)) (hos : ∀ g ∈ c.failures, g.kind.isOs = true)
    (hlate : Elapsed r w c ∨ ∃ g, c.failures.head? = some g ∧ g.kind.isTimeout = true)
    (hf : f.kind = .timeout) (hw : w'.counters = (tallied f w).counters) :
    NamesCause r w c (explained r f) w' ↔ Explicable r w c := by
  rw [counters_tallied] at hw
  have hresolved : ¬∃ g, c.resolution = some (.error g) := by
    rintro ⟨g, hg⟩
    cases hres.symm.trans hg
  obtain ⟨hkind, hout⟩ := explained_timeout r (f := f) (by rw [hf]; rfl)
  constructor
  · intro _
    refine ⟨hlimit, fun g hg => absurd ⟨g, hg⟩ hresolved, hos, fun g hg ht hne => ?_⟩
    rcases hlate with helapsed | ⟨g', hg', ht'⟩
    · exact absurd helapsed hne
    · cases hg.symm.trans hg'
      exact absurd (ht.symm.trans ht') Bool.false_ne_true
  · intro _
    refine ⟨⟨fun h => ?_, fun h => absurd h hresolved⟩, fun _ => ?_,
      fun _ hne => absurd hkind hne, ?_⟩
    · exact absurd (hkind.symm.trans h) (by simp)
    · rcases hlate with helapsed | ⟨g, hg, ht⟩
      · exact .inr helapsed
      · exact .inl ⟨g, List.mem_of_mem_head? hg, ht⟩
    · rw [hw, hout, hkind]
      rfl

/-- Whatever opening failed with, its explanation names the cause if and only if kinds tell causes
apart. -/
theorem Raised.namesCause_iff {f : Failure} (h : Raised r w c f)
    (hw : w'.counters = (tallied f w).counters) :
    NamesCause r w c (explained r f) w' ↔ Explicable r w c := by
  cases h with
  | unresolved hlimit hres hfailures => exact namesCause_unresolved_iff hlimit hres hfailures hw
  | own hlimit hres hos hlast helapsed =>
    exact namesCause_own_iff hlimit hres hos hlast helapsed hw
  | uncounted hlimit hres hfailures =>
    refine ⟨fun hn => ?_, fun he => absurd he.limit hlimit⟩
    exfalso
    by_cases hu : (explained r f).kind = .unresolvedHost
    · obtain ⟨g, hg⟩ := hn.unresolved.mp hu
      cases hres.symm.trans hg
    · by_cases ht : (explained r f).kind = .connectTimeout
      · rcases hn.timedOut ht with ⟨g, hg, -⟩ | ⟨-, limit, -, hl, -⟩
        · rw [hfailures] at hg
          cases hg
        · exact hlimit fun _ => ⟨limit, hl⟩
      · have hown := hn.own hu ht
        rw [hfailures] at hown
        cases hown
  | expired hlimit hres hos hlate hf =>
    exact namesCause_expired_iff hlimit hres hos hlate hf hw
  | foreign hres hlast hf =>
    rw [counters_tallied, outcome?_of_not_isOs hf] at hw
    refine ⟨fun hn => ?_, fun he => ?_⟩
    · exact absurd (hw.symm.trans hn.counted) (ne_addConnection _ _)
    · exact absurd (hf.symm.trans (he.attempts f (List.mem_of_mem_head? hlast))) (by simp)

/-! ## Connecting -/

/-- Opening a socket, written out in calls for single addresses. -/
def opening (r : Request) : Action π τ SocketId :=
  if r.hasDeadline then connectWithinDeadline r else createConnection r

/-- What the opening of a socket comes to from a world on. -/
def course (r : Request) (w : World π τ) : Course τ :=
  (w.since ((opening r).after w)).foldr Course.add .start

theorem Tells.course_eq (h : Tells w ((opening r).after w) c) : course r w = c :=
  h.sums.foldr_since

theorem course_of_ok {s : SocketId} (h : opening r w = .ok s w') :
    (course r w).connected = true := by
  have htells : ∃ c, Tells w w' c ∧ c.connected = true := by
    unfold opening at h
    split at h
    · have hwithin := connectWithinDeadline_within r w
      rw [h] at hwithin
      exact hwithin.tells
    · have hcreated := createConnection_created r w
      rw [h] at hcreated
      exact hcreated.tells
  obtain ⟨c, hc, hconnected⟩ := htells
  rw [← Action.after_of_ok h] at hc
  rw [hc.course_eq, hconnected]

theorem course_of_error {f : Failure} (h : opening r w = .error f w') :
    w'.counters = w.counters ∧ ((course r w).connected = false →
      (course r w).resolution ≠ some (.ok []) → Raised r w (course r w) f) := by
  have htells : ∃ c, Tells w w' c ∧
      (c.connected = false → c.resolution ≠ some (.ok []) → Raised r w c f) := by
    unfold opening at h
    cases hd : r.hasDeadline with
    | true =>
      rw [hd, if_pos rfl] at h
      have hwithin := connectWithinDeadline_within r w
      rw [h] at hwithin
      exact hwithin.raised hd
    | false =>
      rw [hd, if_neg Bool.false_ne_true] at h
      have hcreated := createConnection_created r w
      rw [h] at hcreated
      exact hcreated.raised hd
  obtain ⟨c, hc, hraised⟩ := htells
  refine ⟨hc.counters, ?_⟩
  rw [← Action.after_of_error h] at hc
  rw [hc.course_eq]
  exact hraised

/-- If the platform opens sockets directly as documented, opening ends as written out. -/
theorem openRaw_ends (hdirect : r.hasDeadline = false → OpensPlainly r w) :
    match (openRaw r : Action π τ SocketId) w with
    | .ok _ _ => ∃ s u, opening r w = .ok s u
    | .error f v => v.counters = w.counters ∧ ∃ u, opening r w = .error f u := by
  unfold openRaw opening
  cases hd : r.hasDeadline with
  | true =>
    rw [if_pos rfl, if_pos rfl]
    cases hc : (connectWithinDeadline r : Action π τ SocketId) w with
    | ok s u => exact ⟨s, u, rfl⟩
    | error f u =>
      have hopening : opening r w = .error f u := by rw [opening, hd, if_pos rfl, hc]
      exact ⟨(course_of_error hopening).1, u, rfl⟩
  | false =>
    have hplainly := hdirect hd
    unfold OpensPlainly at hplainly
    rw [if_neg Bool.false_ne_true, if_neg Bool.false_ne_true, connectDirectly_eq, hplainly]
    cases hc : createConnection r w with
    | ok s u => exact ⟨s, u, rfl⟩
    | error f u => exact ⟨rfl, u, rfl⟩

/-- A connection that fails before there is a TCP connection names its cause if kinds tell causes
apart, and only then: within a deadline and without, for every way in which resolving and the
attempts at the addresses end. -/
theorem namesCause_iff_explicable (context : Tls.Context) (r : Request) (handshake : Bool)
    {w w' : World π τ} {f : Failure} (hdirect : r.hasDeadline = false → OpensPlainly r w)
    (hfail : connect context r handshake w = .error f w')
    (hbefore : (course r w).connected = false)
    (haddresses : (course r w).resolution ≠ some (.ok [])) :
    NamesCause r w (course r w) f w' ↔ Explicable r w (course r w) := by
  have hends := openRaw_ends hdirect
  have hopened : ∀ s u, openSocket r w ≠ .ok s u := by
    intro s u ho
    rw [openSocket_eq] at ho
    cases hraw : (openRaw r : Action π τ SocketId) w with
    | error g v =>
      rw [hraw] at ho
      cases ho
    | ok s v =>
      rw [hraw] at hends
      obtain ⟨s', u', hopening⟩ := hends
      exact absurd (hbefore.symm.trans (course_of_ok hopening)) Bool.false_ne_true
  have hconnects := connect_connects context r handshake w
  rw [hfail] at hconnects
  cases hconnects with
  | failed ho _ => exact absurd ho (hopened _ _)
  | unread ho _ _ => exact absurd ho (hopened _ _)
  | unopened ho =>
    rw [openSocket_eq] at ho
    cases hraw : (openRaw r : Action π τ SocketId) w with
    | ok s v =>
      rw [hraw] at ho
      cases ho
    | error g v =>
      rw [hraw] at ho hends
      cases ho
      obtain ⟨hcounters, u, hopening⟩ := hends
      have hraised := (course_of_error hopening).2 hbefore haddresses
      refine hraised.namesCause_iff ?_
      rw [counters_tallied, counters_tallied, hcounters]

/-- The failure of resolving a name that nobody knows. -/
def noName : Failure := .mk .addressInfo [.int (-2), .text "Name or service not known"] none

/-- The host has no address. -/
def nameless : Rehearsal.NetScript := ⟨⟨0.0, some noName, []⟩, [], some noName⟩

/-- Without a deadline, and with a host that nobody knows. -/
theorem namesCause_nameless :
    let r := toHost .null (.int 0)
    let w := staged nameless
    (r.hasDeadline = false → OpensPlainly r w) ∧
      ∃ f w', connect unverified r true w = .error f w' ∧ (course r w).connected = false ∧
        (course r w).resolution ≠ some (.ok []) ∧ NamesCause r w (course r w) f w' := by
  intro r w
  have hdirect : r.hasDeadline = false → OpensPlainly r w := fun _ => rfl
  have hres : (course r w).resolution = some (.error noName) := rfl
  have haddresses : (course r w).resolution ≠ some (.ok []) := by
    rw [hres]
    simp
  have hexplicable : Explicable r w (course r w) := by
    refine ⟨fun hd => absurd hd (by decide), fun g hg => ?_, fun g hg => ?_, fun g hg => ?_⟩
    · cases hres.symm.trans hg
      rfl
    · cases hg
    · cases hg
  refine ⟨hdirect, _, _, rfl, rfl, haddresses, ?_⟩
  exact (namesCause_iff_explicable unverified r true hdirect rfl rfl haddresses).mpr hexplicable

/-- The host has an address, but the name of the local address is one that nobody knows. -/
def namelessHere : Rehearsal.NetScript where
  resolve := ⟨0.0, none, [⟨2, 6, .text "192.0.2.1"⟩]⟩
  sockets := [{ Rehearsal.SocketScript.plain with bindFailure := some noName }]
  directFailure := none

/-- The host is said to be unresolved. -/
example : ((connect unverified (toHost (.text "here") (.float 5.0)) true).after
    (staged namelessHere)).counters.connections = [("unresolved", 1)] := by
  decide +kernel

end TrustGate.Connection
