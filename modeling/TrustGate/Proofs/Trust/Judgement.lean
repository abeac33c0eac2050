import TrustGate.Proofs.Certificate.Faults
import TrustGate.Proofs.Footprint

/-!
# What the check of a chain comes to

A check accepts a chain, rejects it, or fails in another way and decides nothing.  Which of the
three it is does not depend on what it does on the way, only on what it reads and is answered:

    judgement r                   what the end `r` of a check comes to
    v.onAnchor, v.onIssued, v.onChain
                                  what the steps of a check come to, without the steps
    judgement_checkAnchor, judgement_checkIssued, judgement_check
                                  that this is what they come to
    s.Unbindable f, v.IsUntimely w
                                  why no verifier can be built    (buildVerifier_eq_error_iff)
-/

namespace TrustGate

/-! ## Names -/

namespace Net.Subject

/-- A host has no subject if it is no address and not ASCII either. -/
theorem ofHost_eq_error_iff {host : String} {f : Failure} :
    ofHost host = .error f ↔ IpAddress.read? host = none ∧
      (∃ c ∈ host.toList, 128 ≤ c.toNat) ∧ f = Failure.of NameFault.notAscii := by
  unfold ofHost ofDnsName
  cases hread : IpAddress.read? host with
  | some ip => simp
  | none =>
    simp only [true_and]
    by_cases hascii : host.toList.all (·.toNat < 128) = true
    · rw [if_pos hascii]
      constructor
      · intro h
        cases h
      · rintro ⟨⟨c, hc, hbeyond⟩, -⟩
        have hbelow := List.all_eq_true.mp hascii c hc
        simp only [decide_eq_true_eq] at hbelow
        omega
    · rw [if_neg hascii]
      constructor
      · intro h
        cases h
        simp only [List.all_eq_true, decide_eq_true_eq, not_forall, Nat.not_lt] at hascii
        obtain ⟨c, hc, hbeyond⟩ := hascii
        exact ⟨⟨c, hc, hbeyond⟩, rfl⟩
      · rintro ⟨-, rfl⟩
        rfl

theorem ofHost_failsAs (host : String) : FailsAs (·.kind = .value) (ofHost host) := by
  intro f hf
  rw [(ofHost_eq_error_iff.mp hf).2.2]
  rfl

/-- No verifier can be bound to the subject. -/
inductive Unbindable : Subject → Failure → Prop where
  | name {name : String} (h : isDomainName name = false) :
      Unbindable (.dns name) (Failure.of NameFault.invalidDomainName)
  | network {ip : IpAddress} {length : Nat} :
      Unbindable (.network ip length) (Failure.of NameFault.invalidAddress)

theorem bind_eq_error_iff {s : Subject} {f : Failure} : s.bind = .error f ↔ s.Unbindable f := by
  constructor
  · intro h
    cases s with
    | dns name =>
      cases hname : isDomainName name with
      | false =>
        simp only [bind, hname] at h
        cases h
        exact .name hname
      | true =>
        simp only [bind, hname, if_true] at h
        cases h
    | address ip => cases h
    | network ip length =>
      cases h
      exact .network
  · intro h
    cases h with
    | name hname =>
      simp only [bind, hname]
      rfl
    | network => rfl

theorem bind_failsAs (s : Subject) : FailsAs (·.kind = .value) s.bind := by
  intro f hf
  cases bind_eq_error_iff.mp hf <;> rfl

end Net.Subject

/-! ## Validity -/

namespace Certificate

/-- Both ends of the validity are times of the calendar, and the time is not beyond them. -/
structure ValidAt (c : Certificate) (t : Time.DateTime) : Prop where
  begins : c.notBefore.date.year ≠ 0
  aware : t.offset ≠ none
  notBefore : c.notBefore.epochMicros ≤ t.epochMicros
  ends : c.notAfter.date.year ≠ 0
  notAfter : t.epochMicros ≤ c.notAfter.epochMicros

/-- The validity cannot be compared with the time.  Its second end does not matter before the
first. -/
inductive Incomparable (c : Certificate) (t : Time.DateTime) : Failure → Prop where
  | begins (h : c.notBefore.date.year = 0) :
      Incomparable c t (CertificateFault.yearOutOfRange 0).failure
  | offsetless (h : c.notBefore.date.year ≠ 0) (ht : t.offset = none) :
      Incomparable c t (Failure.of Trust.TimeFault.offsetless)
  | ends (h : c.notBefore.date.year ≠ 0) (ht : t.offset ≠ none)
      (hbefore : c.notBefore.epochMicros ≤ t.epochMicros) (hafter : c.notAfter.date.year = 0) :
      Incomparable c t (CertificateFault.yearOutOfRange 0).failure

theorem Incomparable.ne_certificateRejected {c : Certificate} {t : Time.DateTime} {f : Failure}
    (h : c.Incomparable t f) : f.kind ≠ .certificateRejected := by
  cases h <;> exact FailureKind.noConfusion

end Certificate

namespace Trust

namespace ChainValidator

theorem isValidAt_eq (leaf : Certificate) (t : Time.DateTime) :
    isValidAt leaf t =
      if leaf.notBefore.date.year = 0 then Certificate.faulty (.yearOutOfRange 0)
      else if t.offset = none then TrustGate.refuse TimeFault.offsetless
      else if t.epochMicros < leaf.notBefore.epochMicros then .ok false
      else if leaf.notAfter.date.year = 0 then Certificate.faulty (.yearOutOfRange 0)
      else .ok (decide (t.epochMicros ≤ leaf.notAfter.epochMicros)) := by
  unfold isValidAt Certificate.inCalendar
  by_cases hb : leaf.notBefore.date.year = 0
  · rw [if_pos hb, if_pos hb]
    rfl
  · rw [if_neg hb, if_neg hb]
    by_cases ht : t.offset = none
    · rw [if_pos ht, ht]
      rfl
    · rw [if_neg ht]
      simp only [Option.isNone_iff_eq_none, ht]
      change (if t.epochMicros < leaf.notBefore.epochMicros then pure false else _) = _
      split
      · rfl
      · split <;> rfl

theorem isValidAt_eq_true_iff {leaf : Certificate} {t : Time.DateTime} :
    isValidAt leaf t = .ok true ↔ leaf.ValidAt t := by
  rw [isValidAt_eq]
  constructor
  · intro h
    split at h
    · cases h
    · next hb =>
      split at h
      · cases h
      · next ht =>
        split at h
        · cases h
        · next hbefore =>
          split at h
          · cases h
          · next he =>
            simp only [Except.ok.injEq, decide_eq_true_eq] at h
            exact ⟨hb, ht, Int.not_lt.mp hbefore, he, h⟩
  · intro h
    rw [if_neg h.begins, if_neg h.aware, if_neg (Int.not_lt.mpr h.notBefore),
      if_neg h.ends, decide_eq_true h.notAfter]

theorem isValidAt_eq_error_iff {leaf : Certificate} {t : Time.DateTime} {f : Failure} :
    isValidAt leaf t = .error f ↔ leaf.Incomparable t f := by
  rw [isValidAt_eq]
  constructor
  · intro h
    split at h
    · next hb =>
      cases h
      exact .begins hb
    · next hb =>
      split at h
      · next ht =>
        cases h
        exact .offsetless hb ht
      · next ht =>
        split at h
        · cases h
        · next hbefore =>
          split at h
          · next he =>
            cases h
            exact .ends hb ht (Int.not_lt.mp hbefore) he
          · cases h
  · intro h
    cases h with
    | begins hb =>
      rw [if_pos hb]
      rfl
    | offsetless hb ht =>
      rw [if_neg hb, if_pos ht]
      rfl
    | ends hb ht hbefore he =>
      rw [if_neg hb, if_neg ht, if_neg (Int.not_lt.mpr hbefore), if_pos he]
      rfl

end ChainValidator

/-! ## What a check comes to -/

inductive Judgement where
  | accepts
  | rejects
  /-- The check fails, but the chain is not rejected. -/
  | fails (f : Failure)

variable {π τ α : Type}

/-- What the end of a check comes to. -/
def judgement : EStateM.Result Failure (World π τ) Unit → Judgement
  | .ok _ _ => .accepts
  | .error f _ => if f.kind = .certificateRejected then .rejects else .fails f

theorem judgement_eq_accepts_iff {r : EStateM.Result Failure (World π τ) Unit} :
    judgement r = .accepts ↔ ∃ w, r = .ok () w := by
  unfold judgement
  cases r with
  | ok _ w => exact ⟨fun _ => ⟨w, rfl⟩, fun _ => rfl⟩
  | error f w =>
    constructor
    · intro h
      simp only [] at h
      split at h <;> cases h
    · rintro ⟨w', h⟩
      cases h

theorem judgement_eq_fails_iff {r : EStateM.Result Failure (World π τ) Unit} {f : Failure} :
    judgement r = .fails f ↔ ∃ w, r = .error f w ∧ f.kind ≠ .certificateRejected := by
  unfold judgement
  cases r with
  | ok _ w =>
    constructor
    · intro h
      cases h
    · rintro ⟨w', h, -⟩
      cases h
  | error g w =>
    simp only []
    constructor
    · intro h
      split at h
      · cases h
      · next hg =>
        cases h
        exact ⟨w, rfl, hg⟩
    · rintro ⟨w', h, hf⟩
      cases h
      rw [if_neg hf]

namespace Judgement

/-- The judgement on what was read, if it could be read. -/
def onRead (r : Except Failure α) (judge : α → Judgement) : Judgement :=
  match r with
  | .ok x => judge x
  | .error f => .fails f

@[simp] theorem onRead_ok (x : α) (judge : α → Judgement) : onRead (.ok x) judge = judge x := rfl

@[simp] theorem onRead_error (f : Failure) (judge : α → Judgement) :
    onRead (.error f) judge = fails f := rfl

theorem onRead_eq_accepts_iff {r : Except Failure α} {judge : α → Judgement} :
    onRead r judge = .accepts ↔ ∃ x, r = .ok x ∧ judge x = .accepts := by
  unfold onRead
  cases r with
  | ok x => simp
  | error f => simp

theorem onRead_eq_fails_iff {r : Except Failure α} {judge : α → Judgement} {f : Failure} :
    onRead r judge = .fails f ↔ r = .error f ∨ ∃ x, r = .ok x ∧ judge x = .fails f := by
  unfold onRead
  cases r with
  | ok x => simp
  | error g => simp

/-- A verifier accepts a chain or refuses it. -/
def ofVerdict : Verdict → Judgement
  | .accepted => accepts
  | .refused _ => rejects

theorem ofVerdict_eq_accepts_iff {verdict : Verdict} :
    ofVerdict verdict = accepts ↔ verdict = .accepted := by
  cases verdict <;> simp [ofVerdict]

theorem ofVerdict_ne_fails (verdict : Verdict) (f : Failure) : ofVerdict verdict ≠ fails f := by
  cases verdict <;> simp [ofVerdict]

end Judgement

/-- A failure that is no rejection. -/
def IsOther (f : Failure) : Prop := f.kind ≠ .certificateRejected

theorem isOther_of_isFault {f : Failure} (h : Certificate.IsFault f) : IsOther f :=
  h.ne_certificateRejected

theorem isOther_of_value {f : Failure} (h : f.kind = .value) : IsOther f := by
  rw [IsOther, h]
  exact FailureKind.noConfusion

theorem judgement_ofExcept_bind {r : Except Failure α} (hr : FailsAs IsOther r)
    (k : α → Action π τ Unit) (w : World π τ) :
    judgement ((Action.ofExcept r >>= k) w) = .onRead r fun x => judgement (k x w) := by
  cases r with
  | ok x => rfl
  | error f => exact if_neg (hr f rfl)

theorem judgement_map_bind {β : Type} {r : Except Failure α} (hr : FailsAs IsOther r) (g : α → β)
    (k : β → Action π τ Unit) (w : World π τ) :
    judgement (((g <$> Action.ofExcept r) >>= k) w) = .onRead r fun x => judgement (k (g x) w) := by
  cases r with
  | ok x => rfl
  | error f => exact if_neg (hr f rfl)

namespace ChainValidator

open Net (Subject)

variable [Platform π τ] (v : ChainValidator) (w : World π τ)

/-! ## The time -/

/-- The time by the clock that the validator goes by. -/
def present : Time.DateTime :=
  match v.clock with
  | some number => w.reply (.customClock number)
  | none => w.reply .wallClock

/-- The world in which that clock has been read. -/
def timed : World π τ :=
  match v.clock with
  | some number => w.asked (.customClock number)
  | none => w.asked .wallClock

theorem now_eq : (v.now : Action π τ Time.DateTime) w = .ok (v.present w) (v.timed w) := by
  unfold now present timed
  cases v.clock <;> rfl

/-! ## A leaf that is an anchor -/

theorem isAnchor_iff {leaf : Certificate} :
    v.isAnchor leaf = true ↔ ∃ a ∈ v.anchors, a.octets = leaf.octets := by
  unfold isAnchor Certificate.same
  simp [List.any_eq_true]

/-- The judgement on a leaf that is an anchor. -/
def onAnchor (leaf : Certificate) (subject : Option Subject) (now : Time.DateTime) : Judgement :=
  .onRead (isValidAt leaf now) fun valid =>
    if !valid then .rejects
    else
      match v.checkHostname, subject with
      | true, some s => .onRead leaf.leafNames fun names =>
          if !Net.matchesAny names s then .rejects else .accepts
      | _, _ => .accepts

theorem judgement_checkAnchor (leaf : Certificate) (subject : Option Subject) (target : String) :
    judgement (v.checkAnchor leaf subject target w) = v.onAnchor leaf subject (v.present w) := by
  have hvalid : FailsAs IsOther (isValidAt leaf (v.present w)) := by
    intro f hf
    exact (isValidAt_eq_error_iff.mp hf).ne_certificateRejected
  unfold checkAnchor onAnchor
  rw [Action.bind_of_ok (v.now_eq w), judgement_ofExcept_bind hvalid]
  congr 1
  funext valid
  cases valid with
  | false => rfl
  | true =>
    simp only [Bool.not_true, Bool.false_eq_true, if_false]
    cases v.checkHostname with
    | false => rfl
    | true =>
      cases subject with
      | none => rfl
      | some s =>
        simp only []
        rw [judgement_ofExcept_bind (leaf.leafNames_faults.mono fun _ => isOther_of_isFault)]
        congr 1
        funext names
        cases Net.matchesAny names s <;> rfl

/-! ## A leaf that is issued -/

/-- The world in which a verifier is asked: a clock of the validator's own has been read. -/
def prepared : World π τ := if v.clock.isSome then v.timed w else w

/-- What a verifier that is bound to a subject is asked. -/
def question (leaf : Certificate) (rest : List Certificate) (s : Subject) : Verification :=
  ⟨v.anchors, v.clock.map fun _ => v.present w, s, leaf, rest.filter fun c => !v.isAnchor c⟩

/-- Builds a verifier: a clock of the validator's own has to show a time of the calendar, and
the subject has to be one that a verifier can be bound to. -/
def buildVerifier (s : Subject) : Except Failure Unit := do
  if v.clock.isSome then discard (inUniversal (v.present w))
  s.bind

/-- A clock of the validator's own shows an instant that the calendar of universal time does not
have. -/
def IsUntimely : Prop :=
  v.clock.isSome ∧ ∃ year, Time.DateTime.ofEpochMicros (v.present w).epochMicros = .error year

theorem inUniversal_eq (t : Time.DateTime) :
    inUniversal t = .ok t ∨ inUniversal t = .error (Failure.of TimeFault.outOfCalendar) := by
  unfold inUniversal
  split
  · exact .inl rfl
  · exact .inr rfl

theorem buildVerifier_of_isUntimely {s : Subject} (h : v.IsUntimely w) :
    v.buildVerifier w s = .error (Failure.of TimeFault.outOfCalendar) := by
  obtain ⟨hclock, year, hyear⟩ := h
  unfold buildVerifier inUniversal
  rw [hclock, hyear]
  rfl

theorem buildVerifier_of_not_isUntimely {s : Subject} (h : ¬v.IsUntimely w) :
    v.buildVerifier w s = s.bind := by
  unfold buildVerifier inUniversal
  cases hclock : v.clock.isSome with
  | false => rfl
  | true =>
    cases hyear : Time.DateTime.ofEpochMicros (v.present w).epochMicros with
    | error year => exact absurd ⟨hclock, year, hyear⟩ h
    | ok t => rfl

theorem buildVerifier_eq_error_iff {s : Subject} {f : Failure} :
    v.buildVerifier w s = .error f ↔
      v.IsUntimely w ∧ f = Failure.of TimeFault.outOfCalendar ∨
        ¬v.IsUntimely w ∧ s.Unbindable f := by
  by_cases h : v.IsUntimely w
  · rw [v.buildVerifier_of_isUntimely w h]
    simp [h, eq_comm]
  · rw [v.buildVerifier_of_not_isUntimely w h, Subject.bind_eq_error_iff]
    simp [h]

/-- The judgement on a leaf that is no anchor, with the rest of its chain. -/
def onIssued (leaf : Certificate) (rest : List Certificate) (s : Subject) : Judgement :=
  .onRead (v.buildVerifier w s) fun _ =>
    .ofVerdict ((v.prepared w).reply (.verify (v.question w leaf rest s)))

/-- A verifier is bound and asked, and its verdict settles the check. -/
theorem judgement_settle (s : Subject) (q : Verification)
    {settle : Reply (.verify q : Call τ) → Action π τ Unit}
    (haccepted : ∀ u, judgement (settle .accepted u) = .accepts)
    (hrefused : ∀ reason u, judgement (settle (.refused reason) u) = .rejects) :
    judgement ((Action.ofExcept s.bind >>= fun _ => ask (.verify q) >>= settle) w) =
      .onRead s.bind fun _ => .ofVerdict (w.reply (.verify q)) := by
  rw [judgement_ofExcept_bind (s.bind_failsAs.mono fun _ => isOther_of_value)]
  congr 1
  funext _
  rw [Action.bind_of_ok (w.ask_asked _)]
  cases w.reply (.verify q) with
  | accepted => exact haccepted _
  | refused reason => exact hrefused reason _

theorem judgement_checkIssued (leaf : Certificate) (rest : List Certificate) (s : Subject)
    (target authType : String) :
    judgement (v.checkIssued leaf rest s target authType w) = v.onIssued w leaf rest s := by
  unfold checkIssued onIssued question prepared buildVerifier
  cases v.clock with
  | none =>
    simp only []
    rw [Action.bind_of_ok (show (pure none : Action π τ (Option Time.DateTime)) w = _ from rfl)]
    refine (judgement_settle w s _ ?_ ?_).trans ?_
    · exact fun _ => rfl
    · exact fun _ _ => rfl
    · rfl
  | some n =>
    -- the clock is read before the subject is bound, so what it shows may end the check first
    simp only [Option.isSome_some, if_true]
    have hread := Action.bind_of_ok (v.now_eq w) fun t => Action.ofExcept (inUniversal t)
    rcases inUniversal_eq (v.present w) with ht | ht
    · have htime : (some <$> do Action.ofExcept (inUniversal (← v.now)) : Action π τ _) w =
          .ok (some (v.present w)) (v.timed w) := by
        rw [Action.map_eq, hread, ht]
        rfl
      rw [ht, Action.bind_of_ok htime]
      refine (judgement_settle (v.timed w) s _ ?_ ?_).trans ?_
      · exact fun _ => rfl
      · exact fun _ _ => rfl
      · rfl
    · have hfault : (some <$> do Action.ofExcept (inUniversal (← v.now)) : Action π τ _) w =
          .error (Failure.of TimeFault.outOfCalendar) (v.timed w) := by
        rw [Action.map_eq, hread, ht]
        rfl
      rw [ht, Action.bind_of_error hfault]
      rfl

/-! ## A chain -/

/-- The judgement on a chain whose leaf has to carry the name of a subject, if there is one. -/
def onLeaf (leaf : Certificate) (rest : List Certificate) (subject : Option Subject) : Judgement :=
  if v.isAnchor leaf then v.onAnchor leaf subject (v.present w)
  else
    match subject with
    | none => .rejects
    | some s => v.onIssued w leaf rest s

/-- The judgement on a chain that a host presents. -/
def onChain (chain : List Certificate) (host : Option String) : Judgement :=
  match chain with
  | [] => .rejects
  | leaf :: rest =>
    match v.checkHostname, nonempty? host with
    | true, none => .rejects
    | true, some h => .onRead (Subject.ofHost h) fun s => v.onLeaf w leaf rest (some s)
    | false, _ => .onRead leaf.leafNames fun names => v.onLeaf w leaf rest names.head?

theorem judgement_check (chain : List Certificate) (authType : String) (host : Option String) :
    judgement (v.check chain authType host w) = v.onChain w chain host := by
  cases chain with
  | nil => rfl
  | cons leaf rest =>
    -- however the subject was found, the leaf is an anchor or a verifier is asked
    have hleaf (subject : Option Subject) (target : String) :
        judgement ((if v.isAnchor leaf then v.checkAnchor leaf subject target
          else
            match subject with
            | none => Action.refuse (Rejection.noNames target)
            | some s => v.checkIssued leaf rest s target authType : Action π τ Unit) w) =
          v.onLeaf w leaf rest subject := by
      unfold onLeaf
      split
      · exact v.judgement_checkAnchor w leaf subject target
      · cases subject with
        | none => rfl
        | some s => exact v.judgement_checkIssued w leaf rest s target authType
    unfold check onChain
    cases v.checkHostname with
    | false =>
      have hnames := leaf.leafNames_faults.mono fun _ => isOther_of_isFault
      refine (judgement_map_bind hnames ..).trans ?_
      congr 1
      funext names
      exact hleaf names.head? _
    | true =>
      cases nonempty? host with
      | none => rfl
      | some h =>
        have hsubject := (Subject.ofHost_failsAs h).mono fun _ => isOther_of_value
        refine (judgement_map_bind hsubject ..).trans ?_
        congr 1
        funext s
        exact hleaf (some s) _

end ChainValidator

end Trust

end TrustGate
