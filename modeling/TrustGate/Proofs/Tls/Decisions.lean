import TrustGate.Proofs.Tls.Rulings

/-!
# What the decision counters say

A session is never verified twice, and a rejection is told by the act it fails.  So what each
act of a run decides adds up, with sessions of any contexts in any order:

    accepted    is the number of sessions that have passed
    rejected    is the number of acts that failed with a rejection      (decisions_counted)

`act.Counted w w'` is what one act adds to the counters and to the sessions that have passed,
and `Tallied acts w w' became n` is what a whole run adds, by induction from its first act.
-/

namespace TrustGate.Tls

open TrustGate.Tls.Session (Passed Keeps Verifies known)

variable {π τ : Type} [Platform π τ]

/-! ## One act -/

namespace Act

/-- The engine takes over no socket that has a session: wrapping consumes a socket. -/
def TakesNew (w : World π τ) : Act → Prop
  | .wrap c socket host _ =>
    ∀ name, w.reply (.wrap c.engine socket host) = Except.ok name → w.sessions socket = none
  | .operate .. | .check .. | .peerChain _ | .version _ | .cipher _ => True

/-- What an act does to sessions before it begins with its own is to start it. -/
theorem begun_cases (act : Act) (w : World π τ) :
    act.begun w = w ∨ ∃ c socket host handshake name, act = .wrap c socket host handshake ∧
      w.reply (.wrap c.engine socket host) = Except.ok name ∧
      act.begun w = c.started socket host w := by
  cases act with
  | wrap c socket host handshake =>
    cases hr : (w.reply (.wrap c.engine socket host) : Except Failure (Option String)) with
    | error f => exact .inl (begun_of_none (by simp only [entry, hr]))
    | ok name =>
      have hentry : (Act.wrap c socket host handshake).entry w =
          some (socket, c.started socket host w) := by
        simp only [entry, hr]
      exact .inr ⟨c, socket, host, handshake, name, rfl, hr, begun_of_entry hentry⟩
  | operate id op => exact .inl rfl
  | check p chain authType host => exact .inl rfl
  | peerChain id => exact .inl rfl
  | version id => exact .inl rfl
  | cipher id => exact .inl rfl

end Act

/-- Sessions without validators are verified from the start. -/
def Sound (w : World π τ) : Prop :=
  ∀ id, (known w id).validators = [] → (known w id).verified = true

omit [Platform π τ] in
theorem Sound.of_keeps {w w' : World π τ} (hw : Sound w) (h : Keeps w w') : Sound w' := by
  intro id hnone
  rw [(h id).1] at hnone
  rw [(h id).2]
  exact hw id hnone

omit [Platform π τ] in
theorem Sound.of_verifies {id : SocketId} {w w' : World π τ} (hw : Sound w)
    (h : Verifies id w w') : Sound w' := by
  intro other hnone
  rw [h.validators other] at hnone
  by_cases hother : other = id
  · subst hother
    exact h.verified
  · rw [h.others other hother]
    exact hw other hnone

theorem known_started_of_ne (c : Context) {socket other : SocketId} (host : Option String)
    (w : World π τ) (h : other ≠ socket) : known (c.started socket host w) other = known w other :=
  Session.known_setSession_of_ne _ _ h

namespace Act

variable {act : Act} {id : SocketId} {w : World π τ}

theorem begun_sound (act : Act) (hw : Sound w) : Sound (act.begun w) := by
  rcases act.begun_cases w with hsame | ⟨c, socket, host, -, -, -, -, hstarted⟩
  · rw [hsame]
    exact hw
  · rw [hstarted]
    intro other hnone
    by_cases hother : other = socket
    · subst hother
      rw [Context.known_started] at hnone ⊢
      exact List.isEmpty_iff.mpr hnone
    · rw [known_started_of_ne c host w hother] at hnone ⊢
      exact hw other hnone

/-- Starting a session on a socket without one lets no session pass, and none that has is lost. -/
theorem passed_begun_iff (hnew : act.TakesNew w) (id : SocketId) :
    Passed (act.begun w) id ↔ Passed w id := by
  rcases act.begun_cases w with hsame | ⟨c, socket, host, _, name, rfl, hr, hstarted⟩
  · rw [hsame]
  · rw [hstarted]
    by_cases hid : id = socket
    · subst hid
      have hunknown : known w id = Session.unknown := by
        unfold known
        rw [hnew name hr]
        rfl
      unfold Passed
      rw [Context.known_started, hunknown]
      simp [Session.unknown]
    · unfold Passed
      rw [known_started_of_ne c host w hid]

theorem after_sound (act : Act) (hw : Sound w) : Sound (act.perform.after w) := by
  have hbegun := act.begun_sound hw
  cases act.ruling w with
  | accepts hentry _ _ hverifies _ =>
    rw [begun_of_entry hentry] at hbegun
    exact hbegun.of_verifies hverifies
  | rejects _ hkeeps _ => exact hbegun.of_keeps hkeeps
  | abstains _ hkeeps _ => exact hbegun.of_keeps hkeeps

/-- What an act adds to the counters, and to the sessions that have passed. -/
inductive Counted (act : Act) (w w' : World π τ) : Prop
  | accepts {id : SocketId} : ¬act.Rejected w → ¬Passed w id →
      (∀ other, Passed w' other ↔ other = id ∨ Passed w other) →
      w'.counters = w.counters.addDecision Metrics.Decision.accepted.label → Counted act w w'
  | rejects : act.Rejected w → (∀ id, Passed w' id ↔ Passed w id) →
      w'.counters = w.counters.addDecision Metrics.Decision.rejected.label → Counted act w w'
  | abstains : ¬act.Rejected w → (∀ id, Passed w' id ↔ Passed w id) →
      w'.counters = w.counters → Counted act w w'

theorem counted (hw : Sound w) (hnew : act.TakesNew w) :
    act.Counted w (act.perform.after w) := by
  have hpassed := passed_begun_iff hnew
  cases act.ruling w with
  | @accepts id u p hentry hv hcleared hverifies hcounters =>
    have hsound := act.begun_sound hw
    rw [begun_of_entry hentry] at hpassed hsound
    have hvs : (known u id).validators ≠ [] := fun hnone => by
      rw [hsound id hnone] at hv
      cases hv
    have hnot : ¬act.Rejected w := by
      rintro ⟨id', u', g, hentry', hmeets, -⟩
      rw [hentry] at hentry'
      cases hentry'
      exact Session.not_meets_of_cleared hcleared hmeets
    have hfirst : ¬Passed w id := fun h => by
      have hverified := ((hpassed id).mpr h).2
      rw [hv] at hverified
      cases hverified
    refine .accepts hnot hfirst (fun other => ?_) hcounters
    rw [hverifies.passed_iff hvs other, hpassed other]
  | rejects hrejected hkeeps hcounters =>
    exact .rejects hrejected (fun id => (hkeeps.passed_iff id).trans (hpassed id)) hcounters
  | abstains hnot hkeeps hcounters =>
    exact .abstains hnot (fun id => (hkeeps.passed_iff id).trans (hpassed id)) hcounters

/-- The act concerns no session that could be decided about: there is none, or it has no
validators or is verified, or the engine does not finish the handshake, or the act fails without a
rejection and leaves the session unverified. -/
inductive Undecided (act : Act) (w : World π τ) : Prop
  | apart : act.entry w = none → Undecided act w
  | unchecked {id : SocketId} {u : World π τ} : act.entry w = some (id, u) →
      (known u id).validators = [] → Undecided act w
  | verified {id : SocketId} {u : World π τ} : act.entry w = some (id, u) →
      (known u id).verified = true → Undecided act w
  | unfinished {id : SocketId} {u : World π τ} {f : Failure} : act.entry w = some (id, u) →
      u.reply (.handshake id) = Except.error f → Undecided act w
  | failed {id : SocketId} {u : World π τ} {f : Failure} : act.entry w = some (id, u) →
      outcome (act.perform w) = .error f → ¬act.Rejected w →
      (known (act.perform.after w) id).verified = false → Undecided act w

/-- An undecided act in which a pass begins on an unverified session fails without a rejection. -/
theorem Undecided.fails {u : World π τ} (h : act.Undecided w) (hw : Sound w)
    (hentry : act.entry w = some (id, u)) (hv : (known u id).verified = false)
    (hr : u.reply (.handshake id) = Except.ok ()) :
    ¬act.Rejected w ∧ (known (act.perform.after w) id).verified = false := by
  have hsound := act.begun_sound hw
  rw [begun_of_entry hentry] at hsound
  cases h with
  | apart hnone =>
    rw [hnone] at hentry
    cases hentry
  | unchecked hentry' hnone =>
    rw [hentry] at hentry'
    cases hentry'
    rw [hsound id hnone] at hv
    cases hv
  | verified hentry' hverified =>
    rw [hentry] at hentry'
    cases hentry'
    rw [hverified] at hv
    cases hv
  | unfinished hentry' hfails =>
    rw [hentry] at hentry'
    cases hentry'
    rw [hr] at hfails
    cases hfails
  | failed hentry' _ hnot hunverified =>
    rw [hentry] at hentry'
    cases hentry'
    exact ⟨hnot, hunverified⟩

theorem Undecided.counters_eq (h : act.Undecided w) (hw : Sound w) :
    (act.perform.after w).counters = w.counters := by
  cases act.ruling w with
  | abstains _ _ hcounters => exact hcounters
  | rejects hrejected _ _ =>
    obtain ⟨id, u, g, hentry, ⟨_, hv, x, hr, _⟩, _⟩ := id hrejected
    exact absurd hrejected (h.fails hw hentry hv hr).1
  | accepts hentry hv hcleared hverifies _ =>
    have hunverified := (h.fails hw hentry hv hcleared.1).2
    rw [hverifies.verified] at hunverified
    cases hunverified

end Act

/-! ## Runs -/

/-- All acts of a run take over sockets without sessions only. -/
def TakenOverOnce : List Act → World π τ → Prop
  | [], _ => True
  | act :: rest, w => act.TakesNew w ∧ TakenOverOnce rest (act.perform.after w)

/-- So many acts of a run are rejected. -/
inductive Rejections : List Act → World π τ → Nat → Prop
  | nil {w : World π τ} : Rejections [] w 0
  | rejected {act : Act} {rest : List Act} {w : World π τ} {n : Nat} : act.Rejected w →
      Rejections rest (act.perform.after w) n → Rejections (act :: rest) w (n + 1)
  | other {act : Act} {rest : List Act} {w : World π τ} {n : Nat} : ¬act.Rejected w →
      Rejections rest (act.perform.after w) n → Rejections (act :: rest) w n

/-- How often a decision was counted. -/
def timesDecided (d : Metrics.Decision) (w : World π τ) : Nat :=
  w.counters.decisions.count d.label

section

omit [Platform π τ]

variable {w w' : World π τ} {d : Metrics.Decision}

theorem timesDecided_self (h : w'.counters = w.counters.addDecision d.label) :
    timesDecided d w' = timesDecided d w + 1 := by
  unfold timesDecided
  rw [h]
  exact Metrics.Samples.count_add_self _ _

theorem timesDecided_other {d' : Metrics.Decision} (hne : d'.label ≠ d.label)
    (h : w'.counters = w.counters.addDecision d.label) :
    timesDecided d' w' = timesDecided d' w := by
  unfold timesDecided
  rw [h]
  exact Metrics.Samples.count_add_of_ne _ hne

theorem timesDecided_same (h : w'.counters = w.counters) :
    timesDecided d w' = timesDecided d w := by
  unfold timesDecided
  rw [h]

end

/-- What a run adds: `became` are the sessions that pass in it, and `refusals` of its acts are
rejected. -/
structure Tallied (acts : List Act) (w w' : World π τ) (became : List SocketId)
    (refusals : Nat) : Prop where
  nodup : became.Nodup
  mem_iff : ∀ id, id ∈ became ↔ Passed w' id ∧ ¬Passed w id
  remains : ∀ id, Passed w id → Passed w' id
  rejections : Rejections acts w refusals
  accepted : timesDecided .accepted w' = timesDecided .accepted w + became.length
  rejected : timesDecided .rejected w' = timesDecided .rejected w + refusals

/-- What the first act of a run adds to what the others add. -/
theorem Act.Counted.tallied {act : Act} {rest : List Act} {w w' : World π τ}
    {became : List SocketId} {n : Nat} (h : act.Counted w (act.perform.after w))
    (hrest : Tallied rest (act.perform.after w) w' became n) :
    ∃ became' n', Tallied (act :: rest) w w' became' n' := by
  obtain ⟨hnodup, hmem, hremains, hrejections, haccepted, hrejected⟩ := hrest
  cases h with
  | @accepts id hnot hfirst hpassed hcounters =>
    -- It has passed before the rest of the run begins, so it does not pass again in it.
    have hid : id ∉ became := fun h => ((hmem id).mp h).2 ((hpassed id).mpr (.inl rfl))
    refine ⟨id :: became, n, ?_, fun other => ?_, fun other hother => ?_, .other hnot hrejections,
      ?_, ?_⟩
    · exact List.nodup_cons.mpr ⟨hid, hnodup⟩
    · rw [List.mem_cons, hmem other, hpassed other]
      by_cases hother : other = id
      · subst hother
        have hlast := hremains other ((hpassed other).mpr (.inl rfl))
        simp [hlast, hfirst]
      · simp [hother]
    · exact hremains other ((hpassed other).mpr (.inr hother))
    · rw [haccepted, timesDecided_self hcounters, List.length_cons]
      omega
    · rw [hrejected, timesDecided_other (by decide) hcounters]
  | rejects hact hsame hcounters =>
    refine ⟨became, n + 1, hnodup, fun id => ?_, fun id hid => ?_, .rejected hact hrejections,
      ?_, ?_⟩
    · rw [hmem id, hsame id]
    · exact hremains id ((hsame id).mpr hid)
    · rw [haccepted, timesDecided_other (by decide) hcounters]
    · rw [hrejected, timesDecided_self hcounters]
      omega
  | abstains hnot hsame hcounters =>
    refine ⟨became, n, hnodup, fun id => ?_, fun id hid => ?_, .other hnot hrejections, ?_, ?_⟩
    · rw [hmem id, hsame id]
    · exact hremains id ((hsame id).mpr hid)
    · rw [haccepted, timesDecided_same hcounters]
    · rw [hrejected, timesDecided_same hcounters]

theorem proceed_tallied (acts : List Act) (w : World π τ) (hw : Sound w)
    (hnew : TakenOverOnce acts w) : ∃ became n, Tallied acts w (proceed acts w).2 became n := by
  induction acts generalizing w with
  | nil => exact ⟨[], 0, .nil, by simp [proceed], fun _ h => h, .nil, rfl, rfl⟩
  | cons act rest ih =>
    obtain ⟨became, n, htallied⟩ := ih (act.perform.after w) (act.after_sound hw) hnew.2
    exact (act.counted hw hnew.1).tallied htallied

/-- A world without sessions. -/
def Idle (w : World π τ) : Prop := ∀ id, w.sessions id = none

omit [Platform π τ] in
theorem Idle.known_eq {w : World π τ} (h : Idle w) (id : SocketId) :
    known w id = Session.unknown := by
  unfold known
  rw [h id]
  rfl

omit [Platform π τ] in
theorem Idle.sound {w : World π τ} (h : Idle w) : Sound w := fun id _ => by
  rw [h.known_eq id]
  rfl

omit [Platform π τ] in
theorem Idle.not_passed {w : World π τ} (h : Idle w) (id : SocketId) : ¬Passed w id := by
  unfold Passed
  rw [h.known_eq id]
  exact fun hpassed => hpassed.1 rfl

/-- In a run, an undecided act changes no counter. -/
theorem counters_of_undecided (before : List Act) {act : Act} {w : World π τ} (hw : Sound w)
    (h : act.Undecided (proceed before w).2) :
    (act.perform.after (proceed before w).2).counters = (proceed before w).2.counters := by
  induction before generalizing w with
  | nil => exact h.counters_eq hw
  | cons first before ih => exact ih (first.after_sound hw) h

/-- Acceptances are counted once for each session that passes, rejections once for each act that
fails with one, and undecided acts not at all. -/
theorem decisions_counted (acts : List Act) (w : World π τ) (hw : Idle w)
    (hnew : TakenOverOnce acts w) :
    (∃ passed : List SocketId, passed.Nodup ∧ (∀ id, id ∈ passed ↔ Passed (proceed acts w).2 id) ∧
      timesDecided .accepted (proceed acts w).2 = timesDecided .accepted w + passed.length) ∧
    (∃ n, Rejections acts w n ∧
      timesDecided .rejected (proceed acts w).2 = timesDecided .rejected w + n) ∧
    ∀ before act, before ++ [act] <+: acts → act.Undecided (proceed before w).2 →
      (act.perform.after (proceed before w).2).counters = (proceed before w).2.counters := by
  obtain ⟨passed, n, htallied⟩ := proceed_tallied acts w hw.sound hnew
  refine ⟨⟨passed, htallied.nodup, fun id => ?_, htallied.accepted⟩,
    ⟨n, htallied.rejections, htallied.rejected⟩, fun before act _ hact => ?_⟩
  · rw [htallied.mem_iff id]
    exact and_iff_left (hw.not_passed id)
  · exact counters_of_undecided before hw.sound hact

open TrustGate.Tls.Session (strict wavering)

/-- A session whose chain is rejected, and one whose chain is accepted by a write. -/
def twoSessions : List Act :=
  [.wrap strict 0 none true, .wrap strict 1 none false, .operate 1 (.write [1]),
    .operate 1 .handshake]

/-- The validator rejects the first chain and accepts the second: each is counted once. -/
theorem decisions_counted_two_sessions :
    Idle wavering ∧ TakenOverOnce twoSessions wavering ∧
      (∃ passed : List SocketId, passed.Nodup ∧
        (∀ id, id ∈ passed ↔ Passed (proceed twoSessions wavering).2 id) ∧
        timesDecided .accepted (proceed twoSessions wavering).2 =
          timesDecided .accepted wavering + passed.length) ∧
      timesDecided .accepted (proceed twoSessions wavering).2 = 1 ∧
      timesDecided .rejected (proceed twoSessions wavering).2 = 1 := by
  have hidle : Idle wavering := fun _ => rfl
  have hnew : TakenOverOnce twoSessions wavering :=
    ⟨fun _ _ => rfl, fun _ _ => rfl, trivial, trivial, trivial⟩
  exact ⟨hidle, hnew, (decisions_counted twoSessions wavering hidle hnew).1, by decide +kernel,
    by decide +kernel⟩

/-- A world whose sessions cannot be written to. -/
def broken : World Rehearsal.Stage Float :=
  .initial { Rehearsal.Stage.start 0.0 0.0 with
    session := { Rehearsal.SessionScript.plain with
      writeFailure := some (.mk .brokenPipe [.int 32, .text "Broken pipe"] none) } } .empty

/-- An acceptance stays counted if the act fails after it: here the chain is accepted and then
the engine cannot write. -/
theorem acceptance_counted_of_failed_write :
    ¬∀ (acts : List Act) (w : World Rehearsal.Stage Float), Idle w → TakenOverOnce acts w →
      ∀ before act f, before ++ [act] <+: acts →
        outcome (act.perform (proceed before w).2) = .error f →
        ¬act.Rejected (proceed before w).2 →
        (act.perform.after (proceed before w).2).counters = (proceed before w).2.counters := by
  intro h
  have hnew : TakenOverOnce [.wrap strict 0 none false, .operate 0 (.write [1])] broken :=
    ⟨fun _ _ => rfl, trivial, trivial⟩
  have hnot : ¬(Act.operate 0 (.write [1])).Rejected
      (proceed [.wrap strict 0 none false] broken).2 := by
    rintro ⟨id, u, g, -, -, hfails⟩
    injection hfails with hfails
    have hkind : FailureKind.brokenPipe = .sslVerification := congrArg Failure.kind hfails
    cases hkind
  have hsame := h _ broken (fun _ => rfl) hnew [.wrap strict 0 none false]
    (.operate 0 (.write [1])) _ List.prefix_rfl rfl hnot
  exact absurd (congrArg Metrics.Counters.decisions hsame) (by decide +kernel)

end TrustGate.Tls
