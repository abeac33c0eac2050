import Mathlib.Data.List.Induction
import TrustGate.Proofs.Tls.Handshake
import TrustGate.Rehearsal.Stage

/-!
# The trust gate

No data goes through a session with validators before its peer is cleared.

`Operation` lists what can be done with a session, and `run id ops w` does it in turn, going
on after failures.  `Guarded id w w'` is what one operation from `w` to `w'` keeps: data that
the engine is asked for in between, and a session that is verified at `w'`, go back to a session
verified at `w` or to a pass that started there (`Operation.guarded`).  By induction over
the operations, for a session that starts unverified,

    data in a run    →  an earlier pass from one of the worlds of the run    (run_traced)
-/

namespace TrustGate.Tls.Session

variable {π τ : Type} [Platform π τ]

/-- Calls that ask the engine for data of a session or give it some. -/
def IsData {τ : Type} (id : SocketId) : Call τ → Prop
  | .read session _ | .write session _ => session = id
  | _ => False

/-- The session was verified at `w`, or a pass that started there was over before `past`. -/
def Admitted (id : SocketId) (w : World π τ) (past : List (Happening τ)) : Prop :=
  (known w id).verified = true ∨
    ∃ p, Cleared id (known w id).host (known w id).validators w p ∧ p.history <:+ past

structure Guarded (id : SocketId) (w w' : World π τ) : Prop where
  grows : w.history <:+ w'.history
  host : (known w' id).host = (known w id).host
  validators : (known w' id).validators = (known w id).validators
  verified : (known w' id).verified = true → Admitted id w w'.history
  data : ∀ call reply past, IsData id call → .called call reply :: past <:+ w'.history →
    w.history <:+ past → Admitted id w past

theorem Admitted.mono {id : SocketId} {w : World π τ} {past present : List (Happening τ)}
    (h : Admitted id w past) (hle : past <:+ present) : Admitted id w present := by
  rcases h with hv | ⟨p, hp, hpast⟩
  · exact .inl hv
  · exact .inr ⟨p, hp, hpast.trans hle⟩

namespace Guarded

variable {id : SocketId} {w u w' : World π τ} {allowed : Call τ → Prop}

/-- Without calls for data, only the last world has to be looked at. -/
theorem of_makes (hm : Makes allowed w w') (hno : ∀ call, allowed call → ¬IsData id call)
    (hh : (known w' id).host = (known w id).host)
    (hvs : (known w' id).validators = (known w id).validators)
    (hv : (known w' id).verified = true → Admitted id w w'.history) : Guarded id w w' :=
  ⟨hm.suffix, hh, hvs, hv, fun call _ _ hdata hcall hpast =>
    absurd hdata (hno call (hm.allowed_of_since hcall hpast))⟩

theorem of_quiet (hq : Quiet allowed w w') (hno : ∀ call, allowed call → ¬IsData id call) :
    Guarded id w w' := by
  have hk := known_of_quiet hq id
  exact .of_makes hq.makes hno (by rw [hk]) (by rw [hk]) fun hv => .inl (by rwa [hk] at hv)

theorem refl : Guarded id w w := by
  have hq : Quiet (fun _ : Call τ => False) w w := .refl w
  exact .of_quiet hq fun _ h => h.elim

/-- A verified session may ask for data. -/
theorem extend (h : Guarded id w u) (hv : (known u id).verified = true)
    (hq : Quiet allowed u w') : Guarded id w w' := by
  have hk := known_of_quiet hq id
  have hle := hq.makes.suffix
  refine ⟨h.grows.trans hle, by rw [hk, h.host], by rw [hk, h.validators],
    fun _ => (h.verified hv).mono hle, fun call reply past hdata hcall hpast => ?_⟩
  rcases before_or_since hcall hle with hbefore | hsince
  · exact h.data call reply past hdata hbefore hpast
  · exact (h.verified hv).mono hsince

end Guarded

/-! ## Handshakes -/

theorem not_isData_of_isHandshake {id : SocketId} (call : Call τ) (h : IsHandshake id call) :
    ¬IsData id call := by
  rcases h with rfl | h
  · exact not_false
  · cases call <;> simp_all [IsData, Call.IsInquiry]

/-- Whatever the check of the chain comes to behind a successful handshake. -/
theorem PeerCheck.guarded {id : SocketId} {w : World π τ}
    {r : EStateM.Result Failure (World π τ) Unit} (hr : w.reply (.handshake id) = Except.ok ())
    (h : PeerCheck id (w.asked (.handshake id)) r) : Guarded id w (Action.final r) := by
  cases h with
  | done hv => exact .of_quiet (quiet_of_inquiry (.refl _)) not_isData_of_isHandshake
  | failed hv hq => exact .of_quiet (quiet_of_inquiry hq) not_isData_of_isHandshake
  | denied hv hdenied =>
    have hq := quiet_of_inquiry hdenied.quiet
    have hk := known_of_quiet hq id
    refine .of_makes hq.makes not_isData_of_isHandshake (congrArg Session.host hk)
      (congrArg Session.validators hk) fun hx => .inl ?_
    rw [← hk]
    exact hx
  | approved hv hp =>
    have hq := quiet_of_inquiry hp.quiet
    refine .of_makes hq.makes not_isData_of_isHandshake ?_ ?_ fun _ =>
      .inr ⟨_, ⟨hr, hp⟩, List.suffix_rfl⟩
    · rw [Action.final, known_setSession]
      rfl
    · rw [Action.final, known_setSession]
      rfl

theorem doHandshake_guarded (id : SocketId) (w : World π τ) :
    Guarded id w ((doHandshake id).after w) := by
  unfold Action.after
  rw [doHandshake_eq]
  cases ho : (known w id).isOpen with
  | false => exact .refl
  | true =>
    rw [if_pos rfl]
    cases hr : (w.reply (.handshake id) : Except Failure Unit) with
    | error f => exact .of_quiet (quiet_of_inquiry (.refl _)) not_isData_of_isHandshake
    | ok _ => exact (verifyPeerChain_check id (w.asked (.handshake id))).guarded hr

theorem requireTrusted_guarded (id : SocketId) (w : World π τ) :
    Guarded id w ((requireTrusted id).after w) := by
  unfold Action.after
  rw [requireTrusted_eq]
  split
  · exact doHandshake_guarded id w
  · exact .refl

/-! ## Reading and writing -/

/-- Work for which the session has to be verified and open. -/
def gated {α : Type} (id : SocketId) (work : Action π τ α) (closed : Failure) : Action π τ α := do
  requireTrusted id
  if (← find id).isOpen then work else throw closed

theorem read_eq_gated (id : SocketId) (size : Int) :
    (read id size : Action π τ Octets) =
      gated id (engineRead id size) (Failure.of SessionFault.readClosed) := rfl

theorem write_eq_gated (id : SocketId) (data : Octets) :
    (write id data : Action π τ Nat) =
      gated id (do Action.ofExcept (← ask (.write id data)))
        (Failure.of SessionFault.writeClosed) :=
  rfl

theorem send_eq_gated (id : SocketId) (data : Octets) :
    (send id data : Action π τ Nat) =
      gated id (do Action.ofExcept (← ask (.write id data))) badDescriptor := rfl

section

variable {α : Type} {id : SocketId} {work : Action π τ α} {closed : Failure}

theorem gated_eq (w : World π τ) :
    gated id work closed w =
      match requireTrusted id w with
      | .ok _ u => if (known u id).isOpen then work u else .error closed u
      | .error f u => .error f u := by
  unfold gated
  rw [Action.bind_eq]
  cases h : requireTrusted id w with
  | error f u => rfl
  | ok _ u =>
    simp only []
    rw [Action.bind_of_ok (find_eq id u)]
    cases (known u id).isOpen <;> rfl

theorem gated_guarded (hwork : work.Quietly fun _ => True) (w : World π τ) :
    Guarded id w ((gated id work closed).after w) := by
  have hrequire := requireTrusted_guarded id w
  unfold Action.after
  rw [gated_eq]
  cases h : requireTrusted id w with
  | error f u =>
    rw [Action.after_of_error h] at hrequire
    exact hrequire
  | ok _ u =>
    rw [Action.after_of_ok h] at hrequire
    simp only []
    split
    · next ho => exact hrequire.extend (verified_of_requireTrusted h ho) (hwork u)
    · exact hrequire

/-- Work that was done leaves the session verified. -/
theorem verified_of_gated (hwork : work.Quietly fun _ => True) {w w' : World π τ} {x : α}
    (h : gated id work closed w = .ok x w') : (known w' id).verified = true := by
  rw [gated_eq] at h
  cases hr : requireTrusted id w with
  | error f u =>
    rw [hr] at h
    cases h
  | ok _ u =>
    rw [hr] at h
    simp only [] at h
    split at h
    · next ho =>
      rw [known_of_quiet (hwork.of_ok h)]
      exact verified_of_requireTrusted hr ho
    · cases h

/-- On a verified session there is nothing to make sure of. -/
theorem gated_quiet (hwork : work.Quietly fun _ => True) {w : World π τ}
    (hv : (known w id).verified = true) :
    Quiet (fun _ => True) w ((gated id work closed).after w) := by
  have hr : requireTrusted id w = .ok () w := by
    rw [requireTrusted_eq, hv]
    rfl
  unfold Action.after
  rw [gated_eq, hr]
  simp only []
  split
  · exact hwork w
  · exact .refl w

end

theorem engineRead_quietly (id : SocketId) (size : Int) :
    (engineRead id size : Action π τ Octets).Quietly fun _ => True := by
  unfold engineRead
  refine .bind (.ask trivial) fun reply => ?_
  split
  · exact .pure _
  · exact .ofExcept _

theorem engineWrite_quietly (id : SocketId) (data : Octets) :
    (do Action.ofExcept (← ask (.write id data)) : Action π τ Nat).Quietly fun _ => True :=
  .bind (.ask trivial) fun _ => .ofExcept _

theorem read_guarded (id : SocketId) (size : Int) (w : World π τ) :
    Guarded id w ((read id size).after w) := by
  rw [read_eq_gated]
  exact gated_guarded (engineRead_quietly id size) w

theorem write_guarded (id : SocketId) (data : Octets) (w : World π τ) :
    Guarded id w ((write id data).after w) := by
  rw [write_eq_gated]
  exact gated_guarded (engineWrite_quietly id data) w

theorem send_guarded (id : SocketId) (data : Octets) (w : World π τ) :
    Guarded id w ((send id data).after w) := by
  rw [send_eq_gated]
  exact gated_guarded (engineWrite_quietly id data) w

theorem receive_guarded (id : SocketId) (size : Int) (w : World π τ) :
    Guarded id w ((receive id size).after w) := by
  unfold receive Action.after
  rw [Action.bind_of_ok (find_eq id w)]
  split
  · exact read_guarded id size w
  · exact .refl

theorem sendRest_quiet (id : SocketId) (fuel : Nat) (data : Octets) (w : World π τ)
    (hv : (known w id).verified = true) :
    Quiet (fun _ => True) w ((sendRest id fuel data).after w) := by
  induction fuel generalizing data w with
  | zero => cases data <;> exact .refl w
  | succ fuel ih =>
    cases data with
    | nil => exact .refl w
    | cons b bs =>
      have hsend : Quiet (fun _ => True) w ((send id (b :: bs)).after w) := by
        rw [send_eq_gated]
        exact gated_quiet (engineWrite_quietly id (b :: bs)) hv
      unfold sendRest Action.after
      rw [Action.bind_eq]
      cases h : send id (b :: bs) w with
      | error f u =>
        rw [Action.after_of_error h] at hsend
        exact hsend
      | ok taken u =>
        rw [Action.after_of_ok h] at hsend
        exact hsend.trans (ih _ u (by rw [known_of_quiet hsend]; exact hv))

/-- Only the first part of the data can find the session unverified. -/
theorem sendRest_guarded (id : SocketId) (fuel : Nat) (data : Octets) (w : World π τ) :
    Guarded id w ((sendRest id fuel data).after w) := by
  cases fuel with
  | zero => cases data <;> exact .refl
  | succ fuel =>
    cases data with
    | nil => exact .refl
    | cons b bs =>
      have hsend := send_guarded id (b :: bs) w
      unfold sendRest Action.after
      rw [Action.bind_eq]
      cases h : send id (b :: bs) w with
      | error f u =>
        rw [Action.after_of_error h] at hsend
        exact hsend
      | ok taken u =>
        rw [Action.after_of_ok h] at hsend
        have hv : (known u id).verified = true := by
          rw [send_eq_gated] at h
          exact verified_of_gated (engineWrite_quietly id (b :: bs)) h
        exact hsend.extend hv (sendRest_quiet id fuel _ u hv)

theorem sendAll_guarded (id : SocketId) (data : Octets) (w : World π τ) :
    Guarded id w ((sendAll id data).after w) := by
  unfold sendAll Action.after
  rw [Action.bind_of_ok (find_eq id w)]
  split
  · exact sendRest_guarded id data.length data w
  · exact .refl

theorem close_guarded (id : SocketId) (w : World π τ) : Guarded id w ((close id).after w) := by
  have hk : known ((close id).after w) id = { known w id with isOpen := false } :=
    known_setSession w id _
  have hm : Makes (fun call => call = .closeSession id) w ((close id).after w) :=
    ⟨[.called (.closeSession id) _], rfl, by simp [Happening.Within]⟩
  refine .of_makes hm ?_ (by rw [hk]) (by rw [hk]) fun hv => .inl ?_
  · rintro call rfl
    exact not_false
  · rw [hk] at hv
    exact hv

/-! ## Runs -/

/-- What can be done with a session.  Reading into a buffer reads. -/
inductive Operation where
  | handshake
  | read (size : Int)
  | receive (size : Int)
  | write (data : Octets)
  | send (data : Octets)
  | sendAll (data : Octets)
  | close

def Operation.perform (id : SocketId) : Operation → Action π τ Unit
  | .handshake => doHandshake id
  | .read size => discard (Session.read id size)
  | .receive size => discard (Session.receive id size)
  | .write data => discard (Session.write id data)
  | .send data => discard (Session.send id data)
  | .sendAll data => Session.sendAll id data
  | .close => Session.close id

/-- One operation after the other, whether they fail or not. -/
def run (id : SocketId) (ops : List Operation) (w : World π τ) : World π τ :=
  ops.foldl (fun w op => (op.perform id).after w) w

theorem run_append (id : SocketId) (ops more : List Operation) (w : World π τ) :
    run id (ops ++ more) w = run id more (run id ops w) := List.foldl_append

omit [Platform π τ] in
theorem after_discard {α : Type} (a : Action π τ α) (w : World π τ) :
    (discard a : Action π τ PUnit).after w = a.after w := Action.after_map (fun _ => PUnit.unit) a w

theorem Operation.guarded (id : SocketId) (op : Operation) (w : World π τ) :
    Guarded id w ((op.perform id).after w) := by
  cases op with
  | handshake => exact doHandshake_guarded id w
  | read size =>
    unfold perform
    rw [after_discard]
    exact read_guarded id size w
  | receive size =>
    unfold perform
    rw [after_discard]
    exact receive_guarded id size w
  | write data =>
    unfold perform
    rw [after_discard]
    exact write_guarded id data w
  | send data =>
    unfold perform
    rw [after_discard]
    exact send_guarded id data w
  | sendAll data => exact sendAll_guarded id data w
  | close => exact close_guarded id w

/-- Data in a run goes back to a pass that started in one of the worlds of the run, and so does a
session that has become verified. -/
structure Traced (id : SocketId) (b : World π τ) (ops : List Operation) : Prop where
  grows : b.history <:+ (run id ops b).history
  host : (known (run id ops b) id).host = (known b id).host
  validators : (known (run id ops b) id).validators = (known b id).validators
  verified : (known (run id ops b) id).verified = true → ∃ done p, done <+: ops ∧
    Cleared id (known b id).host (known b id).validators (run id done b) p ∧
    p.history <:+ (run id ops b).history
  data : ∀ call reply past, IsData id call →
    .called call reply :: past <:+ (run id ops b).history → b.history <:+ past →
    ∃ done p, done <+: ops ∧
      Cleared id (known b id).host (known b id).validators (run id done b) p ∧ p.history <:+ past

/-- A run of a session that starts unverified, by induction on its last operation. -/
theorem run_traced (id : SocketId) (b : World π τ) (hb : (known b id).verified = false)
    (ops : List Operation) : Traced id b ops := by
  induction ops using List.reverseRecOn with
  | nil =>
    refine ⟨List.suffix_rfl, rfl, rfl, fun hv => ?_, fun call reply past _ hcall hpast => ?_⟩
    · rw [run, List.foldl_nil, hb] at hv
      cases hv
    · exact (not_before_and_since hcall hpast).elim
  | append_singleton ops op ih =>
    have hstep := Operation.guarded id op (run id ops b)
    have hrun : run id (ops ++ [op]) b = (op.perform id).after (run id ops b) := by
      rw [run_append]
      rfl
    -- what was admitted by the last operation was admitted in the run
    have hadmitted : ∀ past, (run id ops b).history <:+ past →
        Admitted id (run id ops b) past → ∃ done p, done <+: ops ++ [op] ∧
          Cleared id (known b id).host (known b id).validators (run id done b) p ∧
          p.history <:+ past := by
      rintro past hpast (hv | ⟨p, hp, hle⟩)
      · obtain ⟨done, p, hdone, hp, hle⟩ := ih.verified hv
        exact ⟨done, p, hdone.trans (List.prefix_append ops [op]), hp, hle.trans hpast⟩
      · rw [ih.host, ih.validators] at hp
        exact ⟨ops, p, List.prefix_append ops [op], hp, hle⟩
    refine ⟨?_, ?_, ?_, fun hv => ?_, fun call reply past hdata hcall hpast => ?_⟩
    · rw [hrun]
      exact ih.grows.trans hstep.grows
    · rw [hrun, hstep.host, ih.host]
    · rw [hrun, hstep.validators, ih.validators]
    · rw [hrun] at hv ⊢
      exact hadmitted _ hstep.grows (hstep.verified hv)
    · rw [hrun] at hcall
      rcases before_or_since hcall hstep.grows with hbefore | hsince
      · obtain ⟨done, p, hdone, hp, hle⟩ := ih.data call reply past hdata hbefore hpast
        exact ⟨done, p, hdone.trans (List.prefix_append ops [op]), hp, hle⟩
      · exact hadmitted past hsince (hstep.data call reply past hdata hcall hsince)

/-! ## Sessions of a context with validators -/

section

variable {c : Context} {socket id : SocketId} {host : Option String} {handshake : Bool}
  {w w₀ : World π τ} (hc : c.validators ≠ []) (hw : c.wrap socket host handshake w = .ok id w₀)

include hc in
theorem started_unverified : (known (c.started id host w) id).verified = false := by
  rw [Context.known_started]
  cases hvs : c.validators with
  | nil => exact absurd hvs hc
  | cons v vs => rfl

include hw in
/-- A session goes by the name that the engine made of its host. -/
theorem host_of_wrap : (known w₀ id).host = c.nameOf id host w := by
  obtain ⟨rfl, -, hstart⟩ := Context.wrap_ok hw
  have hk := Context.known_started c id host w
  cases handshake with
  | false =>
    rw [show w₀ = c.started id host w from hstart, hk]
  | true =>
    have hguarded := doHandshake_guarded id (c.started id host w)
    rw [Action.after_of_ok hstart] at hguarded
    rw [hguarded.host, hk]

include hw in
/-- Starting a session with a handshake counts as its first operation. -/
theorem run_of_wrap (ops : List Operation) :
    run id (if handshake then .handshake :: ops else ops) (c.started id host w) =
      run id ops w₀ := by
  obtain ⟨rfl, -, hstart⟩ := Context.wrap_ok hw
  cases handshake with
  | false =>
    rw [hstart]
    rfl
  | true =>
    change run id ops ((doHandshake id).after (c.started id host w)) = _
    rw [Action.after_of_ok hstart]

end

/-- Data that was asked for since a session was started was asked for after a pass that started in
the run. -/
theorem data_only_after_pass (c : Context) (hc : c.validators ≠ []) (socket id : SocketId)
    (host : Option String) (handshake : Bool) (ops : List Operation) (w w₀ : World π τ)
    (hw : c.wrap socket host handshake w = .ok id w₀) :
    ∃ b, c.wrap socket host false w = .ok id b ∧
      run id (if handshake then .handshake :: ops else ops) b = run id ops w₀ ∧
      (∀ call reply past, IsData id call →
        .called call reply :: past <:+ (run id ops w₀).history → w.history <:+ past →
        ∃ done p, done <+: (if handshake then .handshake :: ops else ops) ∧
          Cleared id (known b id).host c.validators (run id done b) p ∧ p.history <:+ past) ∧
      (handshake = true → ∃ p, Cleared id (known b id).host c.validators b p ∧
        p.history <:+ w₀.history) := by
  have hrun := run_of_wrap hw ops
  obtain ⟨rfl, hb, hstart⟩ := Context.wrap_ok hw
  have hk := Context.known_started c id host w
  have hunverified : (known (c.started id host w) id).verified = false := started_unverified hc
  refine ⟨c.started id host w, hb, hrun, fun call reply past hdata hcall hpast => ?_, fun hh => ?_⟩
  · have htraced := run_traced id (c.started id host w) hunverified
      (if handshake then .handshake :: ops else ops)
    rw [← hrun] at hcall
    rcases before_or_since hcall htraced.grows with hbefore | hsince
    · -- the call is not older than the start of the session, and starting it is no call for data
      rcases List.suffix_cons_iff.mp hbefore with heq | hbefore
      · cases heq
        exact hdata.elim
      · exact (not_before_and_since hbefore hpast).elim
    · have := htraced.data call reply past hdata hcall hsince
      rwa [hk] at this ⊢
  · subst hh
    have hguarded := doHandshake_guarded id (c.started id host w)
    rw [Action.after_of_ok hstart] at hguarded
    rcases hguarded.verified (doHandshake_ok hstart).2 with hv | ⟨p, hp, hle⟩
    · rw [hunverified] at hv
      cases hv
    · rw [hk] at hp ⊢
      exact ⟨p, hp, hle⟩

/-- A validator of a caller's own making. -/
def judge (number : Nat) : Trust.Provider :=
  .custom ⟨number, "Validator", .missing, .usable, .missing⟩

/-- A context with one validator of a caller's own making. -/
def strict : Context := ⟨0, .tls12, true, [judge 0]⟩

theorem strict_validators : strict.validators ≠ [] := by
  simp [strict, judge, Context.validators, Trust.Provider.isChainValidator]

/-- A world in which every call succeeds. -/
def smooth : World Rehearsal.Stage Float := .initial (.start 0.0 0.0) .empty

/-- A read right after a session was started with a handshake. -/
theorem data_only_after_pass_read :
    strict.validators ≠ [] ∧ ∃ w₀ b reply past, strict.wrap 0 none true smooth = .ok 0 w₀ ∧
      .called (.read 0 4) reply :: past <:+ (run 0 [.read 4] w₀).history ∧
      smooth.history <:+ past ∧ strict.wrap 0 none false smooth = .ok 0 b ∧
      ∃ done p, done <+: [.handshake, .read 4] ∧
        Cleared 0 (known b 0).host strict.validators (run 0 done b) p ∧ p.history <:+ past := by
  obtain ⟨b, hb, -, hdata, -⟩ :=
    data_only_after_pass strict strict_validators 0 0 none true [.read 4] smooth _ rfl
  refine ⟨strict_validators, _, b, _, _, rfl, List.suffix_rfl, List.nil_suffix, hb, ?_⟩
  exact hdata (.read 0 4) _ _ rfl List.suffix_rfl List.nil_suffix

end TrustGate.Tls.Session
