import TrustGate.Proofs.Trust.Judgement
import TrustGate.Rehearsal.Stage

/-!
# Checks for any host

What a check comes to is one thing, the world that it leaves is the other:

    v.afterLeaf, v.afterChain     the worlds that the steps of a check leave, without the steps
    v.asks w chain                what a verifier is asked if host names are not checked

Without a check of host names neither depends on the host           (host_without_influence).
-/

namespace TrustGate

/-! ## Actions that change nothing -/

namespace Action

variable {π τ α β : Type} {a : Action π τ α} {w : World π τ}

/-- However it ends, the world is as it was. -/
def Still (a : Action π τ α) : Prop := ∀ w, a.after w = w

theorem Still.ofExcept (r : Except Failure α) : Still (Action.ofExcept r : Action π τ α) := by
  intro w
  cases r <;> rfl

theorem Still.bind {f : α → Action π τ β} (ha : Still a) (hf : ∀ x, Still (f x)) :
    Still (a >>= f) := by
  intro w
  have hfirst := ha w
  unfold after at hfirst ⊢
  rw [bind_eq]
  cases h : a w with
  | ok x u =>
    rw [h] at hfirst
    obtain rfl : u = w := hfirst
    exact hf x u
  | error f u =>
    rw [h] at hfirst
    exact hfirst

theorem after_bind_of_still {f : α → Action π τ β} (hf : ∀ x, Still (f x)) :
    (a >>= f).after w = a.after w := by
  unfold after
  rw [bind_eq]
  cases a w with
  | ok x u => exact hf x u
  | error f u => rfl

theorem after_bind_of_ok {f : α → Action π τ β} {x : α} {u : World π τ} (h : a w = .ok x u) :
    (a >>= f).after w = (f x).after u := by
  unfold after
  rw [bind_of_ok h]

theorem after_bind_of_error {f : α → Action π τ β} {e : Failure} {u : World π τ}
    (h : a w = .error e u) : (a >>= f).after w = u := by
  unfold after
  rw [bind_of_error h]
  rfl

theorem after_map_bind {γ : Type} (g : α → β) (r : Except Failure α) (f : β → Action π τ γ) :
    ((g <$> Action.ofExcept r) >>= f).after w =
      match r with
      | .ok x => (f (g x)).after w
      | .error _ => w := by
  cases r <;> rfl

end Action

/-! ## Questions to verifiers -/

/-- What a verifier was asked, if it was one that was called. -/
def Happening.verification? {τ : Type} : Happening τ → Option Verification
  | .called (.verify q) _ => some q
  | _ => none

/-- What verifiers were asked between two worlds, newest first. -/
def World.verifications {π τ : Type} (w w' : World π τ) : List Verification :=
  (w.since w').filterMap (·.verification?)

theorem World.verifications_eq {π τ : Type} {w w' : World π τ} (new : List (Happening τ))
    (h : w'.history = new ++ w.history) :
    w.verifications w' = new.filterMap (·.verification?) := by
  rw [verifications, World.since_eq h]

namespace Trust.ChainValidator

open Net (Subject)
open TrustGate.Action (Still)

variable {π τ : Type} [Platform π τ] (v : ChainValidator) (w : World π τ)

/-! ## The worlds that a check leaves -/

/-- What is decided once the time is known needs no more calls. -/
theorem after_checkAnchor (leaf : Certificate) (subject : Option Subject) (target : String) :
    (v.checkAnchor leaf subject target).after w = v.timed w := by
  have hnamed (s : Subject) : Still (do
      if !Net.matchesAny (← Action.ofExcept leaf.leafNames) s then
        Action.refuse (Rejection.otherName target) : Action π τ Unit) := by
    refine .bind (.ofExcept _) fun names => ?_
    split
    · exact .ofExcept (.error _)
    · exact .ofExcept (.ok ())
  unfold checkAnchor
  rw [Action.after_bind_of_ok (v.now_eq w)]
  refine Still.bind (.ofExcept _) (fun valid => ?_) (v.timed w)
  simp only []
  split
  · exact .bind (.ofExcept (.error _)) fun _ => by
      split
      · exact hnamed _
      · exact .ofExcept (.ok ())
  · split
    · exact hnamed _
    · exact .ofExcept (.ok ())

/-- The world in which a verifier that is bound to a subject has been asked, if there is one. -/
def afterIssued (leaf : Certificate) (rest : List Certificate) (s : Subject) : World π τ :=
  match v.buildVerifier w s with
  | .ok _ => (v.prepared w).asked (.verify (v.question w leaf rest s))
  | .error _ => v.prepared w

/-- A verifier is bound and asked; its verdict settles the check, and nothing else is done. -/
theorem after_settle (s : Subject) (q : Verification)
    {settle : Reply (.verify q : Call τ) → Action π τ Unit} (haccepted : Still (settle .accepted))
    (hrefused : ∀ reason, Still (settle (.refused reason))) :
    (Action.ofExcept s.bind >>= fun _ => ask (.verify q) >>= settle).after w =
      match s.bind with
      | .ok _ => w.asked (.verify q)
      | .error _ => w := by
  cases s.bind with
  | error f => rfl
  | ok x =>
    show (ask (.verify q) >>= settle).after w = w.asked (.verify q)
    refine Action.after_bind_of_still fun reply => ?_
    cases reply with
    | accepted => exact haccepted
    | refused reason => exact hrefused reason

theorem after_checkIssued (leaf : Certificate) (rest : List Certificate) (s : Subject)
    (target authType : String) :
    (v.checkIssued leaf rest s target authType).after w = v.afterIssued w leaf rest s := by
  unfold checkIssued afterIssued question prepared buildVerifier
  cases v.clock with
  | none =>
    simp only []
    rw [Action.after_bind_of_ok
      (show (pure none : Action π τ (Option Time.DateTime)) w = _ from rfl)]
    refine (after_settle w s _ ?_ ?_).trans ?_
    · exact .ofExcept (.ok ())
    · exact fun reason => .ofExcept (.error _)
    · rfl
  | some n =>
    -- the clock is read before the subject is bound, so what it shows may end the check first
    simp only [Option.isSome_some, if_true]
    have hread := Action.bind_of_ok (v.now_eq w) fun t => Action.ofExcept (inUniversal t)
    rcases inUniversal_eq (v.present w) with ht | ht
    · have htime : (some <$> do Action.ofExcept (inUniversal (← v.now)) : Action π τ _) w =
          .ok (some (v.present w)) (v.timed w) := by
        rw [Action.map_eq, hread, ht]
        rfl
      rw [ht, Action.after_bind_of_ok htime]
      refine (after_settle (v.timed w) s _ ?_ ?_).trans ?_
      · exact .ofExcept (.ok ())
      · exact fun reason => .ofExcept (.error _)
      · rfl
    · have hfault : (some <$> do Action.ofExcept (inUniversal (← v.now)) : Action π τ _) w =
          .error (Failure.of TimeFault.outOfCalendar) (v.timed w) := by
        rw [Action.map_eq, hread, ht]
        rfl
      rw [ht, Action.after_bind_of_error hfault]
      rfl

/-- The world that is left by a chain whose leaf has to carry the name of a subject. -/
def afterLeaf (leaf : Certificate) (rest : List Certificate) (subject : Option Subject) :
    World π τ :=
  if v.isAnchor leaf then v.timed w
  else
    match subject with
    | none => w
    | some s => v.afterIssued w leaf rest s

/-- The world that is left by a chain that a host presents. -/
def afterChain (chain : List Certificate) (host : Option String) : World π τ :=
  match chain with
  | [] => w
  | leaf :: rest =>
    match v.checkHostname, nonempty? host with
    | true, none => w
    | true, some h =>
      match Subject.ofHost h with
      | .ok s => v.afterLeaf w leaf rest (some s)
      | .error _ => w
    | false, _ =>
      match leaf.leafNames with
      | .ok names => v.afterLeaf w leaf rest names.head?
      | .error _ => w

theorem after_check (chain : List Certificate) (authType : String) (host : Option String) :
    (v.check chain authType host).after w = v.afterChain w chain host := by
  cases chain with
  | nil => rfl
  | cons leaf rest =>
    have hleaf (subject : Option Subject) (target : String) :
        (if v.isAnchor leaf then v.checkAnchor leaf subject target
          else
            match subject with
            | none => Action.refuse (Rejection.noNames target)
            | some s => v.checkIssued leaf rest s target authType : Action π τ Unit).after w =
          v.afterLeaf w leaf rest subject := by
      unfold afterLeaf
      split
      · exact v.after_checkAnchor w leaf subject target
      · cases subject with
        | none => rfl
        | some s => exact v.after_checkIssued w leaf rest s target authType
    unfold check afterChain
    cases v.checkHostname with
    | false =>
      refine (Action.after_map_bind ..).trans ?_
      simp only []
      cases leaf.leafNames with
      | ok names => exact hleaf names.head? _
      | error f => rfl
    | true =>
      cases nonempty? host with
      | none => rfl
      | some h =>
        refine (Action.after_map_bind ..).trans ?_
        simp only []
        cases Subject.ofHost h with
        | ok s => exact hleaf (some s) _
        | error f => rfl

/-! ## What verifiers are asked -/

theorem verifications_timed : w.verifications (v.timed w) = [] := by
  unfold timed
  cases v.clock with
  | none => exact World.verifications_eq [.called .wallClock _] rfl
  | some n => exact World.verifications_eq [.called (.customClock n) _] rfl

theorem verifications_afterIssued (leaf : Certificate) (rest : List Certificate) (s : Subject) :
    w.verifications (v.afterIssued w leaf rest s) =
      match v.buildVerifier w s with
      | .ok _ => [v.question w leaf rest s]
      | .error _ => [] := by
  have hprepared : ∃ new, (v.prepared w).history = new ++ w.history ∧
      new.filterMap Happening.verification? = [] := by
    unfold prepared timed
    cases v.clock with
    | none => exact ⟨[], rfl, rfl⟩
    | some n => exact ⟨[.called (.customClock n) _], rfl, rfl⟩
  obtain ⟨new, hnew, hnone⟩ := hprepared
  unfold afterIssued
  cases v.buildVerifier w s with
  | error f => rw [World.verifications_eq new hnew, hnone]
  | ok x =>
    let q := v.question w leaf rest s
    have hasked : ((v.prepared w).asked (.verify q)).history =
        (.called (.verify q) ((v.prepared w).reply (.verify q)) :: new) ++ w.history := by
      rw [World.asked, hnew]
      rfl
    rw [World.verifications_eq _ hasked]
    exact congrArg (q :: ·) hnone

/-- What a verifier is asked about a chain if host names are not checked: nothing about an anchor
and nothing about a leaf without a name that a verifier can be bound to, and otherwise to vouch
for the leaf under its own first name. -/
def asks (chain : List Certificate) : List Verification :=
  match chain with
  | [] => []
  | leaf :: rest =>
    if v.isAnchor leaf then []
    else
      match leaf.leafNames with
      | .ok (s :: _) =>
        match v.buildVerifier w s with
        | .ok _ => [v.question w leaf rest s]
        | .error _ => []
      | _ => []

theorem verifications_afterChain (hunchecked : v.checkHostname = false)
    (chain : List Certificate) (host : Option String) :
    w.verifications (v.afterChain w chain host) = v.asks w chain := by
  have hnothing : w.verifications w = [] := World.verifications_eq [] rfl
  unfold afterChain asks
  cases chain with
  | nil => exact hnothing
  | cons leaf rest =>
    simp only [hunchecked]
    cases leaf.leafNames with
    | error f => simpa using hnothing
    | ok names =>
      simp only [afterLeaf]
      split
      · exact v.verifications_timed w
      · cases names with
        | nil => exact hnothing
        | cons s names => exact v.verifications_afterIssued w leaf rest s

/-- Where host names are not checked, a chain comes to the same whatever the host is: it is
accepted, rejected, or fails otherwise alike, the same world is left, and what verifiers are asked
on the way is a matter of the chain alone. -/
theorem host_without_influence (hunchecked : v.checkHostname = false) (chain : List Certificate)
    (authType : String) (host other : Option String) :
    judgement (v.check chain authType host w) = judgement (v.check chain authType other w) ∧
      (v.check chain authType host).after w = (v.check chain authType other).after w ∧
      w.verifications ((v.check chain authType host).after w) = v.asks w chain := by
  have hworld : v.afterChain w chain host = v.afterChain w chain other := by
    unfold afterChain
    simp only [hunchecked]
  have hjudgement : v.onChain w chain host = v.onChain w chain other := by
    unfold onChain
    simp only [hunchecked]
  refine ⟨?_, ?_, ?_⟩
  · rw [judgement_check, judgement_check, hjudgement]
  · rw [after_check, after_check, hworld]
  · rw [after_check, v.verifications_afterChain w hunchecked]

/-- A leaf that carries one name. -/
def namedLeaf : Certificate where
  octets := [1]
  serial := 1
  issuer := []
  subject := []
  notBefore := ⟨⟨2023, 1, 1⟩, ⟨0, 0, 0, 0⟩, some 0⟩
  notAfter := ⟨⟨2033, 1, 1⟩, ⟨0, 0, 0, 0⟩, some 0⟩
  keyAlgorithm := ⟨Certificate.ed25519, none⟩
  key := []
  extensions := [⟨Certificate.subjectAltName, false, [0x30, 0x05, 0x82, 0x03, 0x61, 0x2E, 0x62]⟩]

/-- A validator that leaves host names unchecked, with an anchor other than that leaf. -/
def hostBlind : ChainValidator where
  truststore := .material ⟨some "ca.pem", none⟩
  anchors := [{ namedLeaf with octets := [2] }]
  checkHostname := false
  clock := none

/-- A world in which the verifier refuses every chain. -/
def refusing : World Rehearsal.Stage Float :=
  .initial { Rehearsal.Stage.start 0.0 0.0 with verdict := .refused "no path" } .empty

/-- The leaf is refused under its own name, whether a host is given or not. -/
theorem host_without_influence_refused :
    hostBlind.checkHostname = false ∧
      judgement (hostBlind.check [namedLeaf] "EC" (some "other.example") refusing) = .rejects ∧
      judgement (hostBlind.check [namedLeaf] "EC" none refusing) = .rejects ∧
      refusing.verifications
          ((hostBlind.check [namedLeaf] "EC" (some "other.example")).after refusing) =
        [hostBlind.question refusing namedLeaf [] (.dns "a.b")] := by
  have hunchecked : hostBlind.checkHostname = false := rfl
  have hnone : judgement (hostBlind.check [namedLeaf] "EC" none refusing) = .rejects := by rfl
  obtain ⟨hsame, -, hasks⟩ :=
    hostBlind.host_without_influence refusing hunchecked [namedLeaf] "EC" (some "other.example")
      none
  exact ⟨hunchecked, hsame.trans hnone, hnone, hasks.trans rfl⟩

end Trust.ChainValidator

end TrustGate
