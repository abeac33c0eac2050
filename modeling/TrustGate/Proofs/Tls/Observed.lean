import TrustGate.Proofs.Tls.Steady

/-!
# Sessions under observation

Observers have no say in what becomes of a session.  What is done with sessions ends alike
in worlds that are alike, act by act:

    act.perform        wraps a socket, has a chain checked, or uses a session
    proceed acts w     what comes of one act after the other

By induction over what is done, with any sessions and in any order, so do whole runs
(perform_alike, proceed_alike).
-/

namespace TrustGate.Tls

open TrustGate.Action (Coupled)
open Trust (Provider Observer)

variable {π τ : Type}

/-- What can come of what is done with sessions. -/
inductive Yield where
  | done
  | session (id : SocketId)
  | octets (bs : Octets)
  | taken (count : Nat)
  | chain (certificates : List Certificate)
  | version (v : Option String)
  | cipher (c : Option Cipher)

/-- What can be done with contexts, validators and sessions. -/
inductive Act where
  | wrap (c : Context) (socket : SocketId) (host : Option String) (handshake : Bool)
  | check (p : Provider) (chain : List Certificate) (authType : String) (host : Option String)
  | operate (id : SocketId) (op : Session.Operation)
  | peerChain (id : SocketId)
  | version (id : SocketId)
  | cipher (id : SocketId)

/-- Acts that differ in observers at most, and in these as `Q` allows. -/
inductive Act.Alike (Q : Observer → Observer → Prop) : Act → Act → Prop
  | wrap {c d : Context} (socket : SocketId) (host : Option String) (handshake : Bool) :
      c.Alike Q d → Alike Q (.wrap c socket host handshake) (.wrap d socket host handshake)
  | check {p q : Provider} (chain : List Certificate) (authType : String)
      (host : Option String) : p.Alike Q q →
      Alike Q (.check p chain authType host) (.check q chain authType host)
  | operate (id : SocketId) (op : Session.Operation) : Alike Q (.operate id op) (.operate id op)
  | peerChain (id : SocketId) : Alike Q (.peerChain id) (.peerChain id)
  | version (id : SocketId) : Alike Q (.version id) (.version id)
  | cipher (id : SocketId) : Alike Q (.cipher id) (.cipher id)

/-- A result or a failure, without the world it leaves. -/
def outcome {α : Type} : EStateM.Result Failure (World π τ) α → Except Failure α
  | .ok x _ => .ok x
  | .error f _ => .error f

theorem outcome_eq {α : Type} {I : World π τ → World π τ → Prop}
    {p q : EStateM.Result Failure (World π τ) α} (h : Action.EndsAlike I Eq p q) :
    outcome p = outcome q := by
  cases h with
  | ok hxy _ => exact congrArg Except.ok hxy
  | error _ => rfl

variable [Platform π τ]

/-! ## Runs -/

def Session.Operation.obtain (id : SocketId) : Operation → Action π τ Yield
  | .handshake => (fun _ => .done) <$> doHandshake id
  | .read size => .octets <$> Session.read id size
  | .receive size => .octets <$> Session.receive id size
  | .write data => .taken <$> Session.write id data
  | .send data => .taken <$> Session.send id data
  | .sendAll data => (fun _ => .done) <$> Session.sendAll id data
  | .close => (fun _ => .done) <$> Session.close id

def Act.perform : Act → Action π τ Yield
  | .wrap c socket host handshake => .session <$> c.wrap socket host handshake
  | .check p chain authType host => (fun _ => .done) <$> p.check chain authType host
  | .operate id op => op.obtain id
  | .peerChain id => .chain <$> Session.peerChain id
  | .version id => .version <$> Session.version id
  | .cipher id => .cipher <$> Session.cipher id

/-- One act after the other, whether they fail or not: what came of each, and the last world. -/
def proceed : List Act → World π τ → List (Except Failure Yield) × World π τ
  | [], w => ([], w)
  | act :: rest, w =>
    let later := proceed rest (act.perform.after w)
    (outcome (act.perform w) :: later.1, later.2)

section

variable {Q : Observer → Observer → Prop} {I : World π τ → World π τ → Prop} (hI : Steady Q I)

include hI

theorem Session.Operation.obtain_alike (id : SocketId) (op : Operation) :
    Coupled I Eq (op.obtain id : Action π τ Yield) (op.obtain id) := by
  cases op with
  | handshake => exact .map_same _ (doHandshake_alike hI id)
  | read size => exact .map_same _ (read_alike hI id size)
  | receive size => exact .map_same _ (receive_alike hI id size)
  | write data => exact .map_same _ (write_alike hI id data)
  | send data => exact .map_same _ (send_alike hI id data)
  | sendAll data => exact .map_same _ (sendAll_alike hI id data)
  | close => exact .map_same _ (close_alike hI id)

theorem perform_alike {act act' : Act} (h : act.Alike Q act') :
    Coupled I Eq (act.perform : Action π τ Yield) act'.perform := by
  cases h with
  | wrap socket host handshake hc =>
    exact .map_same _ (Context.wrap_alike hI hc socket host handshake)
  | check chain authType host hp => exact .map_same _ (hp.check hI chain authType host)
  | operate id op => exact op.obtain_alike hI id
  | peerChain id => exact .map_same _ (Session.peerChain_alike hI id)
  | version id => exact .map_same _ (Session.version_alike hI id)
  | cipher id => exact .map_same _ (Session.cipher_alike hI id)

theorem proceed_alike {acts acts' : List Act} (h : acts.Forall₂ (Act.Alike Q) acts')
    {w v : World π τ} (hw : I w v) :
    (proceed acts w).1 = (proceed acts' v).1 ∧ I (proceed acts w).2 (proceed acts' v).2 := by
  induction h generalizing w v with
  | nil => exact ⟨rfl, hw⟩
  | @cons act act' rest rest' hact _ ih =>
    have hends := perform_alike hI hact w v hw
    have hlater : I (act.perform.after w) (act'.perform.after v) := hends.final
    obtain ⟨houtcomes, hworlds⟩ := ih hlater
    constructor
    · show outcome (act.perform w) :: _ = outcome (act'.perform v) :: _
      rw [outcome_eq hends, houtcomes]
    · exact hworlds

end

/-! ## Observers or none -/

/-- All observers of its validators are mild. -/
def Context.IsMild (c : Context) : Prop := ∀ p ∈ c.managers, p.IsMild

/-- The context with observers that do nothing. -/
def Context.muted (c : Context) : Context := { c with managers := c.managers.map Provider.muted }

def Act.IsMild : Act → Prop
  | .wrap c _ _ _ => c.IsMild
  | .check p _ _ _ => p.IsMild
  | .operate _ _ | .peerChain _ | .version _ | .cipher _ => True

def Act.muted : Act → Act
  | .wrap c socket host handshake => .wrap c.muted socket host handshake
  | .check p chain authType host => .check p.muted chain authType host
  | act => act

omit [Platform π τ] in
theorem Act.alike_muted {act : Act} (h : act.IsMild) : act.Alike Observer.BothMild act.muted := by
  cases act with
  | wrap c socket host handshake =>
    exact .wrap socket host handshake ⟨rfl, Provider.forall₂_alike_muted h⟩
  | check p chain authType host => exact .check chain authType host (Provider.alike_muted h)
  | operate id op => exact .operate id op
  | peerChain id => exact .peerChain id
  | version id => exact .version id
  | cipher id => exact .cipher id

/-- Whether observers do nothing or whatever they like, short of stopping the program, the same
comes of all acts, and the worlds that are left are alike.  A validator behind a delegate is asked
right after the delegate's observer was told of the same chain, once. -/
theorem observers_only_listen (acts : List Act) (hacts : ∀ act ∈ acts, act.IsMild)
    (w : World π τ) (hw : w.IsMild) :
    ((proceed acts w).1 = (proceed (acts.map Act.muted) w.muted).1 ∧
      (proceed acts w).2.Alike (proceed (acts.map Act.muted) w.muted).2) ∧
    ∀ (validator : Provider) (o : Observer) (chain : List Certificate) (authType : String)
      (host : Option String) (u : World π τ), validator.IsMild → o.IsMild →
      ∃ u', o.notify ⟨chain, authType, host, validator.typeName⟩ u = .ok () u' ∧
        (Provider.delegate validator o).check chain authType host u =
          validator.check chain authType host u' ∧
        (((Provider.delegate validator o).check chain authType host).after u).notes =
          u.notes ++ ((o.heard ⟨chain, authType, host, validator.typeName⟩).map
            fun x => .told x.1 x.2) ++ validator.notes chain authType host := by
  constructor
  · have halike : acts.Forall₂ (Act.Alike Observer.BothMild) (acts.map Act.muted) :=
      List.forall₂_map_right_iff.mpr (List.forall₂_same.mpr fun act h =>
        Act.alike_muted (hacts act h))
    exact proceed_alike steady_alike halike (World.alike_muted hw)
  · intro validator o chain authType host u hvalidator ho
    obtain ⟨j, hj⟩ := Observer.notify_mild ho ⟨chain, authType, host, validator.typeName⟩ u
    refine ⟨_, hj, Action.bind_of_ok hj _, ?_⟩
    have hmild : (Provider.delegate validator o).IsMild := ⟨hvalidator, ho⟩
    rw [Provider.notes_check hmild, List.append_assoc]
    rfl

/-- Fails whenever it is told of something. -/
def grumbling : Observer := .custom "grumbling" fun _ _ => some (Failure.plain .exception "no")

theorem grumbling_isMild : grumbling.IsMild := by
  intro past event f h
  cases h
  rfl

open TrustGate.Tls.Session (judge smooth)

/-- A session whose validator stands behind two delegates, and a read. -/
def grumbledRead : List Act :=
  [.wrap ⟨0, .tls12, true, [.delegate (.delegate (judge 0) grumbling) grumbling]⟩ 0 none true,
    .operate 0 (.read 4)]

/-- Both observers fail when they are told, and the read goes through as if they did nothing. -/
theorem observers_only_listen_grumbling :
    (∀ act ∈ grumbledRead, act.IsMild) ∧ World.IsMild smooth ∧ (judge 0).IsMild ∧
      grumbling.IsMild ∧
      (proceed grumbledRead smooth).1.map Except.isOk = [true, true] ∧
      ((proceed grumbledRead smooth).1 =
          (proceed (grumbledRead.map Act.muted) smooth.muted).1 ∧
        (proceed grumbledRead smooth).2.Alike
          (proceed (grumbledRead.map Act.muted) smooth.muted).2) ∧
      ∃ u', grumbling.notify ⟨[], "UNKNOWN", none, "Validator"⟩ smooth = .ok () u' ∧
        (Provider.delegate (judge 0) grumbling).check [] "UNKNOWN" none smooth =
          (judge 0).check [] "UNKNOWN" none u' := by
  have hacts : ∀ act ∈ grumbledRead, act.IsMild := by
    intro act hact
    rcases List.mem_cons.mp hact with rfl | hact
    · intro p hp
      rcases List.mem_singleton.mp hp with rfl
      exact ⟨⟨trivial, grumbling_isMild⟩, grumbling_isMild⟩
    · rcases List.mem_singleton.mp hact with rfl
      trivial
  have hsmooth : World.IsMild smooth := by
    intro id s hs
    cases hs
  obtain ⟨hrun, htold⟩ := observers_only_listen grumbledRead hacts smooth hsmooth
  obtain ⟨u', hnotify, hcheck, -⟩ :=
    htold (judge 0) grumbling [] "UNKNOWN" none smooth trivial grumbling_isMild
  exact ⟨hacts, hsmooth, trivial, grumbling_isMild, by decide +kernel, hrun, u', hnotify, hcheck⟩

end TrustGate.Tls
