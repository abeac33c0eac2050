import TrustGate.Proofs.Config.Usable
import TrustGate.Proofs.Decimal.Whole
import TrustGate.Proofs.Value.Mapping

/-!
# What the fields of a configuration hold

A mapping is decoded field by field, and the order of its entries decides which fault is found
first.  Whether there is a fault, and what the configuration is without one, the order does not
decide:

    f.Admits v           the field may have the value
    f.kept v             the value as the field keeps it
    m.Typed              every key names a field that admits its value
    c.IsOver base m      the fields that `m` gives, and those of `base` for the rest

    decode m.entries = .ok c ↔ m.Typed ∧ c.IsOver .default m           (decode_eq_ok_iff)

Entries that are put on top of a mapping see no more of it than the configuration that it stands
for (decode_update), and a configuration stands for its own entries    (mapping_stands).
-/

namespace TrustGate

/-! ## Values of fields -/

/-- A number of seconds within a bound: a whole number that a double can hold, or a double. -/
inductive IsSeconds (whole : Int → Prop) (real : Float → Prop) : Value → Prop
  | whole {i : Int} (fits : Decimal.fitsBinary64 i = true) (bound : whole i) :
      IsSeconds whole real (.int i)
  | real {x : Float} (bound : real x) : IsSeconds whole real (.float x)

/-- A number of seconds as it is kept. -/
def Value.asSeconds : Value → Value
  | .int i => .float (Decimal.ofInt i)
  | v => v

namespace Field

/-- Whether a field may have a value. -/
def Admits (f : Field) (v : Value) : Prop :=
  match f with
  | .cafile | .cadata | .certfile | .keyfile | .keyPassword => v = .null ∨ ∃ s, v = .text s
  | .protocol => ∃ s ∈ ["TLSv1", "TLSv1.1", "TLSv1.2", "TLSv1.3"], v = .text s
  | .checkHostname | .debugLogging => ∃ b, v = .bool b
  | .connectTimeout => IsSeconds (0 ≤ ·) (0.0 ≤ ·) v
  | .soTimeout => v = .null ∨ IsSeconds (0 < ·) (0.0 < ·) v

/-- A value as a field keeps it. -/
def kept (f : Field) (v : Value) : Value :=
  match f with
  | .connectTimeout | .soTimeout => v.asSeconds
  | _ => v

theorem ofName?_name (f : Field) : ofName? f.name = some f := by
  cases f <;> rfl

theorem ofName?_eq_some_iff {name : String} {f : Field} :
    ofName? name = some f ↔ f.name = name := by
  constructor
  · intro h
    unfold ofName? at h
    have hfound := List.find?_some h
    exact beq_iff_eq.mp hfound
  · rintro rfl
    exact ofName?_name f

theorem name_injective : Function.Injective name := by
  intro f g h
  have hg := ofName?_name g
  rw [← h, ofName?_name] at hg
  exact Option.some.inj hg

theorem mem_all (f : Field) : f ∈ all := by
  cases f <;> decide

theorem kept_kept (f : Field) (v : Value) : f.kept (f.kept v) = f.kept v := by
  cases f <;> cases v <;> rfl

/-- The value that a field keeps is one that it admits. -/
theorem Admits.kept {f : Field} {v : Value} (h : f.Admits v) : f.Admits (f.kept v) := by
  cases f with
  | connectTimeout =>
    cases h with
    | whole _ hbound => exact .real ((Decimal.zero_le_ofInt_iff _).mpr hbound)
    | real hbound => exact .real hbound
  | soTimeout =>
    rcases h with rfl | h
    · exact .inl rfl
    · cases h with
      | whole _ hbound => exact .inr (.real ((Decimal.zero_lt_ofInt_iff _).mpr hbound))
      | real hbound => exact .inr (.real hbound)
  | _ => exact h

theorem admits_default (f : Field) : f.Admits (Config.default.valueOf f) := by
  cases f with
  | protocol => exact ⟨"TLSv1.2", by decide, rfl⟩
  | checkHostname => exact ⟨true, rfl⟩
  | debugLogging => exact ⟨false, rfl⟩
  | connectTimeout => exact .real (by decide)
  | _ => exact .inl rfl

theorem kept_default (f : Field) :
    f.kept (Config.default.valueOf f) = Config.default.valueOf f := by
  cases f <;> rfl

end Field

namespace Config

/-! ## Reading a value -/

theorem readText_eq_ok_iff {f : Field} {v : Value} {s : Option String} :
    readText f v = .ok s ↔ v = valueOf.optional s := by
  constructor
  · intro h
    unfold readText at h
    split at h <;> cases h <;> rfl
  · rintro rfl
    cases s <;> rfl

theorem readBool_eq_ok_iff {f : Field} {v : Value} {b : Bool} :
    readBool f v = .ok b ↔ v = .bool b := by
  constructor
  · intro h
    unfold readBool at h
    split at h <;> cases h
    rfl
  · rintro rfl
    rfl

theorem readProtocol_eq_ok_iff {f : Field} {v : Value} {s : String} :
    readProtocol f v = .ok s ↔
      s ∈ ["TLSv1", "TLSv1.1", "TLSv1.2", "TLSv1.3"] ∧ v = .text s := by
  constructor
  · intro h
    obtain ⟨version, hmem⟩ := mem_protocolNames_of_read h
    unfold readProtocol at h
    refine ⟨?_, ?_⟩
    · simp only [Tls.protocolNames, List.mem_cons, Prod.mk.injEq, List.not_mem_nil,
        or_false] at hmem
      simp only [List.mem_cons, List.not_mem_nil, or_false]
      tauto
    · split at h
      · split at h <;> cases h
        rfl
      · cases h
  · rintro ⟨hmem, rfl⟩
    simp only [List.mem_cons, List.not_mem_nil, or_false] at hmem
    rcases hmem with rfl | rfl | rfl | rfl <;> rfl

theorem readNumber_eq_ok_iff {f : Field} {expected : String} {v : Value} {x : Float} :
    readNumber f expected v = .ok x ↔
      v = .float x ∨ ∃ i, v = .int i ∧ Decimal.fitsBinary64 i = true ∧ x = Decimal.ofInt i := by
  constructor
  · intro h
    unfold readNumber at h
    split at h
    · cases h
      exact .inl rfl
    · next i =>
      split at h
      · next hfits =>
        cases h
        exact .inr ⟨i, rfl, hfits, rfl⟩
      · cases h
    · cases h
  · rintro (rfl | ⟨i, rfl, hfits, rfl⟩)
    · rfl
    · simp only [readNumber, hfits, if_true]

/-- A number is checked against its bound as a double, which is as good as before. -/
theorem bounded_eq_ok_iff {f : Field} {expected : String} {fault : ConfigFault} {whole : Int → Prop}
    {real : Float → Prop} [DecidablePred real] (hbound : ∀ i, real (Decimal.ofInt i) ↔ whole i)
    {v t : Value} :
    (do
      let x ← readNumber f expected v
      if real x then return .float x else .error fault : Except ConfigFault Value) = .ok t ↔
      IsSeconds whole real v ∧ t = v.asSeconds := by
  constructor
  · intro h
    obtain ⟨x, hx, h⟩ := exists_of_bind_ok h
    by_cases hreal : real x
    · rw [if_pos hreal] at h
      cases h
      rcases readNumber_eq_ok_iff.mp hx with rfl | ⟨i, rfl, hfits, rfl⟩
      · exact ⟨.real hreal, rfl⟩
      · exact ⟨.whole hfits ((hbound i).mp hreal), rfl⟩
    · rw [if_neg hreal] at h
      cases h
  · rintro ⟨h, rfl⟩
    cases h with
    | @whole i hfits hwhole =>
      rw [readNumber_eq_ok_iff.mpr (.inr ⟨i, rfl, hfits, rfl⟩)]
      exact if_pos ((hbound i).mpr hwhole)
    | @real x hreal =>
      rw [readNumber_eq_ok_iff.mpr (.inl rfl)]
      exact if_pos hreal

theorem readConnectTimeout_eq_ok_iff {f : Field} {v t : Value} :
    readConnectTimeout f v = .ok t ↔ IsSeconds (0 ≤ ·) (0.0 ≤ ·) v ∧ t = v.asSeconds :=
  bounded_eq_ok_iff Decimal.zero_le_ofInt_iff

theorem readSoTimeout_eq_ok_iff {f : Field} {v t : Value} :
    readSoTimeout f v = .ok t ↔
      (v = .null ∨ IsSeconds (0 < ·) (0.0 < ·) v) ∧ t = v.asSeconds := by
  by_cases hnull : v = .null
  · subst hnull
    simp [readSoTimeout, Value.asSeconds, eq_comm]
  · have hread : readSoTimeout f v = (do
        let x ← readNumber f "float | null" v
        if 0.0 < x then return .float x else .error (.outOfBounds f "> 0.0")) := by
      unfold readSoTimeout
      split
      · contradiction
      · rfl
    rw [hread, bounded_eq_ok_iff Decimal.zero_lt_ofInt_iff]
    simp [hnull]

/-! ## Setting a field -/

theorem optional_injective : Function.Injective valueOf.optional := by
  intro s t h
  cases s <;> cases t <;> cases h <;> rfl

/-- A configuration is known by its fields. -/
theorem eq_of_valueOf {c c' : Config} (h : ∀ f, c.valueOf f = c'.valueOf f) : c = c' := by
  have hprotocol := h .protocol
  have hcheck := h .checkHostname
  have hdebug := h .debugLogging
  simp only [valueOf, Value.text.injEq, Value.bool.injEq] at hprotocol hcheck hdebug
  cases c
  cases c'
  simp only [mk.injEq]
  exact ⟨optional_injective (h .cafile), optional_injective (h .cadata),
    optional_injective (h .certfile), optional_injective (h .keyfile),
    optional_injective (h .keyPassword), hprotocol, hcheck, h .connectTimeout, h .soTimeout, hdebug⟩

theorem admits_of_assign {c c' : Config} {f : Field} {v : Value} (h : c.assign f v = .ok c') :
    f.Admits v := by
  have htext {s : Option String} (h : readText f v = .ok s) : v = .null ∨ ∃ t, v = .text t := by
    rw [readText_eq_ok_iff.mp h]
    cases s with
    | none => exact .inl rfl
    | some t => exact .inr ⟨t, rfl⟩
  cases f with
  | protocol =>
    obtain ⟨s, hs, -⟩ := exists_of_map_ok h
    exact ⟨s, readProtocol_eq_ok_iff.mp hs⟩
  | connectTimeout =>
    obtain ⟨t, ht, -⟩ := exists_of_map_ok h
    exact (readConnectTimeout_eq_ok_iff.mp ht).1
  | soTimeout =>
    obtain ⟨t, ht, -⟩ := exists_of_map_ok h
    exact (readSoTimeout_eq_ok_iff.mp ht).1
  | checkHostname | debugLogging =>
    obtain ⟨b, hb, -⟩ := exists_of_map_ok h
    exact ⟨b, readBool_eq_ok_iff.mp hb⟩
  | _ =>
    obtain ⟨s, hs, -⟩ := exists_of_map_ok h
    exact htext hs

/-- A field that admits a value keeps it, and the other fields stay. -/
theorem exists_assign (c : Config) {f : Field} {v : Value} (h : f.Admits v) :
    ∃ c', c.assign f v = .ok c' ∧
      ∀ g, c'.valueOf g = if g = f then f.kept v else c.valueOf g := by
  cases f with
  | protocol =>
    obtain ⟨s, hmem, rfl⟩ := h
    refine ⟨{ c with protocol := s }, ?_, fun g => by cases g <;> rfl⟩
    simp only [assign, readProtocol_eq_ok_iff.mpr ⟨hmem, rfl⟩, Except.map]
  | connectTimeout =>
    refine ⟨{ c with connectTimeout := v.asSeconds }, ?_, fun g => by cases g <;> rfl⟩
    simp only [assign, readConnectTimeout_eq_ok_iff.mpr ⟨h, rfl⟩, Except.map]
  | soTimeout =>
    refine ⟨{ c with soTimeout := v.asSeconds }, ?_, fun g => by cases g <;> rfl⟩
    simp only [assign, readSoTimeout_eq_ok_iff.mpr ⟨h, rfl⟩, Except.map]
  | checkHostname | debugLogging =>
    obtain ⟨b, rfl⟩ := h
    exact ⟨_, rfl, fun g => by cases g <;> rfl⟩
  | _ =>
    rcases h with rfl | ⟨s, rfl⟩ <;> exact ⟨_, rfl, fun g => by cases g <;> rfl⟩

theorem valueOf_of_assign {c c' : Config} {f : Field} {v : Value} (h : c.assign f v = .ok c')
    (g : Field) : c'.valueOf g = if g = f then f.kept v else c.valueOf g := by
  obtain ⟨c'', h', hfields⟩ := c.exists_assign (admits_of_assign h)
  cases h.symm.trans h'
  exact hfields g

end Config

/-! ## Decoding -/

/-- Every key names a field, and the field admits its value. -/
def Mapping.Typed (m : Mapping) : Prop :=
  ∀ key v, (key, v) ∈ m.pairs → ∃ f : Field, f.name = key ∧ f.Admits v

/-- The fields that a mapping gives, and those of another configuration for the rest. -/
def Config.IsOver (c base : Config) (m : Mapping) : Prop :=
  ∀ f, c.valueOf f = ((m.get? f.name).map f.kept).getD (base.valueOf f)

namespace Config

theorem assignEntry_eq (c : Config) {f : Field} {key : String} (hf : f.name = key) (v : Value) :
    c.assignEntry (.text key, v) = c.assign f v := by
  simp only [assignEntry, Field.ofName?_eq_some_iff.mpr hf]

theorem exists_of_assignEntry {c c' : Config} {key : String} {v : Value}
    (h : c.assignEntry (.text key, v) = .ok c') :
    ∃ f : Field, f.name = key ∧ c.assign f v = .ok c' := by
  unfold assignEntry at h
  simp only at h
  split at h
  · next f hname => exact ⟨f, Field.ofName?_eq_some_iff.mp hname, h⟩
  · cases h

/-- Decoding goes on from a configuration as long as every entry is typed. -/
theorem foldlM_eq_ok_iff {pairs : List (String × Value)} (hdistinct : (pairs.map Prod.fst).Nodup)
    (base c : Config) :
    (pairs.map fun p => (Value.text p.1, p.2)).foldlM assignEntry base = .ok c ↔
      (∀ key v, (key, v) ∈ pairs → ∃ f : Field, f.name = key ∧ f.Admits v) ∧
      ∀ f, c.valueOf f = ((pairs.lookup f.name).map f.kept).getD (base.valueOf f) := by
  induction pairs generalizing base with
  | nil =>
    constructor
    · intro h
      cases h
      exact ⟨nofun, fun f => rfl⟩
    · rintro ⟨-, h⟩
      rw [eq_of_valueOf h]
      rfl
  | cons p rest ih =>
    obtain ⟨key, v⟩ := p
    rw [List.map_cons, List.nodup_cons] at hdistinct
    obtain ⟨hnew, hdistinct⟩ := hdistinct
    -- the field that the first entry sets is set by no later one
    have hstep {f : Field} (hf : f.name = key) {next : Config}
        (hnext : ∀ g, next.valueOf g = if g = f then f.kept v else base.valueOf g) (g : Field) :
        ((rest.lookup g.name).map g.kept).getD (next.valueOf g) =
          ((((key, v) :: rest).lookup g.name).map g.kept).getD (base.valueOf g) := by
      rw [hnext, List.lookup_cons]
      by_cases hg : g = f
      · subst hg
        rw [hf, lookup_eq_none_of_not_mem hnew]
        simp
      · have hne : (g.name == key) = false :=
          beq_eq_false_iff_ne.mpr fun h => hg (Field.name_injective (h.trans hf.symm))
        simp only [hne, if_neg hg]
    rw [List.map_cons, List.foldlM_cons]
    constructor
    · intro h
      obtain ⟨next, hnext, hrest⟩ := exists_of_bind_ok h
      obtain ⟨f, hf, hassign⟩ := exists_of_assignEntry hnext
      obtain ⟨htyped, hfields⟩ := (ih hdistinct next).mp hrest
      refine ⟨fun k x hmem => ?_, fun g => ?_⟩
      · rcases List.mem_cons.mp hmem with heq | hmem
        · cases heq
          exact ⟨f, hf, admits_of_assign hassign⟩
        · exact htyped k x hmem
      · rw [hfields g, hstep hf (valueOf_of_assign hassign)]
    · rintro ⟨htyped, hfields⟩
      obtain ⟨f, hf, hadmits⟩ := htyped key v List.mem_cons_self
      obtain ⟨next, hassign, hnext⟩ := base.exists_assign hadmits
      rw [assignEntry_eq base hf, hassign]
      refine (ih hdistinct next).mpr ⟨fun k x hmem => htyped k x (List.mem_cons_of_mem _ hmem),
        fun g => ?_⟩
      rw [hfields g, hstep hf hnext]

/-- A mapping is decoded if it is typed, and to the fields that it gives. -/
theorem decode_eq_ok_iff {m : Mapping} {c : Config} :
    decode m.entries = .ok c ↔ m.Typed ∧ c.IsOver .default m :=
  foldlM_eq_ok_iff m.distinct .default c

theorem exists_decode {m : Mapping} (h : m.Typed) : ∃ c, decode m.entries = .ok c := by
  have hfold {pairs : List (String × Value)} (base : Config)
      (h : ∀ key v, (key, v) ∈ pairs → ∃ f : Field, f.name = key ∧ f.Admits v) :
      ∃ c, (pairs.map fun p => (Value.text p.1, p.2)).foldlM assignEntry base = .ok c := by
    induction pairs generalizing base with
    | nil => exact ⟨base, rfl⟩
    | cons p rest ih =>
      obtain ⟨f, hf, hadmits⟩ := h p.1 p.2 List.mem_cons_self
      obtain ⟨next, hassign, -⟩ := base.exists_assign hadmits
      rw [List.map_cons, List.foldlM_cons, assignEntry_eq base hf, hassign]
      exact ih next fun key v hmem => h key v (List.mem_cons_of_mem p hmem)
  exact hfold .default h

end Config

/-! ## Entries on top of others -/

namespace Mapping

theorem Typed.admits {m : Mapping} (h : m.Typed) {f : Field} {v : Value}
    (hget : m.get? f.name = some v) : f.Admits v := by
  obtain ⟨g, hname, hadmits⟩ := h _ _ (get?_eq_some_iff.mp hget)
  rwa [Field.name_injective hname] at hadmits

/-- On top of a typed mapping it is the new entries that have to be typed. -/
theorem typed_update_iff {m : Mapping} (h : m.Typed) (top : Mapping) :
    (m.update top).Typed ↔ top.Typed := by
  constructor
  · intro hupdate key v hmem
    refine hupdate key v (get?_eq_some_iff.mp ?_)
    rw [get?_update, get?_eq_some_iff.mpr hmem]
    rfl
  · intro htop key v hmem
    have hget := get?_eq_some_iff.mpr hmem
    rw [get?_update, Option.or_eq_some_iff] at hget
    rcases hget with hnew | ⟨-, hold⟩
    · exact htop key v (get?_eq_some_iff.mp hnew)
    · exact h key v (get?_eq_some_iff.mp hold)

end Mapping

namespace Config

theorem isOver_update_iff {m : Mapping} {base held : Config} (h : held.IsOver base m) {c : Config}
    {top : Mapping} : c.IsOver base (m.update top) ↔ c.IsOver held top := by
  refine forall_congr' fun f => ?_
  rw [Mapping.get?_update]
  cases top.get? f.name with
  | none => rw [Option.none_or, Option.map_none, Option.getD_none, h f]
  | some v => rfl

/-- Entries that are put on top of a mapping see of it only what it stands for. -/
theorem decode_update {m : Mapping} {held : Config} (h : decode m.entries = .ok held)
    {top : Mapping} {c : Config} :
    decode (m.update top).entries = .ok c ↔ top.Typed ∧ c.IsOver held top := by
  obtain ⟨htyped, hfields⟩ := decode_eq_ok_iff.mp h
  rw [decode_eq_ok_iff, Mapping.typed_update_iff htyped, isOver_update_iff hfields]

/-! ## A configuration as a mapping -/

/-- All fields of a configuration by their names. -/
def mapping (c : Config) : Mapping where
  pairs := Field.all.map fun f => (f.name, c.valueOf f)
  distinct := by
    rw [List.map_map]
    exact List.Nodup.map Field.name_injective (by decide)

theorem entries_mapping (c : Config) : c.mapping.entries = c.entries := rfl

theorem get?_mapping (c : Config) (f : Field) : c.mapping.get? f.name = some (c.valueOf f) :=
  Mapping.get?_eq_some_iff.mpr (List.mem_map.mpr ⟨f, f.mem_all, rfl⟩)

/-- Decoded fields hold what they may hold, as they keep it. -/
theorem valueOf_of_decode {m : Mapping} {c : Config} (h : decode m.entries = .ok c) (f : Field) :
    f.Admits (c.valueOf f) ∧ f.kept (c.valueOf f) = c.valueOf f := by
  obtain ⟨htyped, hfields⟩ := decode_eq_ok_iff.mp h
  rw [hfields f]
  cases hget : m.get? f.name with
  | none => exact ⟨f.admits_default, f.kept_default⟩
  | some v => exact ⟨(htyped.admits hget).kept, f.kept_kept v⟩

/-- A configuration stands for its own entries. -/
theorem mapping_stands {m : Mapping} {c : Config} (h : decode m.entries = .ok c) :
    decode c.mapping.entries = .ok c := by
  refine decode_eq_ok_iff.mpr ⟨fun key v hmem => ?_, fun f => ?_⟩
  · obtain ⟨f, -, heq⟩ := List.mem_map.mp hmem
    cases heq
    exact ⟨f, rfl, (valueOf_of_decode h f).1⟩
  · rw [get?_mapping]
    exact (valueOf_of_decode h f).2.symm

end Config

end TrustGate
