import TrustGate.Proofs.Value.Mapping

/-!
# The tables of a document

Every table that is read has texts for keys, and none of them twice:

    Tidy v          every table in `v` is a mapping
    t.IsTidy        the table is a mapping of tidy values

Changes at the end of a path keep a table tidy if they keep the table that they change
(IsTidy.within).  Values are tidy by induction on the fuel that they are read with (takesTidy), and
a document by what each of its statements does                        (read?_isTidy).
-/

namespace TrustGate.Toml

/-- A value whose tables are mappings. -/
inductive Tidy : Value → Prop
  | table (m : Mapping) (inner : ∀ key v, (key, v) ∈ m.pairs → Tidy v) : Tidy (.dict m.entries)
  | list {items : List Value} (inner : ∀ v ∈ items, Tidy v) : Tidy (.list items)
  | single {v : Value} (h : isContainer v = false) : Tidy v

theorem Tidy.items {items : List Value} (h : Tidy (.list items)) : ∀ v ∈ items, Tidy v := by
  cases h with
  | list hitems => exact hitems
  | single hsingle => cases hsingle

/-- A table that is a mapping of tidy values. -/
def Table.IsTidy (t : Table) : Prop := Tidy (.dict t)

namespace Table

variable {t t' : Table} {name : String} {v : Value} {path : Path}

theorem get?_entries (m : Mapping) (name : String) : Table.get? m.entries name = m.get? name := by
  show ((m.pairs.map fun p => (Value.text p.1, p.2)).find? (isKey name)).map (·.2) =
    m.pairs.lookup name
  induction m.pairs with
  | nil => rfl
  | cons p rest ih =>
    obtain ⟨key, v⟩ := p
    have hkey : isKey name (.text key, v) = (key == name) := by
      simp only [isKey, Value.sameKey]
    rw [List.map_cons, List.find?_cons, hkey, List.lookup_cons, BEq.comm]
    cases name == key with
    | true => rfl
    | false => exact ih

theorem isTidy_nil : IsTidy [] := Tidy.table ⟨[], List.nodup_nil⟩ nofun

theorem IsTidy.exists_mapping (h : t.IsTidy) :
    ∃ m : Mapping, m.entries = t ∧ ∀ key v, (key, v) ∈ m.pairs → Tidy v := by
  unfold IsTidy at h
  cases h with
  | table m hinner => exact ⟨m, rfl, hinner⟩
  | single h => cases h

theorem IsTidy.get (h : t.IsTidy) (hget : t.get? name = some v) : Tidy v := by
  obtain ⟨m, rfl, hinner⟩ := h.exists_mapping
  rw [get?_entries, Mapping.get?_eq_some_iff] at hget
  exact hinner name v hget

theorem IsTidy.put (h : t.IsTidy) (hv : Tidy v) : (t.put name v).IsTidy := by
  obtain ⟨m, rfl, hinner⟩ := h.exists_mapping
  have hput : Table.put m.entries name v = (m.set name v).entries := (m.entries_set name v).symm
  rw [hput]
  refine Tidy.table (m.set name v) fun key x hmem => ?_
  have hget := Mapping.get?_eq_some_iff.mpr hmem
  rw [Mapping.get?_set] at hget
  split at hget
  · cases hget
    exact hv
  · exact hinner key x (Mapping.get?_eq_some_iff.mp hget)

/-- A change of the table at the end of a path keeps the whole tidy if it keeps that table. -/
theorem IsTidy.within {lists : Bool} {change : Table → Option Table}
    (hchange : ∀ t t' : Table, t.IsTidy → change t = some t' → t'.IsTidy) (h : t.IsTidy)
    (hwithin : Table.within lists change path t = some t') : t'.IsTidy := by
  induction path generalizing t t' with
  | nil => exact hchange t t' h hwithin
  | cons name path ih =>
    unfold Table.within at hwithin
    split at hwithin
    · obtain ⟨inner, hinner, rfl⟩ := Option.map_eq_some_iff.mp hwithin
      exact h.put (ih isTidy_nil hinner)
    · next inner hget =>
      obtain ⟨inner', hinner, rfl⟩ := Option.map_eq_some_iff.mp hwithin
      exact h.put (ih (h.get hget) hinner)
    · next items hget =>
      split at hwithin
      · cases hwithin
      · split at hwithin
        · next inner hlast =>
          obtain ⟨inner', hinner, rfl⟩ := Option.map_eq_some_iff.mp hwithin
          have hitems := (h.get hget).items
          refine h.put (.list fun v hv => ?_)
          rcases List.mem_append.mp hv with hv | hv
          · exact hitems v (List.dropLast_subset items hv)
          · rw [List.mem_singleton.mp hv]
            exact ih (hitems _ (List.mem_of_getLast? hlast)) hinner
        · cases hwithin
    · cases hwithin

theorem IsTidy.addNew (hv : Tidy v) (t t' : Table) (h : t.IsTidy)
    (hadd : Table.addNew name v t = some t') : t'.IsTidy := by
  unfold Table.addNew at hadd
  split at hadd
  · cases hadd
  · cases hadd
    exact h.put hv

theorem IsTidy.addItem (t t' : Table) (h : t.IsTidy) (hadd : Table.addItem name t = some t') :
    t'.IsTidy := by
  have hnew : ∀ v ∈ [Value.dict []], Tidy v := by
    intro v hv
    rw [List.mem_singleton.mp hv]
    exact isTidy_nil
  unfold Table.addItem at hadd
  split at hadd
  · cases hadd
    exact h.put (.list hnew)
  · next items hget =>
    cases hadd
    exact h.put (.list (List.forall_mem_append.mpr ⟨(h.get hget).items, hnew⟩))
  · cases hadd

end Table

/-! ## Values -/

section Values

variable {cs rest : List Char} {v : Value}

theorem takeWord?_eq_some {word : String} {x : Value} (h : takeWord? word x cs = some (v, rest)) :
    v = x := by
  unfold takeWord? at h
  split at h
  · cases h
    rfl
  · cases h

theorem takeBased?_single (h : takeBased? cs = some (v, rest)) : isContainer v = false := by
  have hbased {base : Nat} {isDigit : Char → Bool} {cs : List Char}
      (h : (takeGroup? isDigit cs).map (fun taken =>
        (Value.int (digitsValue base taken.1), taken.2)) = some (v, rest)) :
      isContainer v = false := by
    obtain ⟨taken, -, heq⟩ := Option.map_eq_some_iff.mp h
    cases heq
    rfl
  unfold takeBased? at h
  split at h
  · simp only at h
    split at h
    · exact hbased h
    · split at h
      · exact hbased h
      · split at h
        · exact hbased h
        · cases h
  · cases h

theorem takeDecimal?_single (h : takeDecimal? cs = some (v, rest)) : isContainer v = false := by
  unfold takeDecimal? at h
  simp only [Option.bind_eq_bind, Option.bind_eq_some_iff] at h
  obtain ⟨⟨whole, cs'⟩, -, h⟩ := h
  simp only at h
  split at h <;> cases h <;> rfl

theorem takeSpecial?_single (h : takeSpecial? cs = some (v, rest)) : isContainer v = false := by
  simp only [takeSpecial?, Option.orElse_eq_or, Option.or_eq_some_iff] at h
  rcases h with h | ⟨-, h | ⟨-, h | ⟨-, h | ⟨-, h | ⟨-, h⟩⟩⟩⟩⟩ <;> rw [takeWord?_eq_some h] <;> rfl

theorem takeNumber?_single (h : takeNumber? cs = some (v, rest)) : isContainer v = false := by
  simp only [takeNumber?, Option.orElse_eq_or, Option.or_eq_some_iff] at h
  rcases h with h | ⟨-, h | ⟨-, h⟩⟩
  · exact takeBased?_single h
  · exact takeDecimal?_single h
  · exact takeSpecial?_single h

theorem takeTime?_single (h : takeTime? cs = some (some (v, rest))) : isContainer v = false := by
  unfold takeTime? at h
  split at h
  · split at h
    · cases h
    · split at h <;> cases h <;> rfl
  · obtain ⟨⟨clock, cs'⟩, -, heq⟩ := Option.map_eq_some_iff.mp h
    cases heq
    rfl

/-- A word, a time or a number. -/
theorem takeSingle_single
    (h : (takeWord? "true" (.bool true) cs).orElse (fun _ =>
      (takeWord? "false" (.bool false) cs).orElse fun _ => (takeTime? cs).getD (takeNumber? cs)) =
        some (v, rest)) : isContainer v = false := by
  simp only [Option.orElse_eq_or, Option.or_eq_some_iff] at h
  rcases h with h | ⟨-, h | ⟨-, h⟩⟩
  · rw [takeWord?_eq_some h]
    rfl
  · rw [takeWord?_eq_some h]
    rfl
  · cases htime : takeTime? cs with
    | none =>
      rw [htime] at h
      exact takeNumber?_single h
    | some taken =>
      rw [htime] at h
      cases h
      exact takeTime?_single htime

/-- What is read with some fuel is tidy. -/
structure TakesTidy (fuel : Nat) : Prop where
  value : ∀ {cs v rest}, takeValue? fuel cs = some (v, rest) → Tidy v
  items : ∀ {cs items rest}, takeItems? fuel cs = some (items, rest) → ∀ v ∈ items, Tidy v
  inline : ∀ {table t : Table} {closed cs rest}, table.IsTidy →
    takeInline? fuel table closed cs = some (t, rest) → t.IsTidy

variable {fuel : Nat}

theorem TakesTidy.takeValue (h : TakesTidy fuel) (hv : takeValue? (fuel + 1) cs = some (v, rest)) :
    Tidy v := by
  unfold takeValue? at hv
  split at hv
  · obtain ⟨⟨s, cs1⟩, -, heq⟩ := Option.map_eq_some_iff.mp hv
    cases heq
    exact .single rfl
  · obtain ⟨⟨s, cs1⟩, -, heq⟩ := Option.map_eq_some_iff.mp hv
    cases heq
    exact .single rfl
  · obtain ⟨cs1, -, hv⟩ := Option.bind_eq_some_iff.mp hv
    split at hv
    · cases hv
      exact .list nofun
    · obtain ⟨⟨items, cs2⟩, hitems, hv⟩ := Option.bind_eq_some_iff.mp hv
      cases hv
      exact .list (h.items hitems)
  · split at hv
    · cases hv
      exact Table.isTidy_nil
    · obtain ⟨⟨t, cs1⟩, ht, heq⟩ := Option.map_eq_some_iff.mp hv
      cases heq
      exact h.inline Table.isTidy_nil ht
  · exact .single (takeSingle_single hv)

theorem TakesTidy.takeItems (h : TakesTidy fuel) {items : List Value}
    (hitems : takeItems? (fuel + 1) cs = some (items, rest)) : ∀ v ∈ items, Tidy v := by
  unfold takeItems? at hitems
  obtain ⟨⟨item, cs1⟩, hitem, hitems⟩ := Option.bind_eq_some_iff.mp hitems
  have hfirst : Tidy item := h.value hitem
  have hone : ∀ v ∈ [item], Tidy v := by
    intro v hv
    rwa [List.mem_singleton.mp hv]
  obtain ⟨cs2, -, hitems⟩ := Option.bind_eq_some_iff.mp hitems
  split at hitems
  · cases hitems
    exact hone
  · obtain ⟨cs3, -, hitems⟩ := Option.bind_eq_some_iff.mp hitems
    split at hitems
    · cases hitems
      exact hone
    · obtain ⟨⟨others, cs4⟩, hothers, hitems⟩ := Option.bind_eq_some_iff.mp hitems
      cases hitems
      exact List.forall_mem_cons.mpr ⟨hfirst, h.items hothers⟩
  · cases hitems

theorem TakesTidy.takeInline (h : TakesTidy fuel) {table t : Table} {closed : List Path}
    (htable : table.IsTidy) (ht : takeInline? (fuel + 1) table closed cs = some (t, rest)) :
    t.IsTidy := by
  unfold takeInline? at ht
  obtain ⟨⟨path, cs1⟩, -, ht⟩ := Option.bind_eq_some_iff.mp ht
  obtain ⟨cs2, -, ht⟩ := Option.bind_eq_some_iff.mp ht
  obtain ⟨⟨v, cs3⟩, hv, ht⟩ := Option.bind_eq_some_iff.mp ht
  simp only at ht
  split at ht
  · cases ht
  · obtain ⟨next, hnext, ht⟩ := Option.bind_eq_some_iff.mp ht
    have htidy : next.IsTidy := Table.IsTidy.within (Table.IsTidy.addNew (h.value hv)) htable hnext
    split at ht
    · cases ht
      exact htidy
    · exact h.inline htidy ht
    · cases ht

/-- One unit of fuel more is spent on one value, item or pair. -/
theorem takesTidy (fuel : Nat) : TakesTidy fuel := by
  induction fuel with
  | zero => exact ⟨nofun, nofun, nofun⟩
  | succ fuel ih => exact ⟨ih.takeValue, ih.takeItems, ih.takeInline⟩

end Values

/-! ## Documents -/

section Documents

variable {r r' : Reading} {path : Path} {v : Value} {cs rest : List Char}

theorem Reading.openTable_isTidy (h : r.table.IsTidy) (ho : r.openTable path = some r') :
    r'.table.IsTidy := by
  unfold Reading.openTable at ho
  simp only at ho
  split at ho
  · cases ho
  · obtain ⟨table, htable, ho⟩ := Option.bind_eq_some_iff.mp ho
    cases ho
    refine Table.IsTidy.within (fun t t' ht heq => ?_) h htable
    cases heq
    exact ht

theorem Reading.openItem_isTidy (h : r.table.IsTidy) (ho : r.openItem path = some r') :
    r'.table.IsTidy := by
  unfold Reading.openItem at ho
  simp only at ho
  split at ho
  · cases ho
  · obtain ⟨table, htable, ho⟩ := Option.bind_eq_some_iff.mp ho
    cases ho
    exact Table.IsTidy.within Table.IsTidy.addItem h htable

theorem Reading.add_isTidy (h : r.table.IsTidy) (hv : Tidy v) (ha : r.add path v = some r') :
    r'.table.IsTidy := by
  unfold Reading.add at ha
  simp only at ha
  split at ha
  · cases ha
  · obtain ⟨table, htable, ha⟩ := Option.bind_eq_some_iff.mp ha
    cases ha
    exact Table.IsTidy.within (Table.IsTidy.addNew hv) h htable

/-- A statement keeps the table tidy. -/
theorem takeStatement?_isTidy (h : r.table.IsTidy) (hs : takeStatement? r cs = some (r', rest)) :
    r'.table.IsTidy := by
  unfold takeStatement? at hs
  split at hs
  · obtain ⟨⟨path, cs1⟩, -, hs⟩ := Option.bind_eq_some_iff.mp hs
    obtain ⟨opened, hopened, hs⟩ := Option.bind_eq_some_iff.mp hs
    obtain ⟨cs2, -, hs⟩ := Option.bind_eq_some_iff.mp hs
    cases hs
    exact Reading.openItem_isTidy h hopened
  · obtain ⟨⟨path, cs1⟩, -, hs⟩ := Option.bind_eq_some_iff.mp hs
    obtain ⟨opened, hopened, hs⟩ := Option.bind_eq_some_iff.mp hs
    obtain ⟨cs2, -, hs⟩ := Option.bind_eq_some_iff.mp hs
    cases hs
    exact Reading.openTable_isTidy h hopened
  · cases hs
    exact h
  · obtain ⟨⟨path, cs1⟩, -, hs⟩ := Option.bind_eq_some_iff.mp hs
    obtain ⟨cs2, -, hs⟩ := Option.bind_eq_some_iff.mp hs
    obtain ⟨⟨v, cs3⟩, hv, hs⟩ := Option.bind_eq_some_iff.mp hs
    obtain ⟨added, hadded, hs⟩ := Option.bind_eq_some_iff.mp hs
    cases hs
    exact Reading.add_isTidy h ((takesTidy _).value hv) hadded

theorem readLines_isTidy {fuel : Nat} {t : Table} (h : r.table.IsTidy)
    (ht : readLines fuel r cs = some t) : t.IsTidy := by
  induction fuel generalizing r cs with
  | zero => cases ht
  | succ fuel ih =>
    unfold readLines at ht
    split at ht
    · cases ht
      exact h
    · exact ih h ht
    · obtain ⟨⟨next, cs1⟩, hstatement, ht⟩ := Option.bind_eq_some_iff.mp ht
      have hnext := takeStatement?_isTidy h hstatement
      obtain ⟨cs2, -, ht⟩ := Option.bind_eq_some_iff.mp ht
      split at ht
      · cases ht
        exact hnext
      · exact ih hnext ht
      · cases ht

/-- A document that is read is a mapping, and so are the tables in it. -/
theorem read?_isTidy {text : String} {document : Table} (h : read? text = some document) :
    document.IsTidy := readLines_isTidy Table.isTidy_nil h

end Documents

end TrustGate.Toml
