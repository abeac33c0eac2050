import TrustGate.Proofs.Logging.Image
import TrustGate.Proofs.Text.Points

/-!
# One record, one line

What a record says is in its line, whatever details were attached to it:

    r.Formattable name level message time      its own attributes have their types, its message can
                                               be filled in and its time can be told
    r.setAll attributes                        the record with details attached one after the other
    LineTells style r … attributes members     what the members of its line tell of it
    Unwritable message attributes f            why there is no line

A line has no control characters, so it is one line of text, and it is read back as one object
(line_tells_record).  A detail never hides what the record itself says, even if it has the name of
a member of the line: the details stand in an object of their own.  Without a line remain a message
that half of a surrogate pair was put into, and a detail with a whole number that has too many
digits to be written (no_line_of_long_key_or_half).
-/

namespace TrustGate.Logging

/-! ## Attributes -/

/-- Sets attributes one after the other. -/
def Record.setAll (r : Record) (attributes : List (String × Value)) : Record :=
  attributes.foldl (fun r (name, value) => r.set name value) r

theorem set_of_not_own {name : String} (hname : name ∉ ownAttributes) (v : Value) (r : Record) :
    r.set name v = { r with extra := setEntry (· == ·) name v r.extra } := by
  have hne {own : String} (hown : own ∈ ownAttributes) : name ≠ own := fun h => hname (h ▸ hown)
  unfold Record.set
  rw [if_neg (hne (by decide)), if_neg (hne (by decide)), if_neg (hne (by decide)),
    if_neg (hne (by decide)), if_neg (hne (by decide)), if_neg (hne (by decide)),
    if_neg (by simpa using hname)]

/-- Attributes that are not the record's own leave its own as they are. -/
theorem setAll_of_not_own {attributes : List (String × Value)}
    (h : ∀ a ∈ attributes, a.1 ∉ ownAttributes) (r : Record) :
    r.setAll attributes = { r with
      extra := attributes.foldl (fun entries (name, value) =>
        setEntry (· == ·) name value entries) r.extra } := by
  induction attributes generalizing r with
  | nil => rfl
  | cons a attributes ih =>
    obtain ⟨name, v⟩ := a
    rw [List.forall_mem_cons] at h
    calc r.setAll ((name, v) :: attributes) = (r.set name v).setAll attributes := rfl
      _ = _ := by rw [ih h.2, set_of_not_own h.1]; rfl

/-! ## Records and lines -/

/-- A record whose own attributes have their types, whose message can be filled in and whose time
can be told; nothing has been attached to it yet. -/
structure Record.Formattable (r : Record) (name level : String) (message : List Text.Point)
    (time : Time.DateTime) : Prop where
  logger : r.logger = .text name
  level : r.levelName = .text level
  message : r.message = .ok message
  created : stamp r.created = .ok time
  bare : r.extra = []

/-- A name without one leading `sslfactory.`, or as it is if it has none. -/
def Shortened (name short : String) : Prop :=
  name = "sslfactory." ++ short ∨ (short = name ∧ ∀ rest, name ≠ "sslfactory." ++ rest)

/-- Attributes with an underscore in front are not shown. -/
def isPublic (name : String) : Bool := name.toList.head? != some '_'

/-- What the members of a line tell of a record to which attributes have been attached. -/
structure LineTells (style : ReportStyle) (r : Record) (name level message : String)
    (time : Time.DateTime) (attributes : List (String × Value)) (members : List (String × Json)) :
    Prop where
  keys : (members.map Prod.fst).Sublist ["ts", "level", "logger", "message", "extra", "exception"]
  time : members.lookup "ts" = some (.text time.millisText)
  level : members.lookup "level" = some (.text level)
  logger : ∃ short, Shortened name short ∧ members.lookup "logger" = some (.text short)
  message : members.lookup "message" = some (.text message)
  exception : members.lookup "exception" = r.failure.map fun f => .text (style.text f)
  /-- There are further details if and only if one of them is shown. -/
  extra_iff : (members.lookup "extra").isSome = true ↔ ∃ a ∈ attributes, isPublic a.1 = true
  /-- Those that are shown stand in the order in which they were first set, each with the value
  that was set last. -/
  extra : ∀ j, members.lookup "extra" = some j → ∃ entries, j = .object entries ∧
    LastWins ToldAs (attributes.filter fun a => isPublic a.1) entries

/-- Why a record to which attributes have been attached has no line. -/
inductive Unwritable (message : List Text.Point) (attributes : List (String × Value)) :
    Failure → Prop
  | half {f : Failure} {offset : Fin 0x800} (hkind : f.kind = .unicodeEncode)
      (h : .half offset ∈ message) : Unwritable message attributes f
  /-- The last value set under a name that is shown holds a whole number of too many digits. -/
  | digits {name : String} {v : Value}
      (hlast : (attributes.filter fun a => isPublic a.1).reverse.lookup name = some v)
      (h : v.hasText = false) : Unwritable message attributes (Failure.of TooManyDigits.mk)

theorem shortened_withoutPrefix (name : String) : Shortened name (withoutPrefix name) := by
  unfold withoutPrefix
  by_cases h : loggerPrefix.toList.isPrefixOf name.toList = true
  · obtain ⟨rest, hrest⟩ := List.isPrefixOf_iff_prefix.mp h
    rw [if_pos h, ← hrest, ← String.length_toList, List.drop_left]
    exact .inl (String.toList_inj.mp (by rw [← hrest]; simp [loggerPrefix]))
  · rw [if_neg h]
    refine .inr ⟨rfl, fun rest hrest => h ?_⟩
    rw [hrest]
    simp [loggerPrefix]

/-! ## The members of a line -/

/-- The members in their places; the last two may be missing. -/
def lineMembers (ts level logger message : String) (extra exception : Option Json) :
    List (String × Json) :=
  [("ts", .text ts), ("level", .text level), ("logger", .text logger),
    ("message", .text message)] ++ (extra.map fun j => ("extra", j)).toList ++
      (exception.map fun j => ("exception", j)).toList

theorem lookup_extra_lineMembers (ts level logger message : String)
    (extra exception : Option Json) :
    (lineMembers ts level logger message extra exception).lookup "extra" = extra := by
  cases extra <;> cases exception <;> rfl

theorem lookup_exception_lineMembers (ts level logger message : String)
    (extra exception : Option Json) :
    (lineMembers ts level logger message extra exception).lookup "exception" = exception := by
  cases extra <;> cases exception <;> rfl

theorem keys_lineMembers (ts level logger message : String) (extra exception : Option Json) :
    ((lineMembers ts level logger message extra exception).map Prod.fst).Sublist
      ["ts", "level", "logger", "message", "extra", "exception"] := by
  cases extra <;> cases exception <;> simp [lineMembers]

/-- The details that a line shows. -/
def shownLast (attributes : List (String × Value)) : List (String × Value) :=
  ofEntries (· == ·) (attributes.filter fun a => isPublic a.1)

theorem shownLast_eq_nil_iff (attributes : List (String × Value)) :
    shownLast attributes = [] ↔ ∀ a ∈ attributes, isPublic a.1 = false := by
  rw [shownLast, ofEntries_eq_nil_iff, List.filter_eq_nil_iff]
  simp

theorem isPublic_eq (name : String) : isPublic name = !"_".toList.isPrefixOf name.toList := by
  unfold isPublic
  cases name.toList with
  | nil => rfl
  | cons c cs => simp [List.isPrefixOf, bne, eq_comm]

/-- Details in an object of their own, unless there are none. -/
def detailsObject (f : Value → Json) (details : List (String × Value)) : Option Json :=
  if details = [] then none else some (.object (details.map fun a => (a.1, f a.2)))

theorem written_lineMembers (ts level logger message : String) (details : List (String × Value))
    (failure : Option Failure) (style : ReportStyle) :
    Json.writtenMembers (lineMembers ts level logger message (detailsObject image details)
      (failure.map fun f => .text (style.text f))) =
    lineMembers ts level logger message (detailsObject (fun v => (image v).written) details)
      (failure.map fun f => .text (style.text f)) := by
  have hdetails : Json.writtenMembers (details.map fun a => (a.1, image a.2)) =
      details.map fun a => (a.1, (image a.2).written) := by
    rw [writtenMembers_eq_map, List.map_map]
    rfl
  rw [writtenMembers_eq_map, lineMembers, lineMembers, detailsObject, detailsObject]
  split <;> cases failure <;> simp [Json.written, hdetails]

theorem hasText_object_images (details : List (String × Value)) :
    (Json.object (details.map fun a => (a.1, image a.2))).hasText =
      details.all fun a => (image a.2).hasText := by
  rw [Json.hasText, Bool.eq_iff_iff, membersHaveText_iff, List.all_eq_true, List.forall_mem_map]

/-! ## Documents of records -/

section

variable {r : Record} {name level : String} {message : List Text.Point} {time : Time.DateTime}
  {attributes : List (String × Value)}

theorem shown_setAll (h : r.Formattable name level message time)
    (hforeign : ∀ a ∈ attributes, a.1 ∉ ownAttributes) :
    (r.setAll attributes).shown = shownLast attributes := by
  have hextra : (r.setAll attributes).extra = ofEntries (· == ·) attributes := by
    rw [setAll_of_not_own hforeign, h.bare]
    rfl
  calc (r.setAll attributes).shown
      = (ofEntries (· == ·) attributes).filter fun a => isPublic a.1 := by
        rw [Record.shown, hextra]
        simp only [isPublic_eq]
    _ = shownLast attributes := filter_ofEntries isPublic attributes

/-- The document of a record whose own attributes are as they should be: it depends on what can be
written of its message and its details. -/
theorem document_setAll (h : r.Formattable name level message time)
    (hforeign : ∀ a ∈ attributes, a.1 ∉ ownAttributes) (style : ReportStyle) :
    (r.setAll attributes).document style =
      ifWritten ((shownLast attributes).all fun a => keysHaveText a.2) () >>= fun _ =>
        Text.characters message >>= fun text =>
          ifWritten ((shownLast attributes).all fun a => (image a.2).hasText)
            (.object (lineMembers time.millisText level (withoutPrefix name) text
              (detailsObject image (shownLast attributes))
              (r.failure.map fun f => .text (style.text f)))) := by
  have hall := setAll_of_not_own hforeign r
  have hcreated : stamp (r.setAll attributes).created = .ok time := by
    rw [hall]
    exact h.created
  have hlogger : shortLogger (r.setAll attributes).logger = .ok (withoutPrefix name) := by
    rw [hall]
    exact congrArg shortLogger h.logger
  have hmessage : (r.setAll attributes).message = .ok message := by
    rw [hall]
    exact h.message
  have hlevel : (r.setAll attributes).levelName = .text level := by
    rw [hall]
    exact h.level
  have hfailure : (r.setAll attributes).failure = r.failure := by rw [hall]
  simp only [Record.document, Record.details, shown_setAll h hforeign, hcreated, hlogger, hmessage,
    hlevel, hfailure]
  cases (shownLast attributes).all fun a => keysHaveText a.2 with
  | false => rfl
  | true =>
    change (Text.characters message >>= fun text => encodable _ >>= fun details => .ok _) =
      (Text.characters message >>= fun text => _)
    cases Text.characters message with
    | error f => rfl
    | ok text =>
      change (encodable _ >>= _) = ifWritten _ _
      rw [encodable, hasText_object_images]
      cases (shownLast attributes).all fun a => (image a.2).hasText with
      | false => rfl
      | true =>
        rw [lineMembers, detailsObject]
        cases shownLast attributes <;> cases r.failure <;> rfl

/-- A detail that cannot be written keeps the record from being written. -/
theorem unwritable_of_mem {a : String × Value} (ha : a ∈ shownLast attributes)
    (h : ¬(keysHaveText a.2 = true ∧ (image a.2).hasText = true)) :
    Unwritable message attributes (Failure.of TooManyDigits.mk) := by
  have hvalue : a.2.hasText = false := by
    rw [← Bool.not_eq_true]
    exact mt (writable_of_hasText a.2) h
  exact .digits (mem_ofEntries_iff.mp ha) hvalue

/-- What is read back of the document, or why there is none. -/
theorem document_cases (h : r.Formattable name level message time)
    (hforeign : ∀ a ∈ attributes, a.1 ∉ ownAttributes) (style : ReportStyle) :
    (∃ text doc, message = Text.points text ∧ (r.setAll attributes).document style = .ok doc ∧
      doc.written = .object (lineMembers time.millisText level (withoutPrefix name) text
        (detailsObject (fun v => (image v).written) (shownLast attributes))
        (r.failure.map fun f => .text (style.text f)))) ∨
    ∃ f, (r.setAll attributes).document style = .error f ∧ Unwritable message attributes f := by
  rw [document_setAll h hforeign style]
  cases hkeys : (shownLast attributes).all fun a => keysHaveText a.2 with
  | false =>
    obtain ⟨a, ha, hkeys⟩ := List.all_eq_false.mp hkeys
    exact .inr ⟨_, rfl, unwritable_of_mem ha fun hboth => hkeys hboth.1⟩
  | true =>
    cases htext : Text.characters message with
    | error f =>
      obtain ⟨hkind, offset, hhalf⟩ := Text.half_mem_of_characters htext
      exact .inr ⟨f, rfl, .half hkind hhalf⟩
    | ok text =>
      cases hdigits : (shownLast attributes).all fun a => (image a.2).hasText with
      | false =>
        obtain ⟨a, ha, hdigits⟩ := List.all_eq_false.mp hdigits
        exact .inr ⟨_, rfl, unwritable_of_mem ha fun hboth => hdigits hboth.2⟩
      | true =>
        refine .inl ⟨text, _, Text.characters_eq_ok_iff.mp htext, rfl, ?_⟩
        rw [Json.written, written_lineMembers]

/-- The line of a record tells what the record says and the details attached to it, whatever their
names and values are; only what cannot be written keeps it from having one. -/
theorem line_tells_record (h : r.Formattable name level message time)
    (hforeign : ∀ a ∈ attributes, a.1 ∉ ownAttributes) (style : ReportStyle) :
    (∃ text line members, message = Text.points text ∧
      (r.setAll attributes).line style = .ok line ∧
      (∀ c ∈ line.toList, 0x20 ≤ c.toNat) ∧ Json.read? line = some (.object members) ∧
        LineTells style r name level text time attributes members) ∨
    ∃ f, (r.setAll attributes).line style = .error f ∧ Unwritable message attributes f := by
  rcases document_cases h hforeign style with ⟨text, doc, htext, hdoc, hwritten⟩ | ⟨f, hdoc, hf⟩
  · refine .inl ⟨text, doc.render, _, htext, by rw [Record.line, hdoc]; rfl,
      Json.clean_render doc, by rw [Json.read?_render, hwritten], ?_⟩
    refine ⟨keys_lineMembers .., rfl, rfl, ⟨_, shortened_withoutPrefix name, rfl⟩, rfl,
      lookup_exception_lineMembers .., ?_, fun j hj => ?_⟩
    · -- there is something to show if and only if a detail is public
      rw [lookup_extra_lineMembers, detailsObject]
      by_cases hnone : shownLast attributes = []
      · rw [if_pos hnone]
        have := (shownLast_eq_nil_iff attributes).mp hnone
        simpa using this
      · rw [if_neg hnone]
        have := mt (shownLast_eq_nil_iff attributes).mpr hnone
        simpa using this
    · rw [lookup_extra_lineMembers, detailsObject, Option.ite_none_left_eq_some] at hj
      obtain rfl := Option.some.inj hj.2
      exact ⟨_, rfl, lastWins_ofEntries (f := fun v => (image v).written) fun p _ =>
        toldAs_image p.2⟩
  · exact .inr ⟨f, by rw [Record.line, hdoc]; rfl, hf⟩

end

/-- A warning with a message of two lines and a failure. -/
def rejection : Record :=
  Record.make "sslfactory.trust" warning (.text "refused:\n%s") [.text "no \"issuer\""] (.float 1.5)
    (some (.mk .value [.text "no issuer"] none))

/-- Details with the names of members of a line, one of them set twice. -/
def misleadingDetails : List (String × Value) :=
  [("level", .int 1), ("_id", .null),
    ("exception", .dict [(.int 1, .null), (.text "1", .bytes [10, 255])]), ("level", .int 2)]

theorem line_tells_rejection :
    rejection.Formattable "sslfactory.trust" "WARNING" (Text.points "refused:\nno \"issuer\"")
        ⟨⟨1970, 1, 1⟩, ⟨0, 0, 1, 500000⟩, some 0⟩ ∧
      (∀ a ∈ misleadingDetails, a.1 ∉ ownAttributes) ∧
      ∃ text line members, Text.points "refused:\nno \"issuer\"" = Text.points text ∧
        (rejection.setAll misleadingDetails).line .whole = .ok line ∧
        (∀ c ∈ line.toList, 0x20 ≤ c.toNat) ∧ Json.read? line = some (.object members) ∧
          LineTells .whole rejection "sslfactory.trust" "WARNING" text
            ⟨⟨1970, 1, 1⟩, ⟨0, 0, 1, 500000⟩, some 0⟩ misleadingDetails members := by
  have hformattable : rejection.Formattable "sslfactory.trust" "WARNING"
      (Text.points "refused:\nno \"issuer\"") ⟨⟨1970, 1, 1⟩, ⟨0, 0, 1, 500000⟩, some 0⟩ :=
    ⟨rfl, rfl, by rfl, by rfl, rfl⟩
  have hforeign : ∀ a ∈ misleadingDetails, a.1 ∉ ownAttributes := by decide
  refine ⟨hformattable, hforeign,
    (line_tells_record hformattable hforeign .whole).resolve_right ?_⟩
  have hwritten : ∀ a ∈ misleadingDetails, a.2.hasText = true := by decide +kernel
  rintro ⟨f, -, ⟨-, hhalf⟩ | ⟨hlast, hvalue⟩⟩
  · obtain ⟨c, -, hchar⟩ := List.mem_map.mp hhalf
    cases hchar
  · rw [hwritten _ (List.mem_of_mem_filter (mem_of_lookup_reverse hlast))] at hvalue
    cases hvalue

/-- A record of the first second. -/
def firstRecord (template : String) (arguments : List Value) : Record :=
  Record.make "x" info (.text template) arguments (.int 0) none

/-- A detail whose key has one digit too many. -/
def longKey : List (String × Value) :=
  [("d", .dict [(.int (Nat.pow 10 Decimal.digitLimit : Nat), .null)])]

theorem hasText_longest : Decimal.hasText (Nat.pow 10 Decimal.digitLimit : Nat) = false := by
  rw [Decimal.hasText, Int.natAbs_natCast, decide_eq_false_iff_not]
  exact Nat.lt_irrefl _

theorem no_line_of_long_key_or_half :
    ((firstRecord "m" []).Formattable "x" "INFO" (Text.points "m")
        ⟨⟨1970, 1, 1⟩, ⟨0, 0, 0, 0⟩, some 0⟩ ∧
      (∀ a ∈ longKey, a.1 ∉ ownAttributes) ∧
      ((firstRecord "m" []).setAll longKey).line .whole =
        .error (Failure.of TooManyDigits.mk)) ∧
    (firstRecord "%c" [.int 0xD800]).Formattable "x" "INFO" [.half 0]
        ⟨⟨1970, 1, 1⟩, ⟨0, 0, 0, 0⟩, some 0⟩ ∧
      ((firstRecord "%c" [.int 0xD800]).setAll []).line .whole =
        .error (Failure.of
          (Text.Unencodable.mk "utf-8" "surrogates not allowed" (.half 0) 0 1)) := by
  have hkeyed : (firstRecord "m" []).Formattable "x" "INFO" (Text.points "m")
      ⟨⟨1970, 1, 1⟩, ⟨0, 0, 0, 0⟩, some 0⟩ := ⟨rfl, rfl, by rfl, by rfl, rfl⟩
  have hhalved : (firstRecord "%c" [.int 0xD800]).Formattable "x" "INFO" [.half 0]
      ⟨⟨1970, 1, 1⟩, ⟨0, 0, 0, 0⟩, some 0⟩ := ⟨rfl, rfl, by rfl, by rfl, rfl⟩
  have hforeign : ∀ a ∈ longKey, a.1 ∉ ownAttributes := by decide
  have hkeys : ((shownLast longKey).all fun a => keysHaveText a.2) = false := by
    show (keysHaveText (.dict [(.int (Nat.pow 10 Decimal.digitLimit : Nat), .null)]) && true) = _
    rw [keysHaveText, entriesKeysHaveText, Value.hasText, hasText_longest]
    rfl
  refine ⟨⟨hkeyed, hforeign, ?_⟩, hhalved, ?_⟩
  · rw [Record.line, document_setAll hkeyed hforeign, hkeys]
    rfl
  · rw [Record.line, document_setAll hhalved (by simp)]
    rfl

end TrustGate.Logging
