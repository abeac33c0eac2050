import TrustGate.Toml.Lexical
import TrustGate.Encoding.Utf8

/-!
# TOML documents

A document is a table of values, tables and lists of tables.  While it is read, some
names are closed: a table that has been declared cannot be declared again, and what
is written as one value, an array or an inline table, cannot be extended later.
-/

namespace TrustGate.Toml

abbrev Table := List (Value × Value)

def keyOf (name : String) : Value := .text name

def isKey (name : String) (entry : Value × Value) : Bool := entry.1.sameKey (.text name)

def Table.get? (t : Table) (name : String) : Option Value :=
  (t.find? (isKey name)).map (·.2)

def Table.put (t : Table) (name : String) (v : Value) : Table :=
  setEntry Value.sameKey (keyOf name) v t

/-- Changes the table at the end of a path, opening tables that are missing.  A list of tables
stands for its last one if `lists` is set. -/
def Table.within (lists : Bool) (change : Table → Option Table) :
    List String → Table → Option Table
  | [], t => change t
  | name :: path, t =>
    match Table.get? t name with
    | none => (Table.within lists change path []).map fun inner => t.put name (.dict inner)
    | some (.dict inner) =>
      (Table.within lists change path inner).map fun inner => t.put name (.dict inner)
    | some (.list items) =>
      if !lists then none
      else
        match items.getLast? with
        | some (.dict inner) => (Table.within lists change path inner).map fun inner =>
            t.put name (.list (items.dropLast ++ [.dict inner]))
        | _ => none
    | some _ => none

/-- Adds an entry to a table that does not have its name yet. -/
def Table.addNew (name : String) (v : Value) (t : Table) : Option Table :=
  if (Table.get? t name).isSome then none else some (t.put name v)

/-- Adds a table to the list of that name. -/
def Table.addItem (name : String) (t : Table) : Option Table :=
  match Table.get? t name with
  | none => some (t.put name (.list [.dict []]))
  | some (.list items) => some (t.put name (.list (items ++ [.dict []])))
  | some _ => none

abbrev Path := List String

/-- Whether some prefix of a path is closed. -/
def isClosed (closed : List Path) (path : Path) : Bool := closed.any (·.isPrefixOf path)

/-! ## Values -/

/-- An array or inline table cannot be extended. -/
def isContainer : Value → Bool
  | .dict _ | .list _ => true
  | _ => false

/-- An equals sign, then blanks. -/
def takeEquals? (cs : List Char) : Option (List Char) :=
  (Time.takeChar? '=' cs).map skipSpace

mutual

def takeValue? : (fuel : Nat) → List Char → Option (Value × List Char)
  | 0, _ => none
  | fuel + 1, cs =>
    match cs with
    | '"' :: _ | '\'' :: _ => (takeString? cs).map fun (s, cs) => (.text (String.ofList s), cs)
    | '[' :: cs => do
      match ← skipGap? (cs.length + 1) cs with
      | ']' :: cs => return (.list [], cs)
      | cs =>
        let (items, cs) ← takeItems? fuel cs
        return (.list items, cs)
    | '\x7b' :: cs =>
      match skipSpace cs with
      | '\x7d' :: cs => some (.dict [], cs)
      | cs => (takeInline? fuel [] [] cs).map fun (t, cs) => (.dict t, cs)
    | cs =>
      (takeWord? "true" (.bool true) cs).orElse fun _ =>
      (takeWord? "false" (.bool false) cs).orElse fun _ =>
      (takeTime? cs).getD (takeNumber? cs)

/-- The items of an array up to its closing bracket; a comma may follow the last one. -/
def takeItems? : (fuel : Nat) → List Char → Option (List Value × List Char)
  | 0, _ => none
  | fuel + 1, cs => do
    let (item, cs) ← takeValue? fuel cs
    match ← skipGap? (cs.length + 1) cs with
    | ']' :: cs => return ([item], cs)
    | ',' :: cs =>
      match ← skipGap? (cs.length + 1) cs with
      | ']' :: cs => return ([item], cs)
      | cs =>
        let (items, cs) ← takeItems? fuel cs
        return (item :: items, cs)
    | _ => none

/-- The pairs of an inline table up to its closing brace. -/
def takeInline? : (fuel : Nat) → Table → List Path → List Char → Option (Table × List Char)
  | 0, _, _, _ => none
  | fuel + 1, table, closed, cs => do
    let (path, cs) ← takeKey? (cs.length + 1) cs
    let cs ← takeEquals? cs
    let (v, cs) ← takeValue? fuel cs
    if isClosed closed path then none
    else
      let table ← table.within false (Table.addNew (path.getLastD "") v) path.dropLast
      match skipSpace cs with
      | '\x7d' :: cs => return (table, cs)
      | ',' :: cs =>
        let closed := if isContainer v then path :: closed else closed
        takeInline? fuel table closed (skipSpace cs)
      | _ => none

end

/-! ## Statements -/

/-- A document while it is read. -/
structure Reading where
  table : Table
  /-- The table that pairs go into. -/
  header : Path
  /-- Tables that have been declared. -/
  declared : List Path
  /-- Tables opened by dotted keys of the current section, declared when it ends. -/
  pending : List Path
  /-- Values that cannot be extended. -/
  closed : List Path

def Reading.start : Reading := ⟨[], [], [], [], []⟩

/-- The sections that begin with a header: their dotted tables count as declared from now on. -/
def Reading.endSection (r : Reading) : Reading :=
  { r with declared := r.pending ++ r.declared, pending := [] }

/-- Starts the section of a table. -/
def Reading.openTable (r : Reading) (path : Path) : Option Reading := do
  let r := r.endSection
  if r.declared.contains path || isClosed r.closed path then none
  else
    let table ← r.table.within true some path
    return { r with table, header := path, declared := path :: r.declared }

/-- Starts the section of one more table of a list; what was declared inside an earlier one may be
declared again. -/
def Reading.openItem (r : Reading) (path : Path) : Option Reading := do
  let r := r.endSection
  if isClosed r.closed path then none
  else
    let table ← r.table.within true (Table.addItem (path.getLastD "")) path.dropLast
    let outside (p : Path) : Bool := !path.isPrefixOf p
    return { r with table, header := path, declared := path :: r.declared.filter outside,
                    closed := r.closed.filter outside }

/-- The tables that a dotted key opens. -/
def openedBy (header path : Path) : List Path :=
  (List.range (path.length - 1)).map fun n => header ++ path.take (n + 1)

/-- Adds a pair to the current section. -/
def Reading.add (r : Reading) (path : Path) (v : Value) : Option Reading := do
  let opened := openedBy r.header path
  let parent := r.header ++ path.dropLast
  if opened.any r.declared.contains || isClosed r.closed parent then none
  else
    let table ← r.table.within true (Table.addNew (path.getLastD "") v) parent
    return { r with table, pending := opened ++ r.pending,
                    closed := if isContainer v then (r.header ++ path) :: r.closed else r.closed }

/-- A statement at the start of a line, if one stands there. -/
def takeStatement? (r : Reading) (cs : List Char) : Option (Reading × List Char) :=
  match cs with
  | '[' :: '[' :: cs => do
    let (path, cs) ← takeKey? (cs.length + 1) (skipSpace cs)
    let r ← r.openItem path
    let cs ← (Time.takeChar? ']' cs).bind (Time.takeChar? ']')
    return (r, skipSpace cs)
  | '[' :: cs => do
    let (path, cs) ← takeKey? (cs.length + 1) (skipSpace cs)
    let r ← r.openTable path
    let cs ← Time.takeChar? ']' cs
    return (r, skipSpace cs)
  | '#' :: _ => some (r, cs)
  | cs => do
    let (path, cs) ← takeKey? (cs.length + 1) cs
    let cs ← takeEquals? cs
    let (v, cs) ← takeValue? (cs.length + 1) cs
    let r ← r.add path v
    return (r, skipSpace cs)

/-- Reads line after line. -/
def readLines : (fuel : Nat) → Reading → List Char → Option Table
  | 0, _, _ => none
  | fuel + 1, r, cs =>
    match skipSpace cs with
    | [] => some r.table
    | '\n' :: cs => readLines fuel r cs
    | cs => do
      let (r, cs) ← takeStatement? r cs
      match ← skipComment? cs with
      | [] => return r.table
      | '\n' :: cs => readLines fuel r cs
      | _ => none

/-- A carriage return before a line break is dropped. -/
def joinLineEnds : List Char → List Char
  | '\r' :: '\n' :: cs => '\n' :: joinLineEnds cs
  | c :: cs => c :: joinLineEnds cs
  | [] => []

/-- Reads a document. -/
def read? (text : String) : Option Table :=
  let cs := joinLineEnds text.toList
  readLines (cs.length + 1) Reading.start cs

end TrustGate.Toml
