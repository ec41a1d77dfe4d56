import Companion.Table

/-!
# TOML values

A document is a table of values.  Headers and dotted keys add to tables that are still open; a
table in braces is closed from the start.
-/

namespace Companion

/-- How an open table came to be. -/
inductive TableOrigin where
  /-- By a header of its own. -/
  | header
  /-- By the header of a table below it. -/
  | implied
  /-- By a dotted key. -/
  | dotted
  deriving DecidableEq, Repr

/-- A value of a TOML document. -/
inductive Toml where
  | boolean (value : Bool)
  | integer (value : Int)
  | text (value : String)
  /-- A number with a fraction or an exponent, or a date or a time, whose value is not kept. -/
  | uncounted
  | list (items : List Toml)
  /-- A table in braces. -/
  | inline (entries : List (String × Toml))
  /-- A table of lines. -/
  | table (origin : TableOrigin) (entries : List (String × Toml))
  /-- The tables of a repeated header: the last one, and those before it. -/
  | rows (last : List (String × Toml)) (before : List (List (String × Toml)))

namespace Toml

/-- A key with the keys of the tables that it is in. -/
structure KeyPath where
  /-- The keys of the tables. -/
  parents : List String
  /-- The key itself. -/
  key : String
  deriving DecidableEq, Repr

/-- A table that can be added to. -/
structure OpenTable where
  /-- How it came to be. -/
  origin : TableOrigin
  /-- Its entries. -/
  entries : List (String × Toml)

namespace OpenTable

/-- The table of a document without lines. -/
def root : OpenTable := ⟨.header, []⟩

/-- The table with a value under a key. -/
def put (table : OpenTable) (key : String) (value : Toml) : OpenTable :=
  { table with entries := Table.put key value table.entries }

/-- Change the table at the end of a path.  Tables missing on the way are made with an origin, and
a dotted key does not lead through a table that has a header. -/
def changeAt (made : TableOrigin) (change : OpenTable → Option OpenTable) :
    List String → OpenTable → Option OpenTable
  | [], here => change here
  | key :: path, here =>
    match here.entries.lookup key with
    | none => do
      let inner ← changeAt made change path ⟨made, []⟩
      return here.put key (.table inner.origin inner.entries)
    | some (.table origin entries) =>
      if made = .dotted ∧ origin = .header then none
      else do
        let inner ← changeAt made change path ⟨origin, entries⟩
        return here.put key (.table inner.origin inner.entries)
    | some (.rows last before) => do
      let inner ← changeAt made change path ⟨.header, last⟩
      return here.put key (.rows inner.entries before)
    | some _ => none

/-- Add a value under a key that is new.  The table of a dotted key has to come from dotted keys. -/
def addEntry (path : KeyPath) (value : Toml) (table : OpenTable) : Option OpenTable :=
  changeAt .dotted (fun table =>
    if path.parents ≠ [] ∧ table.origin ≠ .dotted then none
    else match table.entries.lookup path.key with
      | none => some (table.put path.key value)
      | some _ => none) path.parents table

/-- Open the table of a header, which no line before has opened. -/
def addHeader (path : KeyPath) (table : OpenTable) : Option OpenTable :=
  changeAt .implied (fun table =>
    match table.entries.lookup path.key with
    | none => some (table.put path.key (.table .header []))
    | some (.table .implied entries) => some (table.put path.key (.table .header entries))
    | some _ => none) path.parents table

/-- Open one more table of a repeated header. -/
def addRow (path : KeyPath) (table : OpenTable) : Option OpenTable :=
  changeAt .implied (fun table =>
    match table.entries.lookup path.key with
    | none => some (table.put path.key (.rows [] []))
    | some (.rows last before) => some (table.put path.key (.rows [] (last :: before)))
    | some _ => none) path.parents table

end OpenTable

/-- A line of a document that is not blank. -/
inductive Statement where
  /-- The header of a table. -/
  | header (path : KeyPath)
  /-- A repeated header. -/
  | row (path : KeyPath)
  /-- A value under a key. -/
  | entry (path : KeyPath) (value : Toml)

/-- The tables of the lines read so far, and the path of the table that entries go to. -/
structure Progress where
  /-- The table of the document. -/
  document : OpenTable
  /-- The keys of the table of the last header. -/
  current : List String

/-- Add a line. -/
def Progress.add (progress : Progress) : Statement → Option Progress
  | .header path => do
    return ⟨← progress.document.addHeader path, path.parents ++ [path.key]⟩
  | .row path => do
    return ⟨← progress.document.addRow path, path.parents ++ [path.key]⟩
  | .entry path value => do
    let document ← progress.document.changeAt .implied (OpenTable.addEntry path value)
      progress.current
    return { progress with document }

/-- The entries of a document with given lines. -/
def entriesOf? (statements : List Statement) : Option (List (String × Toml)) := do
  let progress ← statements.foldlM Progress.add ⟨.root, []⟩
  return progress.document.entries

end Toml
end Companion
