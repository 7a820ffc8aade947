import LiveShader.Data.Binary64
import LiveShader.Data.Table

/-! What a TOML document says. -/

namespace LiveShader.Toml

/-- How a table came to be, which decides what may still be added to it. -/
inductive TableOrigin where
  /-- Written between braces, which completes it. -/
  | inline
  /-- Opened by a header of its own. -/
  | header
  /-- Named on the way by the header of a table inside it. -/
  | implied
  /-- Named on the way by a dotted key. -/
  | dotted
  deriving DecidableEq, Repr

inductive Value where
  | text (value : String)
  | integer (value : Int)
  | float (value : Binary64)
  | boolean (value : Bool)
  /-- A date, a time or both, in normal form. -/
  | moment (value : String)
  | array (elements : List Value)
  | table (origin : TableOrigin) (entries : List (String × Value))
  /-- Tables opened by headers in double brackets. -/
  | tables (elements : List (List (String × Value)))

/-- The entries of a table, in the order of the document. -/
abbrev Entries := Table String Value

/-! ## Adding to a document -/

namespace Entries

/-- Changes the table that a path leads to. Tables that are missing on the way are
made with the origin `made`; of the tables of an array the last one is meant. There
is no way through other values, through tables that are complete, nor, for a dotted
key, through a table that has a header. -/
def change? (made : TableOrigin) (update : TableOrigin → Entries → Option Entries) :
    (path : List String) → TableOrigin → Entries → Option Entries
  | [], origin, entries => update origin entries
  | key :: path, _, entries =>
      match Table.find? entries key with
      | none => do
          let inner ← change? made update path made []
          some (Table.insert entries key (.table made inner))
      | some (.table origin inner) =>
          if origin = .inline || (made = .dotted && origin = .header) then none
          else do
            let inner ← change? made update path origin inner
            some (Table.insert entries key (.table origin inner))
      | some (.tables elements) => do
          let last ← elements.getLast?
          let last ← change? made update path .header last
          some (Table.insert entries key (.tables (elements.dropLast ++ [last])))
      | some _ => none

/-- Sets a key that is not there yet. -/
def add? (key : String) (value : Value) (entries : Entries) : Option Entries :=
  if (Table.find? entries key).isSome then none else some (entries ++ [(key, value)])

/-- Sets the key at the end of a path, given first the rest of the path. The table it
is in must have been made by dotted keys exactly if the path is one. -/
def assign? (path : List String) (key : String) (value : Value) (origin : TableOrigin)
    (entries : Entries) : Option Entries :=
  change? .dotted
    (fun origin entries =>
      if (origin = .dotted) = path.isEmpty then none else add? key value entries)
    path origin entries

/-- Opens the table of a header in the table around it. One that was only implied so
far moves to the end. -/
def openTable? (key : String) (entries : Entries) : Option Entries :=
  match Table.find? entries key with
  | none => some (entries ++ [(key, .table .header [])])
  | some (.table .implied inner) =>
      some (Table.erase entries key ++ [(key, .table .header inner)])
  | some _ => none

/-- Opens one more table of an array in the table around it. -/
def openElement? (key : String) (entries : Entries) : Option Entries :=
  match Table.find? entries key with
  | none => some (entries ++ [(key, .tables [[]])])
  | some (.tables elements) => some (Table.insert entries key (.tables (elements ++ [[]])))
  | some _ => none

end Entries

/-! ## Statements -/

/-- A key with the keys before its last dot. -/
structure Path where
  parents : List String
  key : String
  deriving DecidableEq, Repr

inductive Statement where
  /-- A header in single brackets. -/
  | table (path : Path)
  /-- A header in double brackets. -/
  | element (path : Path)
  | assignment (path : Path) (value : Value)

structure Document where
  entries : Entries
  /-- Where the table is that assignments go to. -/
  location : List String

namespace Document

def empty : Document :=
  { entries := [], location := [] }

/-- Carries a statement out, unless it contradicts those before it. -/
def extend? (document : Document) : Statement → Option Document
  | .table path => do
      let entries ← Entries.change? .implied (fun _ => Entries.openTable? path.key)
        path.parents .header document.entries
      some { entries, location := path.parents ++ [path.key] }
  | .element path => do
      let entries ← Entries.change? .implied (fun _ => Entries.openElement? path.key)
        path.parents .header document.entries
      some { entries, location := path.parents ++ [path.key] }
  | .assignment path value => do
      let entries ← Entries.change? .implied (Entries.assign? path.parents path.key value)
        document.location .header document.entries
      some { document with entries }

end Document

end LiveShader.Toml
