import DeviceAuth.Table
import DeviceAuth.Toml.Text

/-!
# TOML tables

The tree that a document's keys and headers build up, and the rules by which they may add to it:
no key is defined twice, a table is opened by one header at most, and what keys with points have
begun is not reopened by a header, nor the other way round.
-/

namespace DeviceAuth.Toml

/-- How a table came to be, which decides who may add to it. -/
inductive Origin
  /-- Its own header, or the start of the document. -/
  | header
  /-- A header of a table below it. -/
  | implied
  /-- A key with points. -/
  | dotted
  /-- A value in braces, which is complete. -/
  | inline
deriving DecidableEq

/-- A value or a table. -/
inductive Node
  | text (s : String)
  | integer (n : Int)
  /-- A value of another kind. -/
  | other
  | table (origin : Origin) (entries : List (String × Node))
  /-- The tables opened so far by headers in double brackets, the last one first. -/
  | tables (latest : List (String × Node)) (earlier : List (List (String × Node)))

/-- The contents of a table. -/
abbrev Entries := Table String Node

namespace Entries

/-- The entries with a new key below the table that a path of keys leads to, which is made if need
be. The key may be added there if `mayAdd`, or, below, if keys with points made that table. -/
def define? (mayAdd : Bool) (es : Entries) (key : String) (node : Node) :
    List String → Option Entries
  | [] => if mayAdd ∧ (es.lookup key).isNone then some (Table.set es key node) else none
  | k :: path =>
    match es.lookup k with
    | none => do
      let below ← define? true [] key node path
      some (Table.set es k (.table .dotted below))
    | some (.table .dotted below) => do
      let below ← define? true below key node path
      some (Table.set es k (.table .dotted below))
    | some (.table .implied below) => do
      let below ← define? false below key node path
      some (Table.set es k (.table .implied below))
    | some (.tables latest earlier) => do
      let latest ← define? false latest key node path
      some (Table.set es k (.tables latest earlier))
    | some _ => none

/-- The entries with the node changed that a header's path leads to; tables on the way are made if
need be. -/
def change? (es : Entries) (key : String) (f : Option Node → Option Node) :
    List String → Option Entries
  | [] => (f (es.lookup key)).map (Table.set es key)
  | k :: path =>
    match es.lookup k with
    | none => do
      let below ← change? [] key f path
      some (Table.set es k (.table .implied below))
    | some (.table origin below) =>
      if origin = .inline then none
      else do
        let below ← change? below key f path
        some (Table.set es k (.table origin below))
    | some (.tables latest earlier) => do
      let latest ← change? latest key f path
      some (Table.set es k (.tables latest earlier))
    | some _ => none

/-- The entries with one more key, of one part or several. -/
def add? (es : Entries) (key : List String) (node : Node) : Option Entries := do
  es.define? true (← key.getLast?) node key.dropLast

/-- The entries with more keys, in turn. -/
def addAll? (es : Entries) (pairs : List (List String × Node)) : Option Entries :=
  pairs.foldlM (fun es (key, node) => es.add? key node) es

end Entries

/-- A header and the keys below it. -/
structure Section where
  /-- The header is in double brackets. -/
  isArray : Bool
  path : List String
  pairs : List (List String × Node)

namespace Section

/-- The node that a section makes of the one its header names. A table that was only implied is
opened; in double brackets, another table joins those before it. -/
def opened? (s : Section) (old : Option Node) : Option Node :=
  match s.isArray, old with
  | false, none => (Entries.addAll? [] s.pairs).map (.table .header ·)
  | false, some (.table .implied es) => (Entries.addAll? es s.pairs).map (.table .header ·)
  | true, none => (Entries.addAll? [] s.pairs).map (.tables · [])
  | true, some (.tables latest earlier) =>
    (Entries.addAll? [] s.pairs).map (.tables · (latest :: earlier))
  | _, _ => none

/-- The document with a section added. -/
def addTo? (es : Entries) (s : Section) : Option Entries := do
  es.change? (← s.path.getLast?) s.opened? s.path.dropLast

end Section

end DeviceAuth.Toml
