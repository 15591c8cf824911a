/-
TOML tables, and how the lines of a file build them.

A table remembers how it came to be, which decides how it may still grow: a table that a longer header implied may get its
own header once, and grow by dotted keys before that; a table made by a dotted key may grow by dotted keys; an inline table
may not grow at all. A list of
tables is a list that `[[…]]` headers built; a path through it goes to its last table.

`Statement`s are what lines say, and `Table.ofStatements` is the table they build, if no two of them are at odds.
-/
import CredentialFailover.Keyed

namespace CredentialFailover.Toml

/-- how a table came to be -/
inductive Origin where
  /-- by a header that names a table inside it -/
  | implied
  /-- by its own header -/
  | header
  /-- by a dotted key -/
  | dotted
  /-- between braces -/
  | inline
  deriving DecidableEq

/-- a value of a file; a date or time is kept without its fields, a number that is no integer as significand and power of
ten -/
inductive Value where
  | text (s : String)
  | integer (n : Int)
  | decimal (significand : Int) (exponent : Int)
  | nonFinite
  | boolean (b : Bool)
  | moment
  | list (ofTables : Bool) (items : List Value)
  | table (origin : Origin) (entries : List (String × Value))

/-- entries under their keys -/
abbrev Table := List (String × Value)

/-- the table at the end of a path, changed; tables on the way are entered when their origin allows it, and made with a
given origin when there are none -/
def Table.within (enters : Origin → Bool) (made : Origin) (change : Origin → Table → Option Table) :
    List String → Origin → Table → Option Table
  | [], origin, t => change origin t
  | key :: path, _, t =>
    match Keyed.get? key t with
    | none => (within enters made change path made []).map fun sub => Keyed.insert key (.table made sub) t
    | some (.table origin sub) =>
      if enters origin then
        (within enters made change path origin sub).map fun sub => Keyed.insert key (.table origin sub) t
      else none
    | some (.list true items) =>
      match items.getLast? with
      | some (.table origin sub) =>
        (within enters made change path origin sub).map fun sub =>
          Keyed.insert key (.list true (items.dropLast ++ [.table origin sub])) t
      | _ => none
    | some _ => none

/-- a table with a key of its own, which must be new -/
def Table.put (key : String) (v : Value) (t : Table) : Option Table :=
  match Keyed.get? key t with
  | none => some (Keyed.insert key v t)
  | some _ => none

/-- a table with the value under a dotted key; the tables that the key goes through are made by dotted keys -/
def Table.assign (path : List String) (key : String) (v : Value) (origin : Origin) (t : Table) : Option Table :=
  t.within (fun o => o == .implied || o == .dotted) .dotted
    (fun o t => if path.isEmpty || o == .implied || o == .dotted then t.put key v else none) path origin

/-- a header may go through every table but an inline one -/
def entersByHeader (o : Origin) : Bool := o != .inline

/-- a table with a header for a table inside it -/
def Table.define (path : List String) (key : String) (t : Table) : Option Table :=
  t.within entersByHeader .implied (fun _ t =>
    match Keyed.get? key t with
    | none => some (Keyed.insert key (.table .header []) t)
    | some (.table .implied sub) => some (Keyed.insert key (.table .header sub) t)
    | some _ => none) path .header

/-- a table with one more table in a list of tables inside it -/
def Table.extend (path : List String) (key : String) (t : Table) : Option Table :=
  t.within entersByHeader .implied (fun _ t =>
    match Keyed.get? key t with
    | none => some (Keyed.insert key (.list true [.table .header []]) t)
    | some (.list true items) => some (Keyed.insert key (.list true (items ++ [.table .header []])) t)
    | some _ => none) path .header

/-- what a line says; a key is given by the keys it goes through and the last one -/
inductive Statement where
  | header (path : List String) (key : String)
  | listHeader (path : List String) (key : String)
  | assign (path : List String) (key : String) (v : Value)

/-- a table under construction, and the path of the header in force -/
structure Draft where
  root : Table
  current : List String

/-- a draft after one more line -/
def Draft.add (d : Draft) : Statement → Option Draft
  | .header path key => (d.root.define path key).map fun t => ⟨t, path ++ [key]⟩
  | .listHeader path key => (d.root.extend path key).map fun t => ⟨t, path ++ [key]⟩
  | .assign path key v =>
    (d.root.within entersByHeader .implied (fun o t => Table.assign path key v o t) d.current .header).map fun t =>
      ⟨t, d.current⟩

/-- a draft after more lines -/
def Draft.addAll (d : Draft) : List Statement → Option Draft
  | [] => some d
  | s :: ss => (d.add s).bind fun d => d.addAll ss

/-- the table that lines build -/
def Table.ofStatements (ss : List Statement) : Option Table := (Draft.addAll ⟨[], []⟩ ss).map Draft.root

/-- an inline table from its entries -/
def Table.ofEntries : List (List String × String × Value) → Table → Option Table
  | [], t => some t
  | (path, key, v) :: es, t => (t.assign path key v .inline).bind (ofEntries es)

end CredentialFailover.Toml
