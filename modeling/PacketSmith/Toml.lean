/-!
# TOML documents

The value of a TOML document: tables of keys and values. Of numbers, dates and times only
their sort is kept, because no reader of this library looks at more. Tables remember how they
came about, since that decides who may still add to them: a header may define a table once,
a dotted key may go on in tables that dotted keys made, and a table or array that is written
as a value is closed.
-/

namespace PacketSmith

/-- How a table came about. -/
inductive TableOrigin where
  /-- On the way to a table that has a header. -/
  | implied
  /-- By a header of its own. -/
  | header
  /-- By a dotted key. -/
  | dotted
  /-- As a value. -/
  | closed
  deriving DecidableEq, Repr

/-- The value of a key. -/
inductive Toml where
  /-- A text. -/
  | text (value : String)
  /-- A truth value. -/
  | bool (value : Bool)
  /-- A number. -/
  | number
  /-- A date, a time of the day, or both. -/
  | moment
  /-- An array that is written as a value. -/
  | array (items : List Toml)
  /-- A table. -/
  | table (origin : TableOrigin) (members : List (String × Toml))
  /-- Tables of one repeated header. -/
  | tables (tables : List (List (String × Toml)))
  deriving Repr

namespace Toml

/-- The keys of a table and their values. -/
abbrev Members := List (String × Toml)

/-- The value of a key. -/
def find? (key : String) (members : Members) : Option Toml :=
  (List.find? (fun member => member.1 == key) members).map Prod.snd

/-- A table with another value for a key, which is added if it is not there. -/
def replace (key : String) (value : Toml) : Members → Members
  | [] => [(key, value)]
  | member :: members =>
    if member.1 == key then (key, value) :: members else member :: replace key value members

/-- Change the last of several tables. -/
def changeLast (change : Members → Option Members) : List Members → Option (List Members)
  | [] => none
  | [members] => (change members).map fun members => [members]
  | members :: others => (changeLast change others).map fun others => members :: others

/-- Change the table that the keys of a header lead to; tables on the way are made where
they are missing. -/
def changeAt (change : Members → Option Members) : List String → Members → Option Members
  | [], members => change members
  | key :: keys, members =>
    match find? key members with
    | none => (changeAt change keys []).map fun inner =>
        replace key (.table .implied inner) members
    | some (.table .closed _) => none
    | some (.table origin inner) =>
      (changeAt change keys inner).map fun inner => replace key (.table origin inner) members
    | some (.tables inner) =>
      (changeLast (changeAt change keys) inner).map fun inner =>
        replace key (.tables inner) members
    | some _ => none

/-- Define a table by its header. -/
def define (key : String) (members : Members) : Option Members :=
  match find? key members with
  | none => some (replace key (.table .header []) members)
  | some (.table .implied inner) => some (replace key (.table .header inner) members)
  | some _ => none

/-- Add a table to those of a repeated header. -/
def repeatHeader (key : String) (members : Members) : Option Members :=
  match find? key members with
  | none => some (replace key (.tables [[]]) members)
  | some (.tables inner) => some (replace key (.tables (inner ++ [[]])) members)
  | some _ => none

/-- Add a value under a dotted key. -/
def insert (value : Toml) : List String → Members → Option Members
  | [], _ => none
  | [key], members =>
    match find? key members with
    | none => some (replace key value members)
    | some _ => none
  | key :: next :: keys, members =>
    match find? key members with
    | none => (insert value (next :: keys) []).map fun inner =>
        replace key (.table .dotted inner) members
    | some (.table .dotted inner) =>
      (insert value (next :: keys) inner).map fun inner =>
        replace key (.table .dotted inner) members
    | some _ => none

end Toml
end PacketSmith
