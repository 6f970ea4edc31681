import CodeAtlas.Assoc

/-!
# TOML values

The values of a TOML document, and the tables that hold them by key. Of floating numbers only
whether they are zero is kept, and of dates and times only that they are such.
-/

namespace CodeAtlas.Toml

inductive Value where
  | text (s : String)
  | int (n : Int)
  | float (isZero : Bool)
  | bool (b : Bool)
  | moment
  | array (items : List Value)
  | table (members : List (String × Value))
  deriving Inhabited

abbrev Table := List (String × Value)

/-- A key with its parts between dots. -/
abbrev Key := List String

namespace Value

def isContainer : Value → Bool
  | array _ | table _ => true
  | _ => false

/-- Does the value count as present where an empty one counts as missing? -/
def isFilled : Value → Bool
  | text s => s != ""
  | int n => n != 0
  | float isZero => !isZero
  | bool b => b
  | moment => true
  | array items => !items.isEmpty
  | table members => !members.isEmpty

end Value

/-! ## Tables in tables -/

/-- Changes the table behind a key, which is made if it is missing. With `lists`, a list of tables
stands for its last one. `none` if there is something else behind a part of the key. -/
def update (lists : Bool) (f : Table → Option Table) : Key → Table → Option Table
  | [], t => f t
  | k :: rest, t =>
    match t.lookup k with
    | none => (update lists f rest []).map fun inner => Assoc.put k (.table inner) t
    | some (.table inner) =>
      (update lists f rest inner).map fun inner => Assoc.put k (.table inner) t
    | some (.array items) =>
      match lists, items.getLast? with
      | true, some (.table inner) =>
        (update lists f rest inner).map fun inner =>
          Assoc.put k (.array (items.dropLast ++ [.table inner])) t
      | _, _ => none
    | some _ => none

/-- Gives a key of a table its only value. -/
def insertNew (k : String) (v : Value) (t : Table) : Option Table :=
  if (t.lookup k).isSome then none else some (Assoc.put k v t)

/-- Adds an empty table to the list of tables under a key. -/
def appendTable (k : String) (t : Table) : Option Table :=
  match t.lookup k with
  | none => some (Assoc.put k (.array [.table []]) t)
  | some (.array items) => some (Assoc.put k (.array (items ++ [.table []])) t)
  | some _ => none

end CodeAtlas.Toml
