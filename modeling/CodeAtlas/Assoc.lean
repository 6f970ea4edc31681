/-!
# Association lists

Keys with values in the order in which the keys were first put.
-/

namespace CodeAtlas.Assoc

variable {κ α : Type} [BEq κ]

/-- Gives a key a value; a key that has one keeps its place. -/
def put (k : κ) (a : α) : List (κ × α) → List (κ × α)
  | [] => [(k, a)]
  | (k', a') :: rest => if k' == k then (k', a) :: rest else (k', a') :: put k a rest

/-- Gives a key a value unless it has one. -/
def putNew (k : κ) (a : α) (xs : List (κ × α)) : List (κ × α) :=
  if (xs.lookup k).isSome then xs else xs ++ [(k, a)]

/-- Adds an element to the list under a key. -/
def push (k : κ) (a : α) : List (κ × List α) → List (κ × List α)
  | [] => [(k, [a])]
  | (k', as) :: rest => if k' == k then (k', as ++ [a]) :: rest else (k', as) :: push k a rest

/-- The values of pairs, gathered under their keys. -/
def gather (pairs : List (κ × α)) : List (κ × List α) :=
  pairs.foldl (fun found p => push p.1 p.2 found) []

def hasKey (k : κ) (xs : List (κ × α)) : Bool := xs.any (·.1 == k)

end CodeAtlas.Assoc
