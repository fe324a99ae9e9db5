/-!
# Tables

A table keeps its entries in the order in which their keys were first put. Putting a known key
replaces its value in place. Documents are written in this order, so it is part of their meaning.
-/

namespace ApiDirectives

/-- Entries in the order of their keys' first appearance. -/
abbrev Table (κ α : Type) := List (κ × α)

namespace Table

variable {κ α β : Type} [DecidableEq κ]

/-- The value of a key. -/
def get? (t : Table κ α) (k : κ) : Option α :=
  match t with
  | [] => none
  | (k', a) :: r => if k' = k then some a else get? r k

/-- Whether a key is present. -/
def has (t : Table κ α) (k : κ) : Bool :=
  (get? t k).isSome

/-- Gives a key a value: in place if the key is known, else at the end. -/
def put (t : Table κ α) (k : κ) (a : α) : Table κ α :=
  match t with
  | [] => [(k, a)]
  | (k', a') :: r => if k' = k then (k, a) :: r else (k', a') :: put r k a

/-- Gives a key a value unless it has one. -/
def putNew (t : Table κ α) (k : κ) (a : α) : Table κ α :=
  if has t k then t else t ++ [(k, a)]

/-- Changes the value of a key, if it has one. -/
def adjust (t : Table κ α) (k : κ) (f : α → α) : Table κ α :=
  match t with
  | [] => []
  | (k', a) :: r => if k' = k then (k', f a) :: r else (k', a) :: adjust r k f

/-- The keys in order. -/
def keys (t : Table κ α) : List κ :=
  t.map Prod.fst

/-- The values in order. -/
def values (t : Table κ α) : List α :=
  t.map Prod.snd

/-- The same keys with other values. -/
def mapValues (f : α → β) (t : Table κ α) : Table κ β :=
  t.map fun (k, a) => (k, f a)

/-- Puts entries one after another into an empty table. -/
def ofEntries (entries : List (κ × α)) : Table κ α :=
  entries.foldl (fun t (k, a) => put t k a) []

end Table

end ApiDirectives
