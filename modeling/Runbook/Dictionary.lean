/-!
# Dictionaries

Finite maps from text as lists of entries in increasing order of their keys. Keys are compared
character by character, by code.
-/

namespace Runbook

/-- A list of entries; `Dictionary.Sorted` says that its keys increase. -/
abbrev Dictionary (α : Type) := List (String × α)

namespace Dictionary

variable {α β ε : Type}

/-- Set the value at a key, in place of an earlier one. -/
def insert (key : String) (value : α) : Dictionary α → Dictionary α
  | [] => [(key, value)]
  | (k, v) :: rest =>
    if key < k then (key, value) :: (k, v) :: rest
    else if key = k then (key, value) :: rest
    else (k, v) :: insert key value rest

/-- The value at a key. -/
def get? (entries : Dictionary α) (key : String) : Option α :=
  (entries.find? (fun entry => entry.1 == key)).map (·.2)

/-- Whether a key has a value. -/
def contains (entries : Dictionary α) (key : String) : Bool :=
  (entries.get? key).isSome

/-- The entries of a list, where a later entry replaces an earlier one with the same key. -/
def ofList (entries : List (String × α)) : Dictionary α :=
  entries.foldl (fun built entry => insert entry.1 entry.2 built) []

/-- The keys in increasing order. -/
def keys (entries : Dictionary α) : List String := entries.map (·.1)

/-- The values in order of their keys. -/
def values (entries : Dictionary α) : List α := entries.map (·.2)

/-- The keys increase. -/
def Sorted (entries : Dictionary α) : Prop :=
  entries.Pairwise (fun earlier later => earlier.1 < later.1)

/-- Apply a function that may fail to each value, in order of the keys. -/
def traverse (f : α → Except ε β) : Dictionary α → Except ε (Dictionary β)
  | [] => .ok []
  | (key, value) :: rest => do
    let image ← f value
    let images ← traverse f rest
    return (key, image) :: images

end Dictionary

end Runbook
