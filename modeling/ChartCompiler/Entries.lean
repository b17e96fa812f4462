/-!
Ordered entries: a list of keyed values in the order in which the keys first
arrived. Writing to a key that is present replaces its value in place, and a
new key goes to the end. JSON objects, rows, fragments and schemas all keep
their members this way, because the order shows in every text that is written.
-/

namespace ChartCompiler.Entries

variable {α : Type}

/-- The keys, in order. -/
def keys (entries : List (String × α)) : List String :=
  entries.map Prod.fst

/-- The value stored under a key. -/
def get? (entries : List (String × α)) (key : String) : Option α :=
  entries.lookup key

/-- The key is present. -/
def contains (entries : List (String × α)) (key : String) : Bool :=
  (get? entries key).isSome

/-- Writes a value: a present key keeps its place, a new key goes to the end. -/
def insert : List (String × α) → String → α → List (String × α)
  | [], key, value => [(key, value)]
  | (k, v) :: rest, key, value =>
    if k = key then (k, value) :: rest else (k, v) :: insert rest key value

/-- Removes a key; the other entries keep their order. -/
def erase (entries : List (String × α)) (key : String) : List (String × α) :=
  entries.filter fun entry => entry.1 ≠ key

/-- Writes every entry of `later` in turn. -/
def merge (entries later : List (String × α)) : List (String × α) :=
  later.foldl (fun acc entry => insert acc entry.1 entry.2) entries

/-- Entries from pairs whose keys may repeat: a repeated key keeps its first
place and its last value. -/
def ofPairs (pairs : List (String × α)) : List (String × α) :=
  merge [] pairs

end ChartCompiler.Entries
