import ChartCompiler.Json.Reader

/-!
Reading the JSON text of a record of which only some members are known. Known
members are read in full; a known member that stands twice is a fault. Of the
others no more than the grammar is checked.
-/

namespace ChartCompiler.Json

/-- The known members of an object up to and including the closing brace, in
the order in which they stand. -/
def readKnownMembers (known : String → Bool) : (fuel depth : Nat) → List Char →
    Option (List (String × Json) × List Char)
  | 0, _, _ => none
  | fuel + 1, depth, text =>
    match skipBlanks text with
    | '"' :: rest => do
      let (key, rest) ← readString .raw [] rest
      match skipBlanks rest with
      | ':' :: rest =>
        let (value, rest) ← readValue (if known key then .raw else .skipped) fuel depth rest
        let member := if known key then [(key, value)] else []
        match skipBlanks rest with
        | ',' :: rest =>
          let (members, rest) ← readKnownMembers known fuel depth rest
          return (member ++ members, rest)
        | '\x7d' :: rest => return (member, rest)
        | _ => none
      | _ => none
    | _ => none

/-- The known members of the one object that a text holds. -/
def readRecord? (known : String → Bool) (text : List Char) : Option (List (String × Json)) := do
  let (members, rest) ←
    match skipBlanks text with
    | '\x7b' :: rest =>
      match skipBlanks rest with
      | '\x7d' :: rest => some ([], rest)
      | rest => readKnownMembers known (readFuel text) (maxDepth - 1) rest
    | _ => none
  if (skipBlanks rest).isEmpty ∧ (members.map Prod.fst).Nodup then some members else none

end ChartCompiler.Json
