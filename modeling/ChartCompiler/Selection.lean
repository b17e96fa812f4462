import ChartCompiler.Config.Basic
import ChartCompiler.Json.Decode

/-!
Selections: the points picked so far, each a record from fields to values.
-/

namespace ChartCompiler

/-- The selected records in the order in which they were picked. -/
structure Selection where
  records : List Row
deriving DecidableEq

namespace Selection

/-- Nothing is selected. -/
def empty : Selection :=
  ⟨[]⟩

instance : Inhabited Selection := ⟨empty⟩

/-- Nothing is selected. -/
def isEmpty (selection : Selection) : Bool :=
  selection.records.isEmpty

/-- Adds a record at the end. -/
def push (selection : Selection) (record : Row) : Selection :=
  ⟨selection.records ++ [record]⟩

/-- Drops the fields that are no longer bound, then the records left empty. -/
def retainBound (selection : Selection) (config : ChartConfig) : Selection :=
  ⟨(selection.records.map fun record => record.filter fun entry => config.isBound entry.1).filter
    fun record => !record.isEmpty⟩

/-- The selection as a JSON array of objects. -/
def toJson (selection : Selection) : Json :=
  .array (selection.records.map .object)

/-- Reads a JSON array of objects. -/
def ofJson (value : Json) : Decoded Selection :=
  (Decode.list Decode.members value).map Selection.mk

end Selection

end ChartCompiler
