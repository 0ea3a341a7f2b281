/-
# Events of a build

A build tells what it does in events. Two kinds matter to a listing: a target is complete, with
the sets of files it produced in each output group, and a set of files is what it is. A message
field that comes twice is one message read in two parts; of a plain field that comes twice the
later counts. Fields that nobody knows are skipped.
-/

import PackageListing.Wire.Field

namespace PackageListing
namespace Build

/-- The target, and the aspect of it, that an event tells of. -/
structure TargetId where
  /-- The label of the target. -/
  label : String
  /-- The name of the aspect. -/
  aspect : String
  deriving DecidableEq, Inhabited

/-- What an event tells of. -/
structure EventId where
  /-- A complete target. -/
  targetCompleted : Option TargetId
  /-- A set of files, by its identifier. -/
  namedSet : Option String
  deriving DecidableEq, Inhabited

/-- The files of an output group, in sets. -/
structure OutputGroup where
  /-- The name of the group. -/
  name : String
  /-- The identifiers of the sets. -/
  fileSets : List String
  deriving DecidableEq, Inhabited

/-- How a target was completed. -/
structure Completion where
  /-- Whether it was built. -/
  success : Bool
  /-- What it produced. -/
  outputGroups : List OutputGroup
  deriving DecidableEq, Inhabited

/-- A set of files. -/
structure FileSet where
  /-- The names of its own files. -/
  files : List String
  /-- The identifiers of the sets that belong to it. -/
  fileSets : List String
  deriving DecidableEq, Inhabited

/-- An event. -/
structure Event where
  /-- What it tells of. -/
  id : Option EventId
  /-- How a target was completed. -/
  completed : Option Completion
  /-- What a set of files is. -/
  fileSet : Option FileSet
  deriving DecidableEq, Inhabited

/-- How many messages and groups may be nested. -/
def nesting : Nat := 100

/-- Reads a message whose only field is a text. -/
def nameStep (_ : String) (f : Wire.Field) : Option String :=
  f.payload.text?

/-- Reads a field, or goes past one that is not `number`. -/
def onlyField {α : Type} (number : Nat) (step : α → Wire.Field → Option α) (a : α)
    (f : Wire.Field) : Option α :=
  if f.number = number then step a f else some a

/-- A message, at depth `depth`, whose only field is a text. -/
def name? (depth : Nat) (f : Wire.Field) (start : String) : Option String :=
  f.payload.message? (nesting - depth) (onlyField 1 nameStep) start

/-- Reads a field of a target. -/
def TargetId.step (t : TargetId) (f : Wire.Field) : Option TargetId :=
  match f.number with
  | 1 => f.payload.text?.map fun label => { t with label := label }
  | 2 => f.payload.text?.map fun aspect => { t with aspect := aspect }
  | _ => some t

/-- Reads a field of what an event tells of. -/
def EventId.step (e : EventId) (f : Wire.Field) : Option EventId :=
  match f.number with
  | 5 =>
    (f.payload.message? (nesting - 2) TargetId.step (e.targetCompleted.getD ⟨"", ""⟩)).map
      fun t => { e with targetCompleted := some t }
  | 13 => (name? 2 f (e.namedSet.getD "")).map fun s => { e with namedSet := some s }
  | _ => some e

/-- Reads a field of an output group. -/
def OutputGroup.step (g : OutputGroup) (f : Wire.Field) : Option OutputGroup :=
  match f.number with
  | 1 => f.payload.text?.map fun name => { g with name := name }
  | 3 => (name? 3 f "").map fun s => { g with fileSets := g.fileSets ++ [s] }
  | _ => some g

/-- Reads a field of a completion. -/
def Completion.step (c : Completion) (f : Wire.Field) : Option Completion :=
  match f.number with
  | 1 => f.payload.flag?.map fun success => { c with success := success }
  | 2 =>
    (f.payload.message? (nesting - 2) OutputGroup.step ⟨"", []⟩).map fun g =>
      { c with outputGroups := c.outputGroups ++ [g] }
  | _ => some c

/-- Reads a field of a set of files. -/
def FileSet.step (s : FileSet) (f : Wire.Field) : Option FileSet :=
  match f.number with
  | 1 => (name? 2 f "").map fun file => { s with files := s.files ++ [file] }
  | 2 => (name? 2 f "").map fun set => { s with fileSets := s.fileSets ++ [set] }
  | _ => some s

/-- Reads a field of an event. -/
def Event.step (e : Event) (f : Wire.Field) : Option Event :=
  match f.number with
  | 1 =>
    (f.payload.message? (nesting - 1) EventId.step (e.id.getD ⟨none, none⟩)).map fun i =>
      { e with id := some i }
  | 8 =>
    (f.payload.message? (nesting - 1) Completion.step (e.completed.getD ⟨false, []⟩)).map
      fun c => { e with completed := some c }
  | 15 =>
    (f.payload.message? (nesting - 1) FileSet.step (e.fileSet.getD ⟨[], []⟩)).map fun s =>
      { e with fileSet := some s }
  | _ => some e

/-- The event that a record denotes. -/
def Event.ofRecord? (record : List UInt8) : Option Event :=
  Wire.merge? nesting Event.step ⟨none, none, none⟩ record

end Build
end PackageListing
