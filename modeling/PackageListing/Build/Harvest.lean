/-
# What a build leaves behind

An aspect of the build produces the descriptors of packages. Its name says what it has to take
in, and the event log of the build says where the descriptors are. A failure of the aspect counts
before a defect of the log that comes after it.
-/

import PackageListing.Build.EventLog
import PackageListing.Build.FileSetGraph

namespace PackageListing
namespace Build

/-- What descriptors have to take in. -/
structure Facets where
  /-- The packages that the listed ones depend on. -/
  deps : Bool
  /-- Export data. -/
  exports : Bool
  /-- Test packages. -/
  tests : Bool
  deriving DecidableEq, Inhabited

/-- The name of the aspect in the file `aspectFile` for some facets. -/
def aspectName (aspectFile : String) (facets : Facets) : String :=
  aspectFile ++ "%gopackagesdriver_" ++ (if facets.deps then "deps_" else "") ++
    (if facets.exports then "export_" else "") ++ (if facets.tests then "test_" else "") ++ "aspect"

/-- Why a log gives no files. -/
inductive HarvestDefect where
  /-- The aspect failed for the target of this label. -/
  | failedTarget (label : String)
  /-- The log is malformed. -/
  | malformed (defect : LogDefect)
  deriving DecidableEq

/-- The files that an aspect produced in the build of a log. -/
def harvest (aspect : String) (log : EventLog) : Except HarvestDefect (List String) :=
  match log.events.foldlM (FileSetGraph.record aspect) .empty with
  | .error label => .error (.failedTarget label)
  | .ok graph =>
    match log.defect with
    | some defect => .error (.malformed defect)
    | none => .ok graph.files

end Build
end PackageListing
