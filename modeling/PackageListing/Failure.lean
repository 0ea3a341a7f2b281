/-
# Failures

A failure is a cause together with the activities it interrupted, the outermost first. Its text
names them all, each before what went on inside it.
-/

import PackageListing.Build.Harvest
import PackageListing.Constraint.Expr
import PackageListing.Files.System

namespace PackageListing

/-- What a failure interrupts. -/
inductive Activity where
  | discoverWorkspace
  | resolveTargets
  | buildDescriptors
  | listWithoutWorkspace
  | listStandardLibrary
  | decodeListing
  | expandParameters
  | createEventLog
  | readEventLog (path : String)
  | runTool (tool command : String)
  | describeUnit (id : String)
  | read (path : String)
  | inspect (path : String)
  | walk (path : String)
  | createDirectory (path : String)
  | createFile (path : String)
  | write (path : String)
  | readConstraints (path : String)
  | evaluateConstraints (path : String)
  | readSource (path : String)
  deriving DecidableEq

namespace Activity

/-- The activity in words. -/
def text : Activity → String
  | discoverWorkspace => "discover workspace"
  | resolveTargets => "resolve targets"
  | buildDescriptors => "build package descriptors"
  | listWithoutWorkspace => "list packages without a workspace"
  | listStandardLibrary => "list standard library"
  | decodeListing => "decode go list output"
  | expandParameters => "expand params files"
  | createEventLog => "create build event log file"
  | readEventLog path => "read build event log " ++ path
  | runTool tool command => "run " ++ tool ++ " " ++ command
  | describeUnit id => "build package descriptor for " ++ id
  | read path => "read " ++ path
  | inspect path => "stat " ++ path
  | walk path => "walk " ++ path
  | createDirectory path => "create dir " ++ path
  | createFile path => "create " ++ path
  | write path => "write " ++ path
  | readConstraints path => "parse build constraints in " ++ path
  | evaluateConstraints path => "evaluate build constraints in " ++ path
  | readSource path => "parse " ++ path

end Activity

/-- Why something fails. -/
inductive Cause where
  /-- A pattern asks for a kind of query that there is not. -/
  | unknownQuery (query pattern : String)
  /-- A test filter that there is not. -/
  | unknownTestFilter (text : String)
  /-- A dependency without its four parts. -/
  | malformedArchive (text : String)
  /-- A flag that is needed and was not given. -/
  | missingFlag (flag : String)
  /-- The input of the program is no request. -/
  | unreadableRequest
  /-- A tool ended with a status other than nought. -/
  | toolFailed (tool command : String) (status : UInt8)
  /-- A target was not built. -/
  | targetFailed (label : String)
  /-- The event log of a build is malformed. -/
  | malformedLog (defect : Build.LogDefect)
  /-- A file that should hold a descriptor does not. -/
  | malformedDescriptor (path : String)
  /-- There is no workspace around the working directory. -/
  | noWorkspace
  /-- The build tool left a directory out of its report. -/
  | unreported (tool key : String)
  /-- A constraint expression is malformed. -/
  | malformedConstraint (source : String) (defect : Constraint.Defect)
  /-- A header has two constraint expressions. -/
  | repeatedConstraint
  /-- A Go source has no tree. -/
  | noTree
  /-- A Go source does not declare a package. -/
  | noPackageClause
  /-- A path without a file name stands for a source. -/
  | notASource (path : String)
  /-- A text is no JSON of the expected form. -/
  | malformedJson
  /-- An operation on files failed. -/
  | io (error : IoError)
  /-- A walk could not list a directory. -/
  | unlisted (path : String) (error : IoError)
  deriving DecidableEq

namespace Cause

/-- The cause in words. -/
def text : Cause → String
  | unknownQuery query pattern =>
    "invalid query type " ++ Text.quoted query ++ " in query pattern " ++ Text.quoted pattern
  | unknownTestFilter text => "invalid test filter " ++ Text.quoted text
  | malformedArchive text => "badly formed -arc flag: " ++ text
  | missingFlag flag => "-" ++ flag ++ " not set"
  | unreadableRequest => "unable to read request"
  | toolFailed tool command status =>
    tool ++ " " ++ command ++ " failed: exit status: " ++ toString status.toNat
  | targetFailed label => label ++ " did not build successfully"
  | malformedLog defect => "malformed build event log: " ++ defect.message
  | malformedDescriptor path => "failed to load package file " ++ path
  | noWorkspace => "working directory is outside any Bazel workspace"
  | unreported tool key => tool ++ " info did not report " ++ key
  | malformedConstraint source defect => defect.message source
  | repeatedConstraint => "multiple //go:build comments"
  | noTree => "tree-sitter parse failed"
  | noPackageClause => "expected 'package' clause"
  | notASource path => "invalid source file name " ++ path
  | malformedJson => "malformed JSON"
  | io error => error.message
  | unlisted path error =>
    path ++ ": IO error for operation on " ++ path ++ ": " ++ error.message

/-- The cause behind a harvest that fails. -/
def ofHarvest : Build.HarvestDefect → Cause
  | .failedTarget label => targetFailed label
  | .malformed defect => malformedLog defect

end Cause

/-- A cause and the activities it interrupted, the outermost first. -/
structure Failure where
  /-- The activities. -/
  activities : List Activity
  /-- The cause. -/
  cause : Cause
  deriving DecidableEq

namespace Failure

/-- A failure outside all activities. -/
def of (cause : Cause) : Failure := ⟨[], cause⟩

/-- The failure, with one more activity around it. -/
def within (activity : Activity) (f : Failure) : Failure :=
  { f with activities := activity :: f.activities }

/-- The failure in words, where the cause reads `cause`. -/
def textWith (cause : String) (f : Failure) : String :=
  ": ".intercalate (f.activities.map Activity.text ++ [cause])

/-- The failure in words. -/
def text (f : Failure) : String :=
  f.textWith f.cause.text

/-- A result, whose error interrupts an activity. -/
def during {α : Type} (activity : Activity) : Except Failure α → Except Failure α :=
  Except.mapError (within activity)

/-- A result of an operation on files, whose error interrupts an activity. -/
def duringIo {α : Type} (activity : Activity) : Except IoError α → Except Failure α :=
  Except.mapError fun e => ⟨[activity], .io e⟩

end Failure
end PackageListing
