/-
# Graphs of file sets

The sets of files that a build announces belong to one another, so they form a graph, of which
the sets that an aspect produced are the roots. The files of the graph are those of all sets that
the roots lead to. Of two announcements of one set the later counts, and a set that is never
announced has no files. A completion of the aspect that failed leaves no graph.
-/

import PackageListing.Build.Event
import PackageListing.Names.Sorted
import PackageListing.Traversal

namespace PackageListing
namespace Build

/-- The output group in which the aspect produces descriptors. -/
def outputGroup : String := "gopackagesdriver"

/-- The file sets of a build. -/
structure FileSetGraph where
  /-- The announced sets by identifier, the latest first. -/
  sets : List (String × FileSet)
  /-- The identifiers of the sets that the aspect produced. -/
  roots : List String
  deriving DecidableEq, Inhabited

namespace FileSetGraph

/-- The graph before any event. -/
def empty : FileSetGraph := ⟨[], []⟩

/-- The graph with another root. -/
def addRoot (g : FileSetGraph) (id : String) : FileSetGraph :=
  { g with roots := g.roots ++ [id] }

/-- The graph with a set announced. -/
def addSet (g : FileSetGraph) (id : String) (set : FileSet) : FileSetGraph :=
  { g with sets := (id, set) :: g.sets }

/-- The identifiers of the sets in the output group of the aspect. -/
def producedSets (c : Completion) : List String :=
  ((c.outputGroups.filter fun group => group.name == outputGroup).flatMap (·.fileSets)).filter
    fun id => !id.isEmpty

/-- The graph after an event. An event that tells of a target does not announce a set, too. The
error is the label of a target for which the aspect failed. -/
def record (aspect : String) (g : FileSetGraph) (event : Event) : Except String FileSetGraph :=
  match event.id with
  | none => .ok g
  | some id =>
    match id.targetCompleted with
    | some target =>
      if target.aspect = aspect then
        let completion := event.completed.getD ⟨false, []⟩
        if completion.success then .ok ((producedSets completion).foldl addRoot g)
        else .error target.label
      else .ok g
    | none =>
      match id.namedSet with
      | some set => .ok (g.addSet set (event.fileSet.getD ⟨[], []⟩))
      | none => .ok g

/-- The names of the files that the roots lead to, in increasing order. -/
def files (g : FileSetGraph) : List String :=
  Names.sorted ((Traversal.preorder FileSet.fileSets g.sets g.roots).flatMap FileSet.files)

end FileSetGraph
end Build
end PackageListing
