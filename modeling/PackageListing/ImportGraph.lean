/-
# Graphs of imports

Packages import one another, so they form a graph. A response lists the packages that its roots
lead to, each once, in the order in which a traversal meets them. Of two packages with one
identifier the first counts, and an import of a package that is not there leads nowhere.
-/

import PackageListing.Response
import PackageListing.Traversal

namespace PackageListing
namespace ImportGraph

/-- The identifiers of the packages that a package imports, in the order of their paths. -/
def imported (p : Package) : List String :=
  p.imports.values

/-- The packages that some roots lead to. -/
def reachable (roots : List String) (packages : List Package) : List Package :=
  Traversal.preorder imported (packages.map fun p => (p.id, p)) roots

/-- The response with some roots and the packages they lead to. -/
def respond (roots : List String) (packages : List Package) : Response :=
  { sizes := none, roots := roots, packages := reachable roots packages }

end ImportGraph
end PackageListing
