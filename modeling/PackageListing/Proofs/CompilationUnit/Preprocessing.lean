/-
# Preprocessed sources

Of the build, only the tag `cgo` and the import of C code see whether C code may be used
(`Constraint.Context.holds_withCgo`). No operating system and no architecture has the name of the
tag, so what a file name admits does not depend on it (`Constraint.FileName.isMatch_withCgo`). To
read a preprocessed source is therefore to read a source in a build with C code
(`Source.Metadata.read_preprocessed`), and in such a build a unit whose sources need no
preprocessing compiles the sources that were written (`CompilationUnit.read_as_with_cgo`).
-/

import PackageListing.Proofs.CompilationUnit.Descriptor

namespace PackageListing

namespace Constraint

namespace Context

/-- **Only the tag `cgo`** sees whether C code may be used. -/
theorem holds_withCgo (ctx : Context) {tag : String} (htag : tag ≠ "cgo") :
    ctx.withCgo.holds tag = ctx.holds tag := by
  rw [holds, holds, if_neg htag, if_neg htag]
  rfl

theorem withCgo_withCgo (ctx : Context) : ctx.withCgo.withCgo = ctx.withCgo := rfl

theorem withCgo_of_cgo {ctx : Context} (h : ctx.cgo = true) : ctx.withCgo = ctx := by
  rw [withCgo, ← h]

end Context

namespace FileName

variable (ctx : Context)

theorem holds_withCgo_of_platform {tag : String}
    (h : systems.contains tag = true ∨ architectures.contains tag = true) :
    ctx.withCgo.holds tag = ctx.holds tag := by
  refine ctx.holds_withCgo ?_
  rintro rfl
  revert h
  decide

theorem platformHolds_withCgo (pieces : List String) :
    platformHolds ctx.withCgo pieces = platformHolds ctx pieces := by
  have hone (tag : String) :
      (if systems.contains tag || architectures.contains tag then ctx.withCgo.holds tag else true) =
        if systems.contains tag || architectures.contains tag then ctx.holds tag else true := by
    split
    · next h => exact holds_withCgo_of_platform ctx ((Bool.or_eq_true _ _).mp h)
    · rfl
  rw [platformHolds, platformHolds]
  split
  · next last before _ _ =>
    rw [hone last]
    split
    · next h =>
      obtain ⟨hbefore, hlast⟩ := (Bool.and_eq_true _ _).mp h
      rw [holds_withCgo_of_platform ctx (.inl hbefore),
        holds_withCgo_of_platform ctx (.inr hlast)]
    · rfl
  · exact hone _
  · rfl

/-- **What a file name admits** does not depend on the use of C code. -/
theorem isMatch_withCgo (name : String) : isMatch ctx.withCgo name = isMatch ctx name := by
  rw [isMatch, isMatch, platformHolds_withCgo]

end FileName

end Constraint

namespace Source
namespace Metadata

/-- **A preprocessed source is read as in a build with C code,** with the same failures. -/
theorem read_preprocessed (fs : FileSystem) (ctx : Constraint.Context) (file : String)
    (preprocessed : Bool) (parse : Parser) :
    read fs ctx file true parse = read fs ctx.withCgo file preprocessed parse := by
  have hctx : (if preprocessed then ctx.withCgo.withCgo else ctx.withCgo) = ctx.withCgo := by
    rw [Constraint.Context.withCgo_withCgo, ite_self]
  simp only [read, Constraint.FileName.isMatch_withCgo, hctx, if_true]

theorem read_preprocessed_of_cgo (fs : FileSystem) {ctx : Constraint.Context} (h : ctx.cgo = true)
    (file : String) (parse : Parser) :
    read fs ctx file true parse = read fs ctx file false parse := by
  rw [read_preprocessed fs ctx file false, Constraint.Context.withCgo_of_cgo h]

end Metadata
end Source

namespace CompilationUnit

open Source (Metadata Parser headerParser)

theorem keeps_of_cgo (fs : FileSystem) {ctx : Constraint.Context} (h : ctx.cgo = true)
    (parse : Parser) (filter : TestFilter) :
    keeps fs ctx parse filter true = keeps fs ctx parse filter false := by
  funext file
  have hcontribution : contribution fs ctx parse true file =
      contribution fs ctx parse false file := by
    rw [contribution, contribution, Metadata.read_preprocessed_of_cgo fs h]
  rw [keeps, keeps, hcontribution]

/-- **To read a preprocessed source is to read a source in a build with C code.** So in a build with
C code a unit whose sources need no preprocessing compiles just the sources that were written. -/
theorem read_as_with_cgo :
    (∀ (fs : FileSystem) (ctx : Constraint.Context) (file : String) (preprocessed : Bool)
        (parse : Parser), Metadata.read fs ctx file true parse =
          Metadata.read fs ctx.withCgo file preprocessed parse) ∧
      ∀ (fs : FileSystem) (ctx : Constraint.Context) (standardStart : String) (u : CompilationUnit)
        (parse : Parser) (p : Package), ctx.cgo = true → u.writtenSources = u.goSources →
          u.describe fs ctx standardStart parse = .ok p → p.goFiles = p.compiledGoFiles := by
  refine ⟨Metadata.read_preprocessed, fun fs ctx standardStart u parse p hcgo hsources h => ?_⟩
  have hdescribes := describes_of_describe h
  rw [hdescribes.goFiles, hdescribes.compiledGoFiles, hsources, keeps_of_cgo fs hcgo]

/-- A source that needs C code, and one that takes its place in builds without. -/
def cgoSources : FileSystem where
  tree := .directory
    [("a.go", .file (Text.encode "//go:build cgo\n\npackage p\nimport \"C\"\n".toList)),
      ("b.go", .file (Text.encode "//go:build !cgo\n\npackage p\n".toList))]
  workingPlace := []

/-- A build with C code. -/
def cgoContext : Constraint.Context := sampleContext.withCgo

/-- A unit with the two sources, which need no preprocessing. -/
def cgoUnit : CompilationUnit :=
  { sampleUnit with
    goSources := ["a.go", "b.go"]
    otherSources := []
    writtenSources := ["a.go", "b.go"]
    archives := [] }

/-- The descriptor of the unit. -/
def cgoDescriptor : Package :=
  { sampleDescriptor with
    goFiles := ["a.go"]
    compiledGoFiles := ["a.go"]
    otherFiles := []
    imports := .empty }

theorem describe_cgoUnit :
    cgoUnit.describe cgoSources cgoContext "std/" headerParser = .ok cgoDescriptor := by
  have hfirst : cgoSources.read "a.go" =
      .ok (Text.encode "//go:build cgo\n\npackage p\nimport \"C\"\n".toList) :=
    cgoSources.read_of_lookup rfl rfl (by decide) rfl (by decide) (by decide)
      (by decide) rfl
  have hsecond : cgoSources.read "b.go" =
      .ok (Text.encode "//go:build !cgo\n\npackage p\n".toList) :=
    cgoSources.read_of_lookup rfl rfl (by decide) rfl (by decide) (by decide)
      (by decide) rfl
  have ha : Metadata.read cgoSources cgoContext "a.go" false headerParser =
      .ok ⟨"a.go", true, "p", ["C"], true⟩ := by
    rw [Metadata.read, hfirst]
    decide +kernel
  have hb : Metadata.read cgoSources cgoContext "b.go" false headerParser =
      .ok (.unmatched "b.go") := by
    rw [Metadata.read, hsecond]
    decide +kernel
  simp only [describe, cgoUnit, List.mapM_cons, List.mapM_nil,
    Metadata.read_preprocessed_of_cgo cgoSources (show cgoContext.cgo = true from rfl), ha, hb]
  decide

theorem cgoDescriptor_goFiles :
    cgoContext.cgo = true ∧ cgoUnit.writtenSources = cgoUnit.goSources ∧
      cgoUnit.describe cgoSources cgoContext "std/" headerParser = .ok cgoDescriptor ∧
      cgoDescriptor.goFiles = cgoDescriptor.compiledGoFiles :=
  ⟨rfl, rfl, describe_cgoUnit,
    read_as_with_cgo.2 cgoSources cgoContext "std/" cgoUnit headerParser cgoDescriptor rfl rfl
      describe_cgoUnit⟩

end CompilationUnit
end PackageListing
