/-
# What a Go source declares

Two things of a Go source matter to a listing: the name in its package clause and the paths it
imports. The outline of the tree that a parser gives the source shows both. A path counts once,
where it comes first, and an empty path not at all.
-/

import PackageListing.Source.Outline

namespace PackageListing
namespace Source

/-- A parser of sources. It gives a text its tree, or gives up. -/
abbrev Parser := List Char → Option Syntax.Tree

/-- The package name and the import paths of a source. -/
structure Summary where
  /-- The declared name. -/
  package : String
  /-- The imported paths, each once. -/
  imports : List String
  deriving DecidableEq, Inhabited

namespace Summary

/-- Takes up a path, unless it is empty or known. -/
def addPath (paths : List (List Char)) (path : List Char) : List (List Char) :=
  if path.isEmpty || paths.contains path then paths else paths ++ [path]

/-- The paths that count. -/
def countedPaths (paths : List (List Char)) : List (List Char) := paths.foldl addPath []

/-- What a header declares; nothing if its name is empty. -/
def ofHeader? (h : Header) : Option Summary :=
  if h.name.isEmpty then none
  else some ⟨String.ofList h.name, (countedPaths h.paths).map String.ofList⟩

/-- What a source declares by its tree; nothing if it has none, or the tree names no package. -/
def ofSource? (source : List Char) (parse : Parser := Syntax.Tree.ofSource?) : Option Summary :=
  ((parse source).bind Header.ofTree?).bind ofHeader?

theorem addPath_ne_nil {paths : List (List Char)} {path : List Char}
    (h : ∀ x ∈ paths, x ≠ []) : ∀ x ∈ addPath paths path, x ≠ [] := by
  intro x hx
  unfold addPath at hx
  split at hx
  · exact h x hx
  · next hc =>
    simp only [List.mem_append, List.mem_singleton] at hx
    rcases hx with hx | rfl
    · exact h x hx
    · rintro rfl; simp at hc

theorem addPath_nodup {paths : List (List Char)} {path : List Char} (h : paths.Nodup) :
    (addPath paths path).Nodup := by
  unfold addPath
  split
  · exact h
  · next hc =>
    have hnot : path ∉ paths := by
      intro hm; simp [hm] at hc
    exact List.nodup_append.2
      ⟨h, by simp, fun a ha b hb hab => hnot (List.mem_singleton.1 hb ▸ hab ▸ ha)⟩

end Summary
end Source
end PackageListing
