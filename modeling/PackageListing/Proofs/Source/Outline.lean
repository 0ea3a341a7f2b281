/-
# What a tree shows

In a tree that follows the grammar, the tree of an import has a literal among its named children
(`ShowsPath`), the trees of a declaration hold one tree for each import, at any depth
(`ShowsPaths`), and the named children of the whole are comments, the package clause, the
declarations, and whatever else there is (`ShowsHeader`). The outline of such a tree is the header
that it shows (`ShowsHeader.ofTree?_eq`): no other tree has a part in it.
-/

import PackageListing.Proofs.Source.Header
import PackageListing.Proofs.Source.Spelling
import PackageListing.Proofs.Text.Trim
import PackageListing.Source.Outline

namespace PackageListing
namespace Source

open Syntax

/-! ### Named trees -/

theorem namedAmong_cons_of_isNamed {t : Tree} (h : t.kind.isShown && t.kind.isNamed)
    (ts : List Tree) : Tree.namedAmong (t :: ts) = t :: Tree.namedAmong ts := by
  cases t with
  | mk kind _ _ _ _ _ =>
    obtain ⟨hshown, hnamed⟩ : kind.isShown = true ∧ kind.isNamed = true :=
      Bool.and_eq_true_iff.1 h
    rw [Tree.namedAmong, Tree.namedTrees, if_pos hshown, if_pos hnamed]
    rfl

theorem namedAmong_cons_of_not_isNamed {t : Tree} (h : t.kind.isShown && !t.kind.isNamed)
    (ts : List Tree) : Tree.namedAmong (t :: ts) = Tree.namedAmong ts := by
  cases t with
  | mk kind _ _ _ _ _ =>
    obtain ⟨hshown, hnamed⟩ : kind.isShown = true ∧ (!kind.isNamed) = true :=
      Bool.and_eq_true_iff.1 h
    rw [Tree.namedAmong, Tree.namedTrees, if_pos hshown, if_neg (by simpa using hnamed)]
    rfl

/-! ### Trees of imports -/

/-- The tree of an import with this path: the first literal among the named children. -/
inductive ShowsPath (t : Tree) (path : List Char) : Prop
  | mk {before after : List Tree} {literal : Tree} {quote : Char}
    (hchildren : t.namedChildren = before ++ literal :: after)
    (hbefore : ∀ b ∈ before, b.kind ∉ outlineParts.literals)
    (hliteral : literal.kind ∈ outlineParts.literals) (hquote : quote = '"' ∨ quote = '\x60')
    (htext : literal.text = quote :: (path ++ [quote])) : ShowsPath t path

/-- Trees with these paths of imports in them, in order. -/
inductive ShowsPaths : List Tree → List (List Char) → Prop
  | nil : ShowsPaths [] []
  | spec {t : Tree} {ts : List Tree} {path : List Char} {paths : List (List Char)}
    (hkind : t.kind = outlineParts.spec) (hpath : ShowsPath t path) (h : ShowsPaths ts paths) :
    ShowsPaths (t :: ts) (path :: paths)
  | inner {t : Tree} {ts : List Tree} {inside paths : List (List Char)}
    (hkind : t.kind ≠ outlineParts.spec) (hinside : ShowsPaths t.children inside)
    (h : ShowsPaths ts paths) : ShowsPaths (t :: ts) (inside ++ paths)

theorem unquote_quoted {quote : Char} (hquote : quote = '"' ∨ quote = '\x60')
    (path : List Char) : unquote (Text.trim (quote :: (path ++ [quote]))) = path := by
  have hblank : Text.isBlank quote = false := by
    rcases hquote with rfl | rfl <;> decide
  have hlast : (quote :: (path ++ [quote])).getLast? = some quote :=
    List.getLast?_concat (l := quote :: path)
  have htrim : Text.trim (quote :: (path ++ [quote])) = quote :: (path ++ [quote]) := by
    refine Text.trim_eq_self (fun c hc => ?_) (fun c hc => ?_)
    · obtain rfl : quote = c := Option.some.inj hc
      exact hblank
    · rw [hlast] at hc
      obtain rfl : quote = c := Option.some.inj hc
      exact hblank
  rw [htrim, unquote, if_pos]
  · rw [List.tail_cons, List.dropLast_concat]
  · refine ⟨by simp only [List.length_cons, List.length_append]; omega, ?_⟩
    rw [hlast]
    rcases hquote with rfl | rfl <;> simp

theorem ShowsPath.pathOf?_eq {t : Tree} {path : List Char} (h : ShowsPath t path) :
    pathOf? t = some path := by
  obtain ⟨hchildren, hbefore, hliteral, hquote, htext⟩ := h
  rw [pathOf?, hchildren, List.find?_append, List.find?_eq_none.2 (by simpa using hbefore)]
  simp [hliteral, htext, unquote_quoted hquote]

theorem specsIn_of_spec {t : Tree} (h : t.kind = outlineParts.spec) : specsIn t = [t] := by
  cases t with
  | mk kind _ _ _ _ _ =>
    have hkind : kind = outlineParts.spec := h
    rw [specsIn, if_pos hkind]

theorem specsIn_of_ne {t : Tree} (h : t.kind ≠ outlineParts.spec) :
    specsIn t = specsAmong t.children := by
  cases t with
  | mk kind _ _ _ _ _ =>
    have hkind : kind ≠ outlineParts.spec := h
    rw [specsIn, if_neg hkind, Tree.children]

theorem specsAmong_eq_flatMap (ts : List Tree) : specsAmong ts = ts.flatMap specsIn := by
  induction ts with
  | nil => rw [specsAmong, List.flatMap_nil]
  | cons t ts ih => rw [specsAmong, ih, List.flatMap_cons]

theorem ShowsPaths.filterMap_eq {ts : List Tree} {paths : List (List Char)}
    (h : ShowsPaths ts paths) : (specsAmong ts).filterMap pathOf? = paths := by
  induction h with
  | nil => rfl
  | spec hkind hpath _ ih =>
    rw [specsAmong, specsIn_of_spec hkind, List.filterMap_append, ih,
      List.filterMap_cons_some hpath.pathOf?_eq]
    rfl
  | inner hkind _ _ ihinside ih =>
    rw [specsAmong, specsIn_of_ne hkind, List.filterMap_append, ihinside, ih]

/-! ### Trees of sources -/

/-- A tree that has no part in a header. -/
def IsAside (t : Tree) : Prop := t.kind ≠ outlineParts.clause ∧ t.kind ≠ outlineParts.imports

/-- Trees of declarations with these paths of imports in them, in order, and others. -/
inductive ShowsDeclarations : List Tree → List (List Char) → Prop
  | nil : ShowsDeclarations [] []
  | imports {t : Tree} {ts : List Tree} {inside paths : List (List Char)}
    (hkind : t.kind = outlineParts.imports) (hpaths : ShowsPaths [t] inside)
    (h : ShowsDeclarations ts paths) : ShowsDeclarations (t :: ts) (inside ++ paths)
  | aside {t : Tree} {ts : List Tree} {paths : List (List Char)} (ht : IsAside t)
    (h : ShowsDeclarations ts paths) : ShowsDeclarations (t :: ts) paths

/-- A tree of a source with this package clause and these imports. -/
inductive ShowsHeader (name : PackageName) (paths : List (List Char)) (t : Tree) : Prop
  | mk {before after rest : List Tree} {clause leaf : Tree}
    (hchildren : t.namedChildren = before ++ clause :: after) (hbefore : ∀ b ∈ before, IsAside b)
    (hclause : clause.kind = outlineParts.clause) (hname : clause.namedChildren = leaf :: rest)
    (htext : leaf.text = name.text) (h : ShowsDeclarations after paths) :
    ShowsHeader name paths t

theorem clause_ne_imports : outlineParts.clause ≠ outlineParts.imports := by
  decide +kernel

theorem imports_ne_spec : outlineParts.imports ≠ outlineParts.spec := by
  decide +kernel

theorem ShowsDeclarations.filter_clause {ts : List Tree} {paths : List (List Char)}
    (h : ShowsDeclarations ts paths) : ts.filter (fun t => t.kind = outlineParts.clause) = [] := by
  induction h with
  | nil => rfl
  | imports hkind _ _ ih =>
    rw [List.filter_cons_of_neg, ih]
    simpa [hkind] using clause_ne_imports.symm
  | aside ht _ ih =>
    rw [List.filter_cons_of_neg, ih]
    simpa using ht.1

theorem ShowsDeclarations.filterMap_imports {ts : List Tree} {paths : List (List Char)}
    (h : ShowsDeclarations ts paths) :
    ((ts.filter fun t => t.kind = outlineParts.imports).flatMap specsIn).filterMap pathOf? =
      paths := by
  induction h with
  | nil => rfl
  | imports hkind hpaths _ ih =>
    have hfirst := hpaths.filterMap_eq
    rw [specsAmong_eq_flatMap, List.flatMap_singleton] at hfirst
    rw [List.filter_cons_of_pos (by simpa using hkind), List.flatMap_cons, List.filterMap_append,
      ih, hfirst]
  | aside ht _ ih =>
    rw [List.filter_cons_of_neg (by simpa using ht.2), ih]

theorem PackageName.trim_eq (name : PackageName) : Text.trim name.text = name.text := by
  obtain ⟨c, rest, htext, hc, hrest⟩ := name.isIdentifier
  have hall : ∀ d ∈ name.text, Text.isBlank d = false := by
    rw [htext]
    exact List.forall_mem_cons.2 ⟨Text.not_isBlank_of_isIdentifierStart hc,
      fun d hd => Text.not_isBlank_of_isIdentifierPart (hrest d hd)⟩
  exact Text.trim_eq_self (fun d hd => hall d (List.mem_of_mem_head? hd))
    (fun d hd => hall d (List.mem_of_mem_getLast? hd))

/-- **The outline of a tree** is the header that it shows. -/
theorem ShowsHeader.ofTree?_eq {name : PackageName} {paths : List (List Char)} {t : Tree}
    (h : ShowsHeader name paths t) : Header.ofTree? t = some ⟨name.text, paths⟩ := by
  cases h with
  | @mk before after rest clause leaf hchildren hbefore hclause hname htext h =>
    have hclauses : t.namedChildren.filter (fun d => d.kind = outlineParts.clause) = [clause] := by
      rw [hchildren, List.filter_append, List.filter_cons_of_pos (by simpa using hclause),
        h.filter_clause, List.filter_eq_nil_iff.2 (fun b hb => by simpa using (hbefore b hb).1)]
      rfl
    have himports : t.namedChildren.filter (fun d => d.kind = outlineParts.imports) =
        after.filter fun d => d.kind = outlineParts.imports := by
      rw [hchildren, List.filter_append, List.filter_cons_of_neg,
        List.filter_eq_nil_iff.2 (fun b hb => by simpa using (hbefore b hb).2)]
      · rfl
      · simpa [hclause] using clause_ne_imports
    have hnameOf : nameOf? clause = some name.text := by
      rw [nameOf?, hname, List.head?_cons, Option.map_some, htext, name.trim_eq]
    simp only [Header.ofTree?, hclauses, himports, List.getLast?_singleton, Option.bind_some,
      hnameOf, h.filterMap_imports]

end Source
end PackageListing
