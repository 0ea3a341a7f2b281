/-
# Parsers that follow the grammar

What a parser does with a source of Go is not settled by its texts alone, so what is expected of
it is said of one source at a time: it follows the grammar there if it gives the source a tree that
shows the header which the source spells (`FollowsGrammar`). Nothing is expected of a source that
spells no header.

A source spells one header at most. Its lexemes are settled by `Spells.lexemes?_eq` and the header
that they make up by `HeaderPhrase.ofLexemes?_eq`, so the name and the paths of a source are the
same however it is taken apart (`HeaderPhrase.eq_of_spells`), and a parser that gives a source one
tree with its header follows the grammar there (`FollowsGrammar.of_showsHeader`). Some parser
follows it on every source: the one that reads the header lexeme by lexeme and gives the source a
tree of just that (`followsGrammar_headerParser`).
-/

import PackageListing.Proofs.Source.Outline
import PackageListing.Source.Summary

namespace PackageListing
namespace Source

open Syntax

/-- **What is taken for granted of a parser:** it gives the source a tree that shows its header, if
the source spells one. -/
def FollowsGrammar (parse : Parser) (s : List Char) : Prop :=
  ∀ name ds ls, HeaderPhrase name ds ls → Spells ls s →
    ∃ t, parse s = some t ∧ ShowsHeader name (ds.flatMap Declaration.paths) t

/-! ### The header of a source -/

/-- No lexeme begins with a byte order mark. -/
theorem Spells.dropOrderMark_eq {ls : List Lexeme} {s : List Char} (h : Spells ls s) :
    Header.dropOrderMark s = s := by
  have hne : ∀ rest, s ≠ '\ufeff' :: rest := by
    rintro rest rfl
    cases h with
    | space hc => exact absurd hc (by decide)
    | word hc => exact absurd hc (by decide +kernel)
    | sign hc => exact absurd hc (by decide)
  unfold Header.dropOrderMark
  split
  · exact absurd rfl (hne _)
  · rfl

section

variable {name name' : PackageName} {ds ds' : List Declaration} {ls ls' : List Lexeme}
  {s : List Char}

theorem HeaderPhrase.ofSource?_eq (hphrase : HeaderPhrase name ds ls) (hspells : Spells ls s) :
    Header.ofSource? s = some ⟨name.text, ds.flatMap Declaration.paths⟩ := by
  rw [Header.ofSource?, hspells.dropOrderMark_eq, hspells.lexemes?_eq]
  exact hphrase.ofLexemes?_eq

/-- **A source spells one header**, however it is taken apart. -/
theorem HeaderPhrase.eq_of_spells (hphrase : HeaderPhrase name ds ls) (hspells : Spells ls s)
    (hphrase' : HeaderPhrase name' ds' ls') (hspells' : Spells ls' s) :
    name = name' ∧ ds.flatMap Declaration.paths = ds'.flatMap Declaration.paths := by
  have hread := hphrase.ofSource?_eq hspells
  rw [hphrase'.ofSource?_eq hspells'] at hread
  obtain ⟨hname, hpaths⟩ := Header.mk.inj (Option.some.inj hread)
  exact ⟨PackageName.ext hname.symm, hpaths.symm⟩

/-- One tree with the header of a source is enough. -/
theorem FollowsGrammar.of_showsHeader {parse : Parser} {t : Tree}
    (hphrase : HeaderPhrase name ds ls) (hspells : Spells ls s) (hparse : parse s = some t)
    (ht : ShowsHeader name (ds.flatMap Declaration.paths) t) : FollowsGrammar parse s := by
  intro name' ds' ls' hphrase' hspells'
  obtain ⟨rfl, hpaths⟩ := hphrase.eq_of_spells hspells hphrase' hspells'
  exact ⟨t, hparse, hpaths ▸ ht⟩

end

/-! ### Trees of headers -/

/-- The tree of a token after some white space. -/
def tokenTree (t : Token) (space text : List Char) : Tree := .leaf (.token t.index) space text

/-- The tree of a part of the grammar. -/
def partTree (name : String) (children : List Tree) : Tree :=
  .node (.part (partNumber name)) children

/-- The tree of a literal in double quotes after some white space. -/
def literalTree (space path : List Char) : Tree :=
  let inside := if path.isEmpty then [] else [tokenTree .quotedText [] path]
  partTree "QuotedString"
    (tokenTree (.sign "\"") space ['"'] :: (inside ++ [tokenTree .closingQuote [] ['"']]))

/-- The tree of a package clause after some white space. -/
def clauseTree (space name : List Char) : Tree :=
  .node outlineParts.clause
    [tokenTree (.word "package") space "package".toList, tokenTree .identifier [' '] name]

/-- The tree of an import without an alias. -/
def specTree (path : List Char) : Tree := .node outlineParts.spec [literalTree [' '] path]

/-- The tree of a declaration of imports. -/
def importsTree (children : List Tree) : Tree :=
  .node outlineParts.imports (tokenTree (.word "import") [] "import".toList :: children)

/-- The tree of a source that is a header and nothing else, its imports in one declaration. -/
def headerTree (h : Header) : Tree :=
  partTree "SourceFile" [clauseTree [] h.name, importsTree (h.paths.map specTree)]

/-- The parser that reads the header of a source and gives the source the tree of that. -/
def headerParser : Parser := fun s => (Header.ofSource? s).map headerTree

theorem text_tokenTree (t : Token) (space text : List Char) :
    (tokenTree t space text).text = text := by
  simp [tokenTree, Syntax.Tree.text, Syntax.Tree.leaf, Syntax.Tree.written,
    Syntax.Tree.writtenAll, Syntax.Tree.measure, Extent.ofText]

theorem text_literalTree (space path : List Char) :
    (literalTree space path).text = '"' :: (path ++ ['"']) := by
  cases path <;>
    simp [literalTree, partTree, tokenTree, Syntax.Tree.text, Syntax.Tree.node,
      Syntax.Tree.leaf, Syntax.Tree.written, Syntax.Tree.writtenAll, Syntax.Tree.measure,
      Syntax.Tree.measureOf, Extent.ofText]

theorem literal_isNamed : (Kind.part (partNumber "QuotedString")).isShown &&
    (Kind.part (partNumber "QuotedString")).isNamed := by
  decide +kernel

theorem literal_mem_literals : Kind.part (partNumber "QuotedString") ∈ outlineParts.literals := by
  decide +kernel

theorem namedChildren_specTree (path : List Char) :
    (specTree path).namedChildren = [literalTree [' '] path] :=
  namedAmong_cons_of_isNamed (t := literalTree [' '] path) literal_isNamed []

theorem showsPath_specTree (path : List Char) : ShowsPath (specTree path) path := by
  have hchildren : (specTree path).namedChildren = [] ++ literalTree [' '] path :: [] :=
    namedChildren_specTree path
  exact .mk hchildren (List.forall_mem_nil _) literal_mem_literals (.inl rfl)
    (text_literalTree _ path)

theorem showsPaths_map_specTree (paths : List (List Char)) :
    ShowsPaths (paths.map specTree) paths := by
  induction paths with
  | nil => exact .nil
  | cons path paths ih => exact .spec rfl (showsPath_specTree path) ih

/-- A token has no imports in it. -/
theorem ShowsPaths.cons_tokenTree {t : Token} {space text : List Char} {ts : List Tree}
    {paths : List (List Char)} (h : ShowsPaths ts paths) :
    ShowsPaths (tokenTree t space text :: ts) paths :=
  @ShowsPaths.inner (tokenTree t space text) ts [] paths nofun .nil h

/-- The imports of a declaration are those among its children. -/
theorem showsPaths_importsTree {children : List Tree} {paths : List (List Char)}
    (h : ShowsPaths children paths) : ShowsPaths [importsTree children] paths := by
  have hchildren : ShowsPaths (importsTree children).children paths := h.cons_tokenTree
  simpa using ShowsPaths.inner (t := importsTree children) imports_ne_spec hchildren .nil

theorem namedAmong_clauseTree (space name : List Char) (ts : List Tree) :
    Tree.namedAmong (clauseTree space name :: ts) =
      clauseTree space name :: Tree.namedAmong ts := by
  have hnamed : outlineParts.clause.isShown && outlineParts.clause.isNamed := by decide +kernel
  exact namedAmong_cons_of_isNamed (t := clauseTree space name) hnamed ts

theorem namedAmong_importsTree (children ts : List Tree) :
    Tree.namedAmong (importsTree children :: ts) =
      importsTree children :: Tree.namedAmong ts := by
  have hnamed : outlineParts.imports.isShown && outlineParts.imports.isNamed := by
    decide +kernel
  exact namedAmong_cons_of_isNamed (t := importsTree children) hnamed ts

theorem namedChildren_clauseTree (space name : List Char) :
    (clauseTree space name).namedChildren = [tokenTree .identifier [' '] name] := by
  have hword : (Kind.token (Token.word "package").index).isShown &&
      !(Kind.token (Token.word "package").index).isNamed := by decide +kernel
  have hidentifier : (Kind.token Token.identifier.index).isShown &&
      (Kind.token Token.identifier.index).isNamed := by decide +kernel
  exact (namedAmong_cons_of_not_isNamed
      (t := tokenTree (.word "package") space "package".toList) hword _).trans
    (namedAmong_cons_of_isNamed (t := tokenTree .identifier [' '] name) hidentifier [])

theorem showsHeader_headerTree (name : PackageName) (paths : List (List Char)) :
    ShowsHeader name paths (headerTree ⟨name.text, paths⟩) := by
  have hchildren : (headerTree ⟨name.text, paths⟩).namedChildren =
      [] ++ clauseTree [] name.text :: [importsTree (paths.map specTree)] :=
    (namedAmong_clauseTree [] name.text _).trans
      (congrArg _ (namedAmong_importsTree (paths.map specTree) []))
  have hpaths : ShowsPaths [importsTree (paths.map specTree)] paths :=
    showsPaths_importsTree (showsPaths_map_specTree paths)
  have hdeclarations : ShowsDeclarations [importsTree (paths.map specTree)] paths := by
    simpa using ShowsDeclarations.imports rfl hpaths .nil
  exact .mk hchildren (List.forall_mem_nil _) rfl (namedChildren_clauseTree [] name.text)
    (text_tokenTree _ _ _) hdeclarations

/-- **A parser can follow the grammar** on every source. -/
theorem followsGrammar_headerParser (s : List Char) : FollowsGrammar headerParser s := by
  intro name ds ls hphrase hspells
  refine ⟨_, ?_, showsHeader_headerTree name _⟩
  rw [headerParser, hphrase.ofSource?_eq hspells, Option.map_some]

end Source
end PackageListing
