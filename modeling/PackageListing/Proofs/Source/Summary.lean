/-
# What well-formed sources declare

The paths that count are the first occurrences of those that are not empty (`countedPaths_eq`). A
source that is made up of a package clause, imports and code declares that package and those of its
paths that count, if the parser follows the grammar on it (`summary_of_spells`). The parser gives
the tree of the source and no more than that: which of its nodes are read, what a literal is
without its quotes and which paths count is settled here.
-/

import PackageListing.Proofs.Source.Parser

namespace PackageListing
namespace Source

open Syntax

theorem foldl_addPath (known paths : List (List Char)) :
    paths.foldl Summary.addPath known =
      known ++ (paths.filter fun p => !(p.isEmpty || known.contains p)).eraseDups := by
  induction paths generalizing known with
  | nil => simp
  | cons p paths ih =>
    rw [List.foldl_cons, ih, Summary.addPath]
    by_cases h : (p.isEmpty || known.contains p) = true
    · rw [if_pos h, List.filter_cons_of_neg (by simp only [h]; decide)]
    · rw [if_neg h, List.filter_cons_of_pos (by simpa using h), List.eraseDups_cons,
        List.append_assoc, List.singleton_append, List.filter_filter]
      have hfilter : paths.filter (fun q => !(q.isEmpty || (known ++ [p]).contains q)) =
          paths.filter fun q => (!q == p) && !(q.isEmpty || known.contains q) := by
        refine List.filter_congr fun q _ => ?_
        rw [List.contains_append, List.contains_cons, List.contains_nil, Bool.or_false,
          ← Bool.or_assoc, Bool.not_or, Bool.and_comm]
      rw [hfilter]

/-- **The paths that count**: the first occurrences of those that are not empty. -/
theorem countedPaths_eq (paths : List (List Char)) :
    Summary.countedPaths paths = (paths.filter fun p => !p.isEmpty).eraseDups := by
  rw [Summary.countedPaths, foldl_addPath, List.nil_append]
  simp

/-! ### Sources -/

/-- What a source with this name and these imports declares. -/
def declared (name : PackageName) (ds : List Declaration) : Summary :=
  { package := String.ofList name.text
    imports := (((ds.flatMap Declaration.paths).filter fun p => !p.isEmpty).eraseDups).map
      String.ofList }

theorem ofHeader?_eq (name : PackageName) (ds : List Declaration) :
    Summary.ofHeader? ⟨name.text, ds.flatMap Declaration.paths⟩ = some (declared name ds) := by
  obtain ⟨c, rest, htext, -⟩ := name.isIdentifier
  have hname : ¬name.text.isEmpty = true := by simp [htext]
  rw [Summary.ofHeader?, if_neg hname, countedPaths_eq, declared]

/-- **A well-formed source declares its package and the first occurrences of its paths**, wherever
comments and line ends stand and whatever stands in comments and in code. -/
theorem summary_of_spells {parse : Parser} {name : PackageName} {ds : List Declaration}
    {ls : List Lexeme} {s : List Char} (hparse : FollowsGrammar parse s)
    (hphrase : HeaderPhrase name ds ls) (hspells : Spells ls s) :
    Summary.ofSource? s parse = some (declared name ds) := by
  obtain ⟨t, ht, hshows⟩ := hparse name ds ls hphrase hspells
  rw [Summary.ofSource?, ht, Option.bind_some, hshows.ofTree?_eq, Option.bind_some]
  exact ofHeader?_eq name ds

/-- The name of the package below. -/
def sampleName : PackageName :=
  ⟨['p'], ⟨'p', [], rfl, by decide, List.forall_mem_nil _⟩, by decide +kernel⟩

/-- A low line for a name. -/
def lowLine : PackageName :=
  ⟨['_'], ⟨'_', [], rfl, by decide, List.forall_mem_nil _⟩, by decide +kernel⟩

/-- The imports of the source below: one path comes twice, and one is empty. -/
def sampleImports : List Declaration :=
  [.single ⟨none, "fmt".toList⟩,
    .group [⟨some (.name lowLine), "embed".toList⟩, ⟨some .dot, "fmt".toList⟩, ⟨none, []⟩]]

/-- A source with text that looks like imports in its comments and in its code. -/
def sampleSource : String :=
  "// import \"a\"\npackage p\n\nimport \"fmt\"\nimport (_ \x60embed\x60 /* \"b\" */\n" ++
    "\t. \"fmt\"; \"\")\n\nfunc f() \x7b g(\"import\", '\"') \x7d\n"

/-- The lexemes of the source. -/
def sampleLexemes : List Lexeme :=
  [.comment "// import \"a\"".toList, .lineEnd, .word "package".toList, .word ['p'], .lineEnd,
    .lineEnd, .word "import".toList, .text "fmt".toList, .lineEnd, .word "import".toList,
    .sign '(', .word ['_'], .text "embed".toList, .comment "/* \"b\" */".toList, .lineEnd,
    .sign '.', .text "fmt".toList, .sign ';', .text [], .sign ')', .lineEnd, .lineEnd,
    .word "func".toList, .word ['f'], .sign '(', .sign ')', .sign '\x7b', .word ['g'], .sign '(',
    .text "import".toList, .sign ',', .rune, .sign ')', .sign '\x7d', .lineEnd]

theorem spells_sample : Spells sampleLexemes sampleSource.toList := by
  have blank {ls : List Lexeme} {s : List Char} : Spells ls s → Spells ls (' ' :: s) :=
    .space (by decide) (by decide)
  have sign {c : Char} {ls : List Lexeme} {s : List Char} (hc : c ∈ signs) (hslash : c ≠ '/') :
      Spells ls s → Spells (.sign c :: ls) (c :: s) :=
    .sign hc fun h => absurd h hslash
  have word (c : Char) (text : List Char) {d : Char} {ls : List Lexeme} {s : List Char}
      (hc : Text.isIdentifierStart c = true) (htext : text.all Text.isIdentifierPart = true)
      (hd : Text.isIdentifierPart d = false) :
      Spells ls (d :: s) → Spells (.word (c :: text) :: ls) (c :: text ++ d :: s) :=
    .word hc (List.all_eq_true.1 htext) (by rintro _ ⟨⟩; exact hd)
  have hspells :=
    @Spells.lineComment " import \"a\"".toList _ _ (by decide) (by simp) <| .lineEnd <|
    word 'p' "ackage".toList (by decide) (by decide) (by decide) <| blank <|
    word 'p' [] (by decide) (by decide) (by decide) <| .lineEnd <| .lineEnd <|
    word 'i' "mport".toList (by decide) (by decide) (by decide) <| blank <|
    @Spells.quoted "fmt".toList _ _ (.of_plain (by simp [IsPlain])) <| .lineEnd <|
    word 'i' "mport".toList (by decide) (by decide) (by decide) <| blank <|
    @sign '(' _ _ (by decide) (by decide) <|
    word '_' [] (by decide) (by decide) (by decide) <| blank <|
    @Spells.raw "embed".toList _ _ (by decide) <| blank <|
    @Spells.blockComment " \"b\" ".toList _ _ (by decide) <| .lineEnd <|
    @Spells.space '\t' _ _ (by decide) (by decide) <|
    @sign '.' _ _ (by decide) (by decide) <| blank <|
    @Spells.quoted "fmt".toList _ _ (.of_plain (by simp [IsPlain])) <|
    @sign ';' _ _ (by decide) (by decide) <| blank <| @Spells.quoted [] _ _ .nil <|
    @sign ')' _ _ (by decide) (by decide) <| .lineEnd <| .lineEnd <|
    word 'f' "unc".toList (by decide) (by decide) (by decide) <| blank <|
    word 'f' [] (by decide) (by decide) (by decide) <|
    @sign '(' _ _ (by decide) (by decide) <| @sign ')' _ _ (by decide) (by decide) <| blank <|
    @sign '\x7b' _ _ (by decide) (by decide) <| blank <|
    word 'g' [] (by decide) (by decide) (by decide) <| @sign '(' _ _ (by decide) (by decide) <|
    @Spells.quoted "import".toList _ _ (.of_plain (by simp [IsPlain])) <|
    @sign ',' _ _ (by decide) (by decide) <| blank <|
    @Spells.rune ['"'] _ _ (.plain ⟨by decide, by decide, by decide⟩) <|
    @sign ')' _ _ (by decide) (by decide) <| blank <|
    @sign '\x7d' _ _ (by decide) (by decide) <| .lineEnd .nil
  -- The pieces above make up the same lexemes and the same text.
  exact (congrArg₂ Spells (by decide +kernel) (by decide +kernel)).mpr hspells

theorem headerPhrase_sample : HeaderPhrase sampleName sampleImports sampleLexemes := by
  have hnone : Gap [] := List.forall_mem_nil _
  have hline : Gap [.lineEnd] := List.forall_mem_singleton.2 rfl
  have hplain : Comments [] := List.forall_mem_nil _
  have hcomment : Comments [.comment "/* \"b\" */".toList] :=
    List.forall_mem_singleton.2 ⟨_, rfl⟩
  have hlead : Gap [.comment "// import \"a\"".toList, .lineEnd] :=
    List.forall_mem_cons.2 ⟨rfl, hline⟩
  have harguments : Code [.text "import".toList, .sign ',', .rune] :=
    .cons (by decide) <| .cons (by decide) <| .cons (by decide) .nil
  have hcall : Code [.word ['g'], .sign '(', .text "import".toList, .sign ',', .rune, .sign ')'] :=
    .cons (by decide) <| @Code.block ('(', ')') _ [] (by decide) harguments .nil
  have hcode : Code [.lineEnd, .word "func".toList, .word ['f'], .sign '(', .sign ')',
      .sign '\x7b', .word ['g'], .sign '(', .text "import".toList, .sign ',', .rune, .sign ')',
      .sign '\x7d', .lineEnd] :=
    .cons (by decide) <| .cons (by decide) <| .cons (by decide) <|
    @Code.block ('(', ')') [] _ (by decide) .nil <|
    @Code.block ('\x7b', '\x7d') _ _ (by decide) hcall <| .cons (by decide) .nil
  exact .mk hlead <| .next (.lineEnd hplain) hline (.single hnone .bare) <|
    .next (.lineEnd hplain) hnone
      (.group hnone <| .next hnone (.named hplain) (.lineEnd hcomment) <|
        .next hnone (.named hplain) (.semicolon hplain) <| .last hnone .bare hplain) <|
    .code (.lineEnd hplain) hcode

/-- The tree of the import with a low line. -/
def sampleRaw : Tree :=
  .node outlineParts.spec
    [tokenTree (.word "_") [] ['_'],
      partTree "RawString"
        [tokenTree (.sign "\x60") [' '] ['\x60'], tokenTree .rawText [] "embed".toList,
          tokenTree (.sign "\x60") [] ['\x60']]]

/-- The tree of the import with a dot. -/
def sampleDot : Tree :=
  .node outlineParts.spec
    [partTree "Dot" [tokenTree (.sign ".") ['\t'] ['.']], literalTree [' '] "fmt".toList]

/-- The tree of the imports in brackets. -/
def sampleList : Tree :=
  partTree "ImportSpecList"
    [tokenTree (.sign "(") [' '] ['('], sampleRaw,
      tokenTree .comment [' '] "/* \"b\" */".toList, tokenTree .lineEnd [] ['\n'], sampleDot,
      tokenTree (.sign ";") [] [';'], specTree [], tokenTree (.sign ")") [] [')']]

/-- The tree of the function in the source. -/
def sampleFunction : Tree :=
  partTree "FunctionDeclaration"
    [tokenTree (.word "func") [] "func".toList, tokenTree .identifier [' '] ['f'],
      partTree "Parameters" [tokenTree (.sign "(") [] ['('], tokenTree (.sign ")") [] [')']],
      partTree "Block"
        [tokenTree (.sign "\x7b") [' '] ['\x7b'],
          partTree "StatementList"
            [partTree "ExpressionStatement"
              [partTree "CallExpression"
                [tokenTree .identifier [' '] ['g'],
                  partTree "Arguments"
                    [tokenTree (.sign "(") [] ['('], literalTree [] "import".toList,
                      tokenTree (.sign ",") [] [','], tokenTree .rune [' '] "'\"'".toList,
                      tokenTree (.sign ")") [] [')']]]]],
          tokenTree (.sign "\x7d") [' '] ['\x7d']]]

/-- The trees of the declarations of the source. -/
def sampleDeclarations : List Tree :=
  [tokenTree .comment [] "// import \"a\"".toList, clauseTree ['\n'] ['p'],
    tokenTree .lineEnd [] "\n\n".toList, importsTree [specTree "fmt".toList],
    tokenTree .lineEnd [] ['\n'], importsTree [sampleList],
    tokenTree .lineEnd [] "\n\n".toList, sampleFunction, tokenTree .lineEnd [] ['\n']]

/-- The tree of the source, without the parts that have no node of their own. -/
def sampleTree : Tree := partTree "SourceFile" sampleDeclarations

/-- A parser that knows the tree of the source, and no other tree. -/
def sampleParser : Parser := fun s => if s = sampleSource.toList then some sampleTree else none

theorem namedAmong_sample : Tree.namedAmong sampleDeclarations =
    [tokenTree .comment [] "// import \"a\"".toList] ++ clauseTree ['\n'] ['p'] ::
      [importsTree [specTree "fmt".toList], importsTree [sampleList], sampleFunction] := by
  have hcomment : (Kind.token Token.comment.index).isShown &&
      (Kind.token Token.comment.index).isNamed := by decide +kernel
  have hend : (Kind.token Token.lineEnd.index).isShown &&
      !(Kind.token Token.lineEnd.index).isNamed := by decide +kernel
  have hfunction : (Kind.part (partNumber "FunctionDeclaration")).isShown &&
      (Kind.part (partNumber "FunctionDeclaration")).isNamed := by decide +kernel
  have line (space text : List Char) (ts : List Tree) :
      Tree.namedAmong (tokenTree .lineEnd space text :: ts) = Tree.namedAmong ts :=
    namedAmong_cons_of_not_isNamed (t := tokenTree .lineEnd space text) hend ts
  rw [sampleDeclarations,
    namedAmong_cons_of_isNamed (t := tokenTree .comment [] "// import \"a\"".toList) hcomment,
    namedAmong_clauseTree, line, namedAmong_importsTree, line, namedAmong_importsTree, line,
    namedAmong_cons_of_isNamed (t := sampleFunction) hfunction, line]
  rfl

/-- An import shows the path of its literal behind an alias as well. -/
theorem showsPath_aliased {a literal : Tree} {quote : Char} {path : List Char}
    (halias : a.kind.isShown && a.kind.isNamed) (hother : a.kind ∉ outlineParts.literals)
    (hnamed : literal.kind.isShown && literal.kind.isNamed)
    (hliteral : literal.kind ∈ outlineParts.literals) (hquote : quote = '"' ∨ quote = '\x60')
    (htext : literal.text = quote :: (path ++ [quote])) :
    ShowsPath (.node outlineParts.spec [a, literal]) path := by
  have hchildren : (Syntax.Tree.node outlineParts.spec [a, literal]).namedChildren =
      [a] ++ literal :: [] :=
    (namedAmong_cons_of_isNamed halias [literal]).trans
      (congrArg _ (namedAmong_cons_of_isNamed hnamed []))
  exact .mk hchildren (List.forall_mem_singleton.2 hother) hliteral hquote htext

theorem showsPaths_sampleList :
    ShowsPaths sampleList.children ["embed".toList, "fmt".toList, []] := by
  have hraw : ShowsPath sampleRaw "embed".toList :=
    showsPath_aliased (by decide +kernel) (by decide +kernel) (by decide +kernel)
      (by decide +kernel) (.inr rfl) (by decide +kernel)
  have hdot : ShowsPath sampleDot "fmt".toList :=
    showsPath_aliased (by decide +kernel) (by decide +kernel) (by decide +kernel)
      (by decide +kernel) (.inl rfl) (by decide +kernel)
  exact .cons_tokenTree <| .spec rfl hraw <| .cons_tokenTree <| .cons_tokenTree <|
    .spec rfl hdot <| .cons_tokenTree <| .spec rfl (showsPath_specTree []) <|
    .cons_tokenTree .nil

theorem showsHeader_sampleTree :
    ShowsHeader sampleName ["fmt".toList, "embed".toList, "fmt".toList, []] sampleTree := by
  have hlist : ShowsPaths [sampleList] (["embed".toList, "fmt".toList, []] ++ []) :=
    .inner (by decide +kernel) showsPaths_sampleList .nil
  have hfirst : ShowsPaths [importsTree [specTree "fmt".toList]] ["fmt".toList] :=
    showsPaths_importsTree (showsPaths_map_specTree ["fmt".toList])
  have hcomment : IsAside (tokenTree .comment [] "// import \"a\"".toList) := ⟨nofun, nofun⟩
  have hfunction : IsAside sampleFunction := ⟨by decide +kernel, by decide +kernel⟩
  exact .mk namedAmong_sample (List.forall_mem_singleton.2 hcomment) rfl
    (namedChildren_clauseTree ['\n'] ['p']) (text_tokenTree _ _ _)
    (.imports rfl hfirst <| .imports rfl (showsPaths_importsTree hlist) <| .aside hfunction .nil)

theorem followsGrammar_sampleParser : FollowsGrammar sampleParser sampleSource.toList :=
  .of_showsHeader headerPhrase_sample spells_sample (if_pos rfl) showsHeader_sampleTree

theorem summary_of_sample :
    FollowsGrammar sampleParser sampleSource.toList ∧
      HeaderPhrase sampleName sampleImports sampleLexemes ∧
      Spells sampleLexemes sampleSource.toList ∧
      Summary.ofSource? sampleSource.toList sampleParser = some ⟨"p", ["fmt", "embed"]⟩ := by
  have hdeclared : declared sampleName sampleImports = ⟨"p", ["fmt", "embed"]⟩ := by
    decide +kernel
  refine ⟨followsGrammar_sampleParser, headerPhrase_sample, spells_sample, ?_⟩
  rw [← hdeclared]
  exact summary_of_spells followsGrammar_sampleParser headerPhrase_sample spells_sample

end Source
end PackageListing
