/-
# The phrases of a header

A source begins with its package clause, imports follow, and the rest is code (`HeaderPhrase`).
An import stands alone or in a group, with a name or a dot before its path or without. Comments and
line ends may stand before the package clause, between declarations, and between the imports of a
group. A line end or a semicolon ends a declaration, and a line end in a comment does not. In the
code after the imports brackets are balanced and the two words of a header do not stand (`Code`).
Reading a source by its lexemes goes phrase by phrase: each moves the reading to a place and adds
its paths (`read?_import`, `read?_group`, `read?_declaration`, `read?_code`). So the header that is
read is the one that is written (`HeaderPhrase.ofLexemes?_eq`).
-/

import PackageListing.Proofs.Source.HeaderReader

namespace PackageListing
namespace Source

/-! ### Names, imports and declarations -/

/-- A name that a package may have: an identifier that is no word of the language. -/
@[ext]
structure PackageName where
  /-- The characters. -/
  text : List Char
  /-- They make up an identifier. -/
  isIdentifier : ∃ c rest, text = c :: rest ∧ Text.isIdentifierStart c = true ∧
    ∀ d ∈ rest, Text.isIdentifierPart d = true
  /-- The language has no such word. -/
  isFree : String.ofList text ∉ Syntax.Token.reservedWords

/-- What may stand before the path of an import. -/
inductive Alias where
  /-- A dot: the names of the package are imported as they are. -/
  | dot
  /-- A name for the package; a low line is one as well. -/
  | name (name : PackageName)

/-- The lexeme of an alias. -/
def Alias.lexeme : Alias → Lexeme
  | dot => .sign '.'
  | name n => .word n.text

/-- One import. -/
structure Import where
  /-- What stands before the path, if anything does. -/
  before : Option Alias
  /-- The path, without quotes. -/
  path : List Char

/-- A declaration of imports. -/
inductive Declaration where
  /-- One import. -/
  | single (i : Import)
  /-- Any number of imports in brackets. -/
  | group (is : List Import)

/-- The paths that a declaration imports. -/
def Declaration.paths : Declaration → List (List Char)
  | single i => [i.path]
  | group is => is.map Import.path

/-! ### The phrases -/

/-- Comments and line ends. -/
def Gap (ls : List Lexeme) : Prop := ∀ l ∈ ls, l.isBlank = true

/-- Comments within a line. -/
def Comments (ls : List Lexeme) : Prop := ∀ l ∈ ls, ∃ text, l = .comment text

/-- The end of a declaration, after any comments. -/
inductive Ends : List Lexeme → Prop
  | lineEnd {comments : List Lexeme} (h : Comments comments) : Ends (comments ++ [.lineEnd])
  | semicolon {comments : List Lexeme} (h : Comments comments) : Ends (comments ++ [.sign ';'])

/-- The phrase of one import. -/
inductive Import.Phrase : Import → List Lexeme → Prop
  | bare {path : List Char} : Phrase ⟨none, path⟩ [.text path]
  | named {a : Alias} {path : List Char} {comments : List Lexeme} (h : Comments comments) :
    Phrase ⟨some a, path⟩ (a.lexeme :: (comments ++ [.text path]))

/-- The phrase of the imports in brackets, with the closing one. The last import may stand on the
line of the bracket. -/
inductive GroupPhrase : List Import → List Lexeme → Prop
  | close {gap : List Lexeme} (hgap : Gap gap) : GroupPhrase [] (gap ++ [.sign ')'])
  | last {i : Import} {gap phrase comments : List Lexeme} (hgap : Gap gap)
    (hphrase : i.Phrase phrase) (hcomments : Comments comments) :
    GroupPhrase [i] (gap ++ (phrase ++ (comments ++ [.sign ')'])))
  | next {i : Import} {is : List Import} {gap phrase ends rest : List Lexeme} (hgap : Gap gap)
    (hphrase : i.Phrase phrase) (hends : Ends ends) (h : GroupPhrase is rest) :
    GroupPhrase (i :: is) (gap ++ (phrase ++ (ends ++ rest)))

/-- The phrase of a declaration. -/
inductive Declaration.Phrase : Declaration → List Lexeme → Prop
  | single {i : Import} {gap phrase : List Lexeme} (hgap : Gap gap) (hphrase : i.Phrase phrase) :
    Phrase (.single i) (.word "import".toList :: (gap ++ phrase))
  | group {is : List Import} {gap phrase : List Lexeme} (hgap : Gap gap)
    (hphrase : GroupPhrase is phrase) :
    Phrase (.group is) (.word "import".toList :: (gap ++ .sign '(' :: phrase))

/-- The brackets, each with the one that closes it. -/
def bracketPairs : List (Char × Char) := [('(', ')'), ('[', ']'), ('\x7b', '\x7d')]

/-- The words of a header and the brackets. -/
def keyLexemes : List Lexeme :=
  [.word "package".toList, .word "import".toList] ++
    bracketPairs.flatMap fun p => [.sign p.1, .sign p.2]

/-- Lexemes with balanced brackets and without the words of a header. -/
inductive Code : List Lexeme → Prop
  | nil : Code []
  | cons {l : Lexeme} {ls : List Lexeme} (hl : l ∉ keyLexemes) (h : Code ls) : Code (l :: ls)
  | block {p : Char × Char} {inside ls : List Lexeme} (hp : p ∈ bracketPairs)
    (hinside : Code inside) (h : Code ls) : Code (.sign p.1 :: (inside ++ .sign p.2 :: ls))

/-- The phrase of what follows a declaration. -/
inductive RestPhrase : List Declaration → List Lexeme → Prop
  | finish {comments : List Lexeme} (h : Comments comments) : RestPhrase [] comments
  | code {ends code : List Lexeme} (hends : Ends ends) (hcode : Code code) :
    RestPhrase [] (ends ++ code)
  | next {d : Declaration} {ds : List Declaration} {ends gap phrase rest : List Lexeme}
    (hends : Ends ends) (hgap : Gap gap) (hphrase : d.Phrase phrase) (h : RestPhrase ds rest) :
    RestPhrase (d :: ds) (ends ++ (gap ++ (phrase ++ rest)))

/-- The phrase of a source: the package clause, declarations of imports, and code. -/
inductive HeaderPhrase (name : PackageName) (ds : List Declaration) : List Lexeme → Prop
  | mk {gap rest : List Lexeme} (hgap : Gap gap) (h : RestPhrase ds rest) :
    HeaderPhrase name ds (gap ++ .word "package".toList :: .word name.text :: rest)

/-! ### Reading lexemes -/

/-- The header with more paths. -/
def Header.withPaths (h : Header) (paths : List (List Char)) : Header :=
  { h with paths := h.paths ++ paths }

@[simp] theorem Header.withPaths_nil (h : Header) : h.withPaths [] = h := by
  simp [withPaths]

@[simp] theorem Header.withPaths_withPaths (h : Header) (paths paths' : List (List Char)) :
    (h.withPaths paths).withPaths paths' = h.withPaths (paths ++ paths') := by
  simp [withPaths]

namespace Header
namespace Reading

/-- Goes past lexemes. -/
def read? (r : Reading) (ls : List Lexeme) : Option Reading := ls.foldlM step? r

theorem read?_cons {r r' : Reading} {l : Lexeme} (h : r.step? l = some r') (ls : List Lexeme) :
    r.read? (l :: ls) = r'.read? ls := by
  simp [read?, h]

/-- Lexemes that change nothing are skipped. -/
theorem read?_append_of_step? {r : Reading} {skipped : List Lexeme}
    (h : ∀ l ∈ skipped, r.step? l = some r) (ls : List Lexeme) :
    r.read? (skipped ++ ls) = r.read? ls := by
  induction skipped with
  | nil => rfl
  | cons l skipped ih =>
    obtain ⟨hl, hskipped⟩ := List.forall_mem_cons.1 h
    rw [List.cons_append, read?_cons hl, ih hskipped]

theorem read?_gap {r : Reading} {gap : List Lexeme} (hgap : Gap gap)
    (hplace : r.place ∈ [.beginning, .between, .importing, .alias, .list, .listAlias])
    (ls : List Lexeme) : r.read? (gap ++ ls) = r.read? ls := by
  refine read?_append_of_step? (fun l hl => ?_) ls
  obtain ⟨place, header⟩ := r
  have hblank := hgap l hl
  simp only [List.mem_cons, List.not_mem_nil, or_false] at hplace
  rcases hplace with rfl | rfl | rfl | rfl | rfl | rfl <;> simp [step?, hblank]

theorem read?_comments {r : Reading} {comments : List Lexeme} (hcomments : Comments comments)
    (hplace : r.place ∈ [.declared, .alias, .listAlias, .listed]) (ls : List Lexeme) :
    r.read? (comments ++ ls) = r.read? ls := by
  refine read?_append_of_step? (fun l hl => ?_) ls
  obtain ⟨place, header⟩ := r
  obtain ⟨text, rfl⟩ := hcomments l hl
  simp only [List.mem_cons, List.not_mem_nil, or_false] at hplace
  rcases hplace with rfl | rfl | rfl | rfl <;> rfl

theorem read?_ends {ends : List Lexeme} (hends : Ends ends) (header : Header)
    (ls : List Lexeme) :
    read? ⟨.declared, header⟩ (ends ++ ls) = read? ⟨.between, header⟩ ls ∧
      read? ⟨.listed, header⟩ (ends ++ ls) = read? ⟨.list, header⟩ ls := by
  cases hends with
  | lineEnd h | semicolon h =>
    rw [List.append_assoc, read?_comments h (by simp), read?_comments h (by simp)]
    exact ⟨read?_cons rfl ls, read?_cons rfl ls⟩

theorem isAlias_lexeme (a : Alias) : isAlias a.lexeme = true ∧ a.lexeme.isBlank = false ∧
    a.lexeme ≠ .sign '(' ∧ a.lexeme ≠ .sign ')' := by
  cases a with
  | dot => decide
  | name n => simpa [Alias.lexeme, isAlias, Lexeme.isBlank] using n.isFree

/-- **One import** adds its path, alone or in a group. -/
theorem read?_import {i : Import} {phrase : List Lexeme} (h : i.Phrase phrase) (header : Header)
    (ls : List Lexeme) :
    read? ⟨.importing, header⟩ (phrase ++ ls) =
        read? ⟨.declared, header.withPaths [i.path]⟩ ls ∧
      read? ⟨.list, header⟩ (phrase ++ ls) =
        read? ⟨.listed, header.withPaths [i.path]⟩ ls := by
  cases h with
  | bare => exact ⟨read?_cons rfl ls, read?_cons rfl ls⟩
  | @named a path comments h =>
    obtain ⟨halias, hblank, hopen, hclose⟩ := isAlias_lexeme a
    have hsingle : step? ⟨.importing, header⟩ a.lexeme = some ⟨.alias, header⟩ := by
      simp [step?, halias, hblank, hopen, goTo]
    have hlist : step? ⟨.list, header⟩ a.lexeme = some ⟨.listAlias, header⟩ := by
      simp [step?, halias, hblank, hclose, goTo]
    rw [List.cons_append, List.append_assoc, read?_cons hsingle, read?_cons hlist,
      read?_comments h (by simp), read?_comments h (by simp)]
    exact ⟨read?_cons rfl ls, read?_cons rfl ls⟩

/-- **The imports in brackets** add their paths in order. -/
theorem read?_group {is : List Import} {phrase : List Lexeme} (h : GroupPhrase is phrase)
    (header : Header) (ls : List Lexeme) :
    read? ⟨.list, header⟩ (phrase ++ ls) =
      read? ⟨.declared, header.withPaths (is.map Import.path)⟩ ls := by
  induction h generalizing header with
  | close hgap =>
    rw [List.append_assoc, read?_gap hgap (by simp), List.map_nil, withPaths_nil]
    exact read?_cons rfl ls
  | last hgap hphrase hcomments =>
    rw [List.append_assoc, List.append_assoc, List.append_assoc, read?_gap hgap (by simp),
      (read?_import hphrase header _).2, read?_comments hcomments (by simp)]
    exact read?_cons rfl ls
  | next hgap hphrase hends _ ih =>
    rw [List.append_assoc, List.append_assoc, List.append_assoc, read?_gap hgap (by simp),
      (read?_import hphrase header _).2, (read?_ends hends _ _).2, ih, withPaths_withPaths]
    rfl

/-- **A declaration** adds the paths of its imports. -/
theorem read?_declaration {d : Declaration} {phrase : List Lexeme} (h : d.Phrase phrase)
    (header : Header) (ls : List Lexeme) :
    read? ⟨.between, header⟩ (phrase ++ ls) =
      read? ⟨.declared, header.withPaths d.paths⟩ ls := by
  cases h with
  | single hgap hphrase =>
    rw [List.cons_append, read?_cons rfl, List.append_assoc, read?_gap hgap (by simp)]
    exact (read?_import hphrase header ls).1
  | group hgap hphrase =>
    rw [List.cons_append, read?_cons rfl, List.append_assoc, read?_gap hgap (by simp),
      List.cons_append, read?_cons rfl]
    exact read?_group hphrase header ls

/-! ### Reading code -/

theorem bodyStep?_of_not_mem {l : Lexeme} (hl : l ∉ keyLexemes) (r : Reading)
    (brackets : List Char) : r.bodyStep? brackets l = some ⟨.body brackets, r.header⟩ := by
  cases l with
  | word w =>
    have hw : w ≠ "package".toList ∧ w ≠ "import".toList := by
      refine ⟨?_, ?_⟩ <;>
      · rintro rfl
        exact hl (by decide)
    simp only [bodyStep?, hw.1, hw.2, or_self, if_false]
    rfl
  | sign c =>
    have hc {b : Char} (hb : .sign b ∈ keyLexemes) : c ≠ b := by
      rintro rfl
      exact hl hb
    have hopening : opening? c = none := by
      unfold opening?
      split
      · exact absurd rfl (hc (by decide))
      · exact absurd rfl (hc (by decide))
      · exact absurd rfl (hc (by decide))
      · rfl
    have hne : ¬(c = '(' ∨ c = '[' ∨ c = '\x7b') := by
      simp only [not_or]
      exact ⟨hc (by decide), hc (by decide), hc (by decide)⟩
    simp only [bodyStep?, hopening, if_neg hne]
    rfl
  | lineEnd | comment | text | rune => rfl

theorem bodyStep?_open {p : Char × Char} (hp : p ∈ bracketPairs) (r : Reading)
    (brackets : List Char) :
    r.bodyStep? brackets (.sign p.1) = some ⟨.body (p.1 :: brackets), r.header⟩ := by
  simp only [bracketPairs, List.mem_cons, List.not_mem_nil, or_false] at hp
  rcases hp with rfl | rfl | rfl <;> rfl

theorem bodyStep?_close {p : Char × Char} (hp : p ∈ bracketPairs) (r : Reading)
    (brackets : List Char) :
    r.bodyStep? (p.1 :: brackets) (.sign p.2) = some ⟨.body brackets, r.header⟩ := by
  simp only [bracketPairs, List.mem_cons, List.not_mem_nil, or_false] at hp
  rcases hp with rfl | rfl | rfl <;> simp [bodyStep?, opening?, goTo]

/-- **Code** closes the brackets that it opens. -/
theorem read?_code {code : List Lexeme} (h : Code code) (brackets : List Char) (header : Header)
    (ls : List Lexeme) :
    read? ⟨.body brackets, header⟩ (code ++ ls) = read? ⟨.body brackets, header⟩ ls := by
  induction h generalizing brackets ls with
  | nil => rfl
  | @cons l _ hl _ ih =>
    have hstep : step? ⟨.body brackets, header⟩ l = some ⟨.body brackets, header⟩ :=
      bodyStep?_of_not_mem hl _ brackets
    rw [List.cons_append, read?_cons hstep]
    exact ih brackets ls
  | @block p _ _ hp _ _ ihinside ih =>
    have hopen : step? ⟨.body brackets, header⟩ (.sign p.1) =
        some ⟨.body (p.1 :: brackets), header⟩ := bodyStep?_open hp _ brackets
    have hclose : step? ⟨.body (p.1 :: brackets), header⟩ (.sign p.2) =
        some ⟨.body brackets, header⟩ := bodyStep?_close hp _ brackets
    rw [List.cons_append, read?_cons hopen, List.append_assoc, ihinside, List.cons_append,
      read?_cons hclose]
    exact ih brackets ls

/-- The first lexeme of code that is no comment and no line end ends the header. -/
theorem step?_between {l : Lexeme} (hblank : l.isBlank = false)
    (himport : l ≠ .word "import".toList) (header : Header) :
    step? ⟨.between, header⟩ l = bodyStep? ⟨.between, header⟩ [] l := by
  simp only [step?, hblank, if_neg himport]
  rfl

/-- Code after a header leaves it as it is. -/
theorem exists_read?_code {code : List Lexeme} (h : Code code) (header : Header) :
    ∃ r, read? ⟨.between, header⟩ code = some r ∧ r.isComplete = true ∧ r.header = header := by
  -- Blank lexemes leave the reading where it is; the first other one takes it into the body.
  induction h with
  | nil => exact ⟨_, rfl, rfl, rfl⟩
  | @cons l ls hl h ih =>
    cases hblank : l.isBlank with
    | true =>
      rw [← List.singleton_append, read?_gap (List.forall_mem_singleton.2 hblank) (by simp)]
      exact ih
    | false =>
      have hstep : step? ⟨.between, header⟩ l = some ⟨.body [], header⟩ := by
        rw [step?_between hblank (fun himport => hl (himport ▸ by decide)),
          bodyStep?_of_not_mem hl]
      refine ⟨⟨.body [], header⟩, ?_, rfl, rfl⟩
      rw [read?_cons hstep, ← List.append_nil ls, read?_code h]
      rfl
  | @block p inside ls hp hinside h _ _ =>
    have hopen : step? ⟨.between, header⟩ (.sign p.1) = some ⟨.body [p.1], header⟩ := by
      rw [step?_between rfl (by simp), bodyStep?_open hp]
    have hclose : step? ⟨.body [p.1], header⟩ (.sign p.2) = some ⟨.body [], header⟩ :=
      bodyStep?_close hp _ []
    refine ⟨⟨.body [], header⟩, ?_, rfl, rfl⟩
    rw [read?_cons hopen, read?_code hinside, read?_cons hclose, ← List.append_nil ls,
      read?_code h]
    rfl

/-! ### Reading a header -/

theorem exists_read?_rest {ds : List Declaration} {rest : List Lexeme} (h : RestPhrase ds rest)
    (header : Header) :
    ∃ r, read? ⟨.declared, header⟩ rest = some r ∧ r.isComplete = true ∧
      r.header = header.withPaths (ds.flatMap Declaration.paths) := by
  induction h generalizing header with
  | @finish comments h =>
    refine ⟨⟨.declared, header⟩, ?_, rfl, (withPaths_nil header).symm⟩
    rw [← List.append_nil comments, read?_comments h (by simp)]
    rfl
  | code hends hcode =>
    rw [(read?_ends hends header _).1, List.flatMap_nil, withPaths_nil]
    exact exists_read?_code hcode header
  | @next d _ _ _ _ _ hends hgap hphrase _ ih =>
    rw [(read?_ends hends header _).1, read?_gap hgap (by simp), read?_declaration hphrase,
      List.flatMap_cons, ← withPaths_withPaths]
    exact ih (header.withPaths d.paths)

theorem step?_name (name : PackageName) :
    step? ⟨.clause, default⟩ (.word name.text) = some ⟨.declared, ⟨name.text, []⟩⟩ := by
  have halias := (isAlias_lexeme (.name name)).1
  rw [Alias.lexeme] at halias
  simp only [step?, halias]
  rfl

theorem exists_read?_header {name : PackageName} {ds : List Declaration} {ls : List Lexeme}
    (h : HeaderPhrase name ds ls) :
    ∃ r, start.read? ls = some r ∧ r.isComplete = true ∧
      r.header = ⟨name.text, ds.flatMap Declaration.paths⟩ := by
  cases h with
  | mk hgap hrest =>
    have hpackage : start.step? (.word "package".toList) = some ⟨.clause, default⟩ := rfl
    rw [read?_gap hgap (by decide), read?_cons hpackage, read?_cons (step?_name name)]
    exact exists_read?_rest hrest ⟨name.text, []⟩

end Reading
end Header

/-- **The header that is read** off lexemes is the one that they make up. -/
theorem HeaderPhrase.ofLexemes?_eq {name : PackageName} {ds : List Declaration}
    {ls : List Lexeme} (h : HeaderPhrase name ds ls) :
    Header.ofLexemes? ls = some ⟨name.text, ds.flatMap Declaration.paths⟩ := by
  obtain ⟨r, hread, hcomplete, hheader⟩ := Header.Reading.exists_read?_header h
  rw [Header.ofLexemes?, ← Header.Reading.read?, hread]
  simp only [hcomplete, if_true, hheader]

end Source
end PackageListing
