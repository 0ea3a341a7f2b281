/-
# The header of a Go source

The package clause and the imports stand at the beginning of a source that is well formed, so they
can be read lexeme by lexeme without a grammar of the rest (`Header.ofLexemes?`). The rest only has
to close the brackets that it opens, and may not have the words of the header in it. What the
header has to look like is strict: where a source is anything else, it has no header in this
sense. No summary is read so, a tree is asked for it; that a source can be read so shows that it
has one header and no other.
-/

import PackageListing.Proofs.Source.Lexeme
import PackageListing.Source.Outline

namespace PackageListing
namespace Source

namespace Header

/-- Where in a source the reading stands. -/
inductive Place where
  /-- Before the package clause. -/
  | beginning
  /-- After the word of the package clause. -/
  | clause
  /-- After a declaration, whose line has to end. -/
  | declared
  /-- Between the declarations of the header. -/
  | between
  /-- After the word of an import. -/
  | importing
  /-- After the alias of an import. -/
  | alias
  /-- In a list of imports, before an import or the end of the list. -/
  | list
  /-- In a list of imports, after an alias. -/
  | listAlias
  /-- In a list of imports, after an import, whose line has to end unless the list does. -/
  | listed
  /-- After the header, within the given open brackets, the innermost first. -/
  | body (brackets : List Char)
  deriving DecidableEq

/-- A source that is read up to some place. -/
structure Reading where
  /-- The place. -/
  place : Place
  /-- What is known of the header. -/
  header : Header

namespace Reading

/-- The beginning of a source. -/
def start : Reading := ⟨.beginning, default⟩

/-- The reading at another place. -/
def goTo (r : Reading) (place : Place) : Option Reading := some { r with place := place }

/-- The reading with one more path, at another place. -/
def withPath (r : Reading) (path : List Char) (place : Place) : Option Reading :=
  some ⟨place, { r.header with paths := r.header.paths ++ [path] }⟩

/-- Whether a lexeme ends a declaration. -/
def isEnd : Lexeme → Bool
  | .lineEnd | .sign ';' => true
  | _ => false

/-- Whether a lexeme can stand before the path of an import. -/
def isAlias : Lexeme → Bool
  | .sign '.' => true
  | .word w => !Syntax.Token.reservedWords.contains (String.ofList w)
  | _ => false

/-- The bracket that a closing bracket closes. -/
def opening? : Char → Option Char
  | ')' => some '('
  | ']' => some '['
  | '\x7d' => some '\x7b'
  | _ => none

/-- Goes past a lexeme after the header. -/
def bodyStep? (r : Reading) (brackets : List Char) (l : Lexeme) : Option Reading :=
  match l with
  | .word w =>
    if w = "package".toList ∨ w = "import".toList then none else r.goTo (.body brackets)
  | .sign c =>
    if c = '(' ∨ c = '[' ∨ c = '\x7b' then r.goTo (.body (c :: brackets))
    else
      match opening? c with
      | none => r.goTo (.body brackets)
      | some b => if brackets.head? = some b then r.goTo (.body brackets.tail) else none
  | _ => r.goTo (.body brackets)

/-- Goes past a lexeme, where a header allows it. -/
def step? (r : Reading) (l : Lexeme) : Option Reading :=
  match r.place with
  | .beginning =>
    if l.isBlank then some r else if l = .word "package".toList then r.goTo .clause else none
  | .clause =>
    match l with
    | .lineEnd => some r
    | .word w => if isAlias l then some ⟨.declared, { r.header with name := w }⟩ else none
    | _ => none
  | .declared => if isEnd l then r.goTo .between else if l.isBlank then some r else none
  | .between =>
    if l.isBlank then some r
    else if l = .word "import".toList then r.goTo .importing
    else r.bodyStep? [] l
  | .importing =>
    if l.isBlank then some r
    else if l = .sign '(' then r.goTo .list
    else if isAlias l then r.goTo .alias
    else
      match l with
      | .text path => r.withPath path .declared
      | _ => none
  | .alias =>
    if l.isBlank then some r
    else
      match l with
      | .text path => r.withPath path .declared
      | _ => none
  | .list =>
    if l.isBlank then some r
    else if l = .sign ')' then r.goTo .declared
    else if isAlias l then r.goTo .listAlias
    else
      match l with
      | .text path => r.withPath path .listed
      | _ => none
  | .listAlias =>
    if l.isBlank then some r
    else
      match l with
      | .text path => r.withPath path .listed
      | _ => none
  | .listed =>
    if isEnd l then r.goTo .list
    else if l.isBlank then some r
    else if l = .sign ')' then r.goTo .declared
    else none
  | .body brackets => r.bodyStep? brackets l

/-- Whether a source may end at a place. -/
def isComplete (r : Reading) : Bool :=
  match r.place with
  | .declared | .between | .body [] => true
  | _ => false

end Reading

/-- The header of a source by its lexemes. -/
def ofLexemes? (lexemes : List Lexeme) : Option Header :=
  match lexemes.foldlM Reading.step? Reading.start with
  | some r => if r.isComplete then some r.header else none
  | none => none

/-- The text after a byte order mark, where there is one. -/
def dropOrderMark : List Char → List Char
  | '\ufeff' :: s => s
  | s => s

/-- The header of a source. -/
def ofSource? (source : List Char) : Option Header :=
  (lexemes? (dropOrderMark source)).bind ofLexemes?

end Header
end Source
end PackageListing
