/-
# Reading one token

A reader that knows its place expects certain tokens, and one that has lost it takes what comes
(`Readiness`). Either looks for one token at the beginning of the text that is left (`scan`). A
reader that finds none looks again as one that has lost its place, and the characters up to the
next token are stray then (`Lookahead.next`). A word of the language is a name where the reader
has no use for the word (`wordToken`). White space before a token goes with it.
-/

import PackageListing.Syntax.Automaton
import PackageListing.Syntax.Pattern
import PackageListing.Syntax.Tree
import PackageListing.Text.Class
import PackageListing.Text.Split

namespace PackageListing
namespace Syntax

/-- What a reader is ready for. -/
inductive Readiness where
  /-- It expects certain tokens. -/
  | expects (tokens : TokenSet)
  /-- It has lost its place. -/
  | lost

namespace Readiness

/-- The tokens that only a reader that knows its place can tell from others. -/
def dependent : TokenSet :=
  ([Token.lineEnd, .quotedText, .rawText, .escape, .closingQuote].map fun t =>
    TokenSet.single t.index).foldl (· ||| ·) 0

/-- The tokens that look like names. -/
def names : TokenSet :=
  (Token.words.map fun w => TokenSet.single w.2).foldl (· ||| ·)
    (TokenSet.single Token.identifier.index)

/-- Whether a token is taken. -/
def admits : Readiness → Nat → Bool
  | expects tokens, i => tokens.testBit i
  | lost, i => !dependent.testBit i

/-- Whether a name or a word is taken. -/
def admitsNames : Readiness → Bool
  | expects tokens => tokens &&& names != 0
  | lost => true

end Readiness

/-- What comes of looking for a token. -/
inductive Scan where
  /-- The white space before the token, and the text of the token. -/
  | found (token : Nat) (space text : List Char)
  /-- The white space before something that is no token, and what of it was tried. -/
  | failed (space tried : List Char)

namespace Scan

/-- The piece of a string literal that a text begins with, for a reader within one. -/
def literalPiece? (tokens : TokenSet) (s : List Char) : Option (Nat × List Char) :=
  let plain := s.takeWhile fun c => c != '"' && c != '\n' && c != '\\'
  if tokens.testBit Token.quotedText.index && !plain.isEmpty then
    some (Token.quotedText.index, plain)
  else if tokens.testBit Token.rawText.index then
    some (Token.rawText.index, s.takeWhile (· != '\x60'))
  else if tokens.testBit Token.closingQuote.index && s.head? == some '"' then
    some (Token.closingQuote.index, ['"'])
  else if tokens.testBit Token.escape.index then
    (Pattern.longest? Pattern.escape s).map fun left =>
      (Token.escape.index, s.take (s.length - left.length))
  else none

/-- The comment that a text begins with. -/
def comment? : List Char → Option (List Char)
  | '/' :: '/' :: s => some ('/' :: '/' :: s.takeWhile (· != '\n'))
  | '/' :: '*' :: s => (Text.cutAt ['*', '/'] s).map fun p => '/' :: '*' :: p.1 ++ ['*', '/']
  | _ => none

/-- The kinds of numbers. -/
def numbers : List (Nat × Pattern) :=
  [(Token.integer.index, Pattern.integer), (Token.float.index, Pattern.float),
    (Token.imaginary.index, Pattern.imaginary)]

/-- The longest number that a text begins with, and what is left after it. -/
def number? (s : List Char) : Option (Nat × List Char) :=
  numbers.foldl
    (fun best kind =>
      match Pattern.longest? kind.2 s, best with
      | none, best => best
      | some left, none => some (kind.1, left)
      | some left, some b => if left.length < b.2.length then some (kind.1, left) else some b)
    none

/-- The longest sign among those taken that a text begins with. -/
def sign? (ready : Readiness) (s : List Char) : Option (Nat × List Char) :=
  Token.signs.findSome? fun sign =>
    if sign.1.isPrefixOf s && ready.admits sign.2 then some (sign.2, sign.1) else none

/-- The character in single quotes that a text begins with; where there is none, what of it was
tried. -/
def rune (s : List Char) : Option Nat × List Char :=
  match Pattern.longest? Pattern.rune s with
  | some left => (some Token.rune.index, s.take (s.length - left.length))
  | none =>
    match s with
    | _ :: '\'' :: _ => (none, s.take 1)
    | _ => (none, s.take 2)

/-- The token that a text without white space begins with; where there is none, what was tried. -/
def visible (ready : Readiness) (c : Char) (s : List Char) : Option Nat × List Char :=
  match comment? (c :: s) with
  | some text => (some Token.comment.index, text)
  | none =>
    if Text.isIdentifierStart c then
      if ready.admitsNames then
        (some Token.identifier.index, c :: s.takeWhile Text.isIdentifierPart)
      else (none, [])
    else if c == '\'' && ready.admits Token.rune.index then rune (c :: s)
    else
      match number? (c :: s) with
      | some (token, left) =>
        if ready.admits token then (some token, (c :: s).take (s.length + 1 - left.length))
        else (sign? ready (c :: s)).elim (none, []) fun p => (some p.1, p.2)
      | none => (sign? ready (c :: s)).elim (none, []) fun p => (some p.1, p.2)

/-- The token at the end of a text. -/
def atEnd (ready : Readiness) : Nat :=
  let nul := (Token.sign "\x00").index
  match ready with
  | .expects tokens =>
    if tokens.testBit nul && !tokens.testBit Token.finish.index then nul else Token.finish.index
  | .lost => Token.finish.index

/-- The number of characters of white space at the beginning of a text. A byte order mark counts
where the source begins. -/
def spaceLength (ready : Readiness) (isBeginning : Bool) (s : List Char) : Nat :=
  let isSpace (c : Char) : Bool :=
    Text.isBlank c && !(c == '\n' && ready.admits Token.lineEnd.index)
  match s with
  | '\ufeff' :: s => if isBeginning then 1 + (s.takeWhile isSpace).length else 0
  | s => (s.takeWhile isSpace).length

/-- Looks for a token after white space. -/
def afterSpace (ready : Readiness) (isBeginning : Bool) (s : List Char) : Scan :=
  let n := spaceLength ready isBeginning s
  let space := s.take n
  match s.drop n with
  | [] => .found (atEnd ready) space []
  | c :: s =>
    if c == '\n' then
      .found Token.lineEnd.index space (c :: s.takeWhile (· == '\n'))
    else
      match visible ready c s with
      | (some token, text) => .found token space text
      | (none, tried) => .failed space tried

end Scan

/-- Looks for a token at the beginning of a text. -/
def scan (ready : Readiness) (isBeginning : Bool) (s : List Char) : Scan :=
  let piece? :=
    match ready with
    | .expects tokens => Scan.literalPiece? tokens s
    | .lost => none
  match piece? with
  | some (token, text) => .found token [] text
  | none => Scan.afterSpace ready isBeginning s

/-- The number of characters up to where a token begins, or its white space. -/
def strayLength : List Char → Nat
  | [] => 0
  | c :: s =>
    match scan .lost false (c :: s) with
    | .found _ _ _ => 0
    | .failed space tried =>
      let more := space.length + tried.length - 1
      more + 1 + strayLength (s.drop more)
  termination_by s => s.length
  decreasing_by
    simp only [List.length_drop, List.length_cons]; omega

/-- Whether a state keeps a word from being a name. -/
def isReservedIn (a : Automaton) (state word : Nat) : Bool :=
  state != Automaton.lost && Token.reserved.contains word &&
    (a.expected state).testBit Token.identifier.index

/-- The token that a word of the language is in some state. -/
def wordToken (a : Automaton) (state word : Nat) : Nat :=
  if state == Automaton.lost || (a.expected state).testBit word || isReservedIn a state word then
    word
  else Token.identifier.index

/-- What comes next in a text. -/
structure Lookahead where
  /-- The leaf: a token or stray characters. -/
  leaf : Tree
  /-- Whether its text is a word of the language. -/
  isWord : Bool
  deriving Inhabited

namespace Lookahead

/-- A token of a reader in some state. -/
def ofToken (a : Automaton) (state token : Nat) (space text : List Char) : Lookahead :=
  let word? :=
    if token == Token.identifier.index then Token.words.lookup (String.ofList text) else none
  match word? with
  | some word => ⟨.leaf (.token (wordToken a state word)) space text, true⟩
  | none => ⟨.leaf (.token token) space text, false⟩

/-- What comes next for a reader that finds nothing that it expects. -/
def whenLost (a : Automaton) (state : Nat) (isBeginning : Bool) (s : List Char) : Lookahead :=
  match scan .lost isBeginning s with
  | .found token space text => ofToken a state token space text
  | .failed space tried =>
    let after := s.drop space.length
    let n := max tried.length 1
    ⟨.leaf .stray space (after.take (n + strayLength (after.drop n))), false⟩

/-- What comes next for a reader in some state. -/
def next (a : Automaton) (state : Nat) (isBeginning : Bool) (s : List Char) : Lookahead :=
  if state == Automaton.lost then whenLost a state isBeginning s
  else
    match scan (.expects (a.expected state)) isBeginning s with
    | .found token space text => ofToken a state token space text
    | .failed _ _ => whenLost a state isBeginning s

/-- The place of the token in the vocabulary, if it is one. -/
def token? (l : Lookahead) : Option Nat :=
  match l.leaf.kind with
  | .token i => some i
  | _ => none

/-- A word taken as a name. -/
def asName (l : Lookahead) : Lookahead :=
  { l with leaf := l.leaf.withKind (.token Token.identifier.index) }

end Lookahead
end Syntax
end PackageListing
