/-
# Tokens of Go sources

The kinds of tokens that the grammar of Go speaks about. Each has a place in the vocabulary, and
a set of tokens is a number whose bits stand for these places.
-/

namespace PackageListing
namespace Syntax

/-- A kind of token. -/
inductive Token where
  /-- The end of the text. -/
  | finish
  /-- A name that is no word of the language where it stands. -/
  | identifier
  /-- Line ends that end a statement. -/
  | lineEnd
  /-- A word of the language. -/
  | word (text : String)
  /-- A sign of punctuation or an operator. -/
  | sign (text : String)
  /-- A whole number. -/
  | integer
  /-- A number with a fraction or an exponent. -/
  | float
  /-- A number with the imaginary unit. -/
  | imaginary
  /-- A character in single quotes. -/
  | rune
  /-- What stands between back quotes. -/
  | rawText
  /-- A run of plain characters between double quotes. -/
  | quotedText
  /-- A backslash between double quotes with what belongs to it. -/
  | escape
  /-- The double quote at the end of a literal. -/
  | closingQuote
  /-- A comment. -/
  | comment
  deriving DecidableEq, Inhabited

namespace Token

/-- The words that name nothing but a part of the language. -/
def reservedWords : List String :=
  ["package", "import", "const", "var", "func", "type", "struct", "interface", "map", "chan",
    "fallthrough", "break", "continue", "goto", "return", "go", "defer", "if", "else", "for",
    "range", "switch", "case", "default", "select"]

/-- All tokens, in the order in which they are tried. -/
def vocabulary : Array Token :=
  #[.finish, .identifier, .lineEnd, .sign ";", .sign "\x00", .word "package", .word "import",
    .word "_", .sign ".", .sign "(", .sign ")", .word "const", .sign "=", .word "var",
    .word "func", .sign "[", .sign ",", .sign "]", .sign "...", .word "type", .sign "*",
    .word "struct", .sign "~", .sign "\x7b", .sign "\x7d", .word "interface", .word "map",
    .word "chan", .sign "<-", .sign ":=", .sign "++", .sign "--", .sign "*=", .sign "/=",
    .sign "%=", .sign "<<=", .sign ">>=", .sign "&=", .sign "&^=", .sign "+=", .sign "-=",
    .sign "|=", .sign "^=", .sign ":", .word "fallthrough", .word "break", .word "continue",
    .word "goto", .word "return", .word "go", .word "defer", .word "if", .word "else",
    .word "for", .word "range", .word "switch", .word "case", .word "default", .word "select",
    .word "new", .word "make", .integer, .float, .imaginary, .rune, .word "nil", .word "true",
    .word "false", .word "iota", .sign "+", .sign "-", .sign "!", .sign "^", .sign "&",
    .sign "/", .sign "%", .sign "<<", .sign ">>", .sign "&^", .sign "|", .sign "==",
    .sign "!=", .sign "<", .sign "<=", .sign ">", .sign ">=", .sign "&&", .sign "||",
    .sign "\x60", .rawText, .sign "\"", .closingQuote, .quotedText, .escape, .comment]

/-- The place of a token in the vocabulary. -/
def index (t : Token) : Nat := vocabulary.idxOf t

/-- The number of tokens. -/
def count : Nat := vocabulary.size

/-- The words of the language with their places. -/
def words : List (String × Nat) :=
  vocabulary.toList.zipIdx.filterMap fun
    | (.word text, i) => some (text, i)
    | _ => none

/-- The signs with their places, longer ones first. -/
def signs : List (List Char × Nat) :=
  let all := vocabulary.toList.zipIdx.filterMap fun
    | (.sign text, i) => some (text.toList, i)
    | _ => none
  all.mergeSort fun a b => decide (b.1.length ≤ a.1.length)

/-- The places of the reserved words. -/
def reserved : List Nat := reservedWords.map fun w => index (.word w)

/-- Whether a token stands for something of its own in a tree, and not for a fixed text. -/
def isNamed : Token → Bool
  | finish | lineEnd | sign _ | closingQuote => false
  | word text => ["_", "nil", "true", "false", "iota"].contains text
  | _ => true

end Token

/-- A set of tokens: the bit at the place of each of them is set. -/
abbrev TokenSet := Nat

namespace TokenSet

/-- The set of one token, by its place. -/
def single (i : Nat) : TokenSet := 1 <<< i

/-- The places of the tokens of a set, in increasing order. -/
def places (s : TokenSet) : List Nat := (List.range Token.count).filter s.testBit

end TokenSet

end Syntax
end PackageListing
