/-
# Words of a command line

Before a command line is read, its words may change in two ways. A word that names a file of
parameters gives way to the lines of that file, and a known flag with one dash is spelt with two.
-/

import PackageListing.Failure

namespace PackageListing
namespace CommandLine

/-- The word after which no word is a flag. -/
def separator : String := "--"

/-- The name of a flag, less its dashes: the text before the first equality sign. -/
def flagName (flag : List Char) : String :=
  String.ofList (flag.takeWhile (· != '='))

/-- The word, with two dashes if it is a known flag with one. -/
def spelt (known : List String) (word : String) : String :=
  match word.toList with
  | '-' :: flag =>
    if flag.head? != some '-' && known.contains (flagName flag) then "-" ++ word else word
  | _ => word

/-- The words with all known flags before the separator spelt with two dashes. -/
def normalize (known : List String) : List String → List String
  | [] => []
  | word :: words =>
    if word = separator then word :: words else spelt known word :: normalize known words

/-- The parameters in a file, one to a line. Empty lines say nothing. -/
def parametersIn (text : List Char) : List String :=
  (((Text.lines text).map fun line => (line.reverse.dropWhile (· == '\r')).reverse).filter
    (!·.isEmpty)).map String.ofList

/-- The words that a word stands for: the parameters in a file, if it names one after its first
sign, or itself. -/
def expandWord (fs : FileSystem) (word : String) : Except Failure (List String) :=
  match word.toList with
  | '@' :: c :: rest => do
    let path := String.ofList (c :: rest)
    let text ← Failure.duringIo (.read path) (fs.readText path)
    return parametersIn text
  | _ => .ok [word]

/-- The words with all files of parameters replaced by what is in them. What comes out of a file
is not looked at again. -/
def expand (fs : FileSystem) (words : List String) : Except Failure (List String) := do
  return (← words.mapM (expandWord fs)).flatten

end CommandLine
end PackageListing
