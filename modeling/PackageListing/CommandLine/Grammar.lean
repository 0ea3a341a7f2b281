/-
# Flags and their values

A grammar says which flags a command has and what else may stand among its words. Words are read
from the left, and the first that breaks a rule, or asks for help, decides. A flag that takes a
value has it after an equality sign or in the next word, which must not look like a flag itself
unless the flag allows that. A short flag may have its value in the same word.
-/

import PackageListing.CommandLine.Words

namespace PackageListing
namespace CommandLine

/-- Why a command line is not carried out. -/
inductive Refusal where
  /-- It breaks a rule. -/
  | usage
  /-- It asks for help. -/
  | help
  /-- It asks for the version. -/
  | version
  deriving DecidableEq

/-- A flag of a command. -/
structure Flag where
  /-- The name; one letter for a short flag. -/
  name : String
  /-- Whether it takes a value. -/
  takesValue : Bool
  /-- Whether it may come more than once. -/
  repeats : Bool
  /-- Whether its value must not be empty. -/
  nonempty : Bool
  /-- Whether any next word is its value. -/
  takesAny : Bool
  deriving DecidableEq, Inhabited

namespace Flag

/-- A flag that is there or not. -/
def switch (name : String) : Flag := ⟨name, false, false, false, false⟩

/-- A flag with a text. -/
def text (name : String) : Flag := ⟨name, true, false, false, false⟩

/-- A flag with texts, one at a time. -/
def texts (name : String) : Flag := ⟨name, true, true, false, false⟩

/-- A flag with a path. -/
def path (name : String) : Flag := ⟨name, true, false, true, false⟩

/-- A flag with paths, one at a time. -/
def paths (name : String) : Flag := ⟨name, true, true, true, false⟩

end Flag

/-- Where a command takes words that are no flags. -/
inductive WordRule where
  /-- Nowhere. -/
  | never
  /-- After the separator. -/
  | afterSeparator
  /-- Anywhere. -/
  | always
  deriving DecidableEq

/-- What may stand on the command line of a command. -/
structure Grammar where
  /-- The flags with two dashes. -/
  flags : List Flag
  /-- The flags with one dash and one letter. -/
  shortFlags : List Flag
  /-- Where other words may stand. -/
  words : WordRule
  /-- Whether the version may be asked for. -/
  hasVersion : Bool

/-- What stands on a command line. -/
structure Settings where
  /-- The flags with their values, in the order of the words. -/
  values : List (String × String)
  /-- The other words. -/
  words : List String
  deriving DecidableEq, Inhabited

namespace Settings

/-- Whether a flag is set. -/
def isSet (s : Settings) (name : String) : Bool :=
  s.values.any fun v => v.1 == name

/-- The values of a flag. -/
def all (s : Settings) (name : String) : List String :=
  (s.values.filter fun v => v.1 == name).map Prod.snd

/-- The value of a flag that comes at most once. -/
def value? (s : Settings) (name : String) : Option String :=
  s.values.lookup name

/-- Sets a flag. -/
def set (s : Settings) (flag : Flag) (value : String) : Except Refusal Settings :=
  if (flag.nonempty && value.isEmpty) || (!flag.repeats && s.isSet flag.name) then .error .usage
  else .ok { s with values := s.values ++ [(flag.name, value)] }

/-- Takes in a word that is no flag. -/
def addWord (s : Settings) (word : String) : Settings :=
  { s with words := s.words ++ [word] }

end Settings

/-- A word that looks like a flag. A dash alone does not. -/
def looksLikeFlag (word : String) : Bool :=
  match word.toList with
  | '-' :: _ :: _ => true
  | _ => false

/-- How a word is to be understood. -/
inductive Reading where
  /-- The separator. -/
  | separator
  /-- A flag with two dashes, and the value in the same word. -/
  | long (name : String) (value : Option String)
  /-- A flag with one dash, and what follows its letter. -/
  | short (letter : Char) (rest : List Char)
  /-- Any other word. -/
  | word

/-- How a word is to be understood where flags are. -/
def Reading.ofWord (word : String) : Reading :=
  match word.toList with
  | ['-', '-'] => .separator
  | '-' :: '-' :: flag =>
    match Text.cutAt ['='] flag with
    | some (name, value) => .long (String.ofList name) (some (String.ofList value))
    | none => .long (String.ofList flag) none
  | '-' :: letter :: rest => .short letter rest
  | _ => .word

/-- The value that is written after the letter of a short flag. -/
def attachedValue? : List Char → Option String
  | [] => none
  | '=' :: value => some (String.ofList value)
  | value => some (String.ofList value)

namespace Grammar

/-- The flag of a name, if it is there, or what a flag of every command asks for. -/
def longFlag (g : Grammar) (name : String) (value : Option String) : Except Refusal Flag :=
  if name = "help" then .error (if value.isNone then .help else .usage)
  else if g.hasVersion && name = "version" then .error (if value.isNone then .version else .usage)
  else
    match g.flags.find? fun f => f.name == name with
    | some flag => if value.isSome && !flag.takesValue then .error .usage else .ok flag
    | none => .error .usage

/-- The flag of a letter, if it is there, or what a flag of every command asks for. -/
def shortFlag (g : Grammar) (letter : Char) : Except Refusal Flag :=
  if letter = 'h' then .error .help
  else if g.hasVersion && letter = 'V' then .error .version
  else
    match g.shortFlags.find? fun f => f.name == String.singleton letter with
    | some flag => .ok flag
    | none => .error .usage

/-- Reads the words of a command line. -/
def read (g : Grammar) (s : Settings) : List String → Except Refusal Settings
  | [] => .ok s
  | word :: words =>
    let setNext (flag : Flag) (value : Option String) : Except Refusal Settings :=
      match value, words with
      | some value, words => do read g (← s.set flag value) words
      | none, value :: words =>
        if looksLikeFlag value && !flag.takesAny then .error .usage
        else do read g (← s.set flag value) words
      | none, [] => .error .usage
    match Reading.ofWord word with
    | .separator =>
      if g.words = .never && !words.isEmpty then .error .usage
      else .ok { s with words := s.words ++ words }
    | .long name value =>
      match g.longFlag name value with
      | .error r => .error r
      | .ok flag =>
        if flag.takesValue then setNext flag value else do read g (← s.set flag "") words
    | .short letter rest =>
      match g.shortFlag letter with
      | .error r => .error r
      | .ok flag => setNext flag (attachedValue? rest)
    | .word => if g.words = .always then read g (s.addWord word) words else .error .usage

end Grammar
end CommandLine
end PackageListing
