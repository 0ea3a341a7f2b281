/-
# Rules of a grammar

A rule says what a part of a text is made of: tokens and other parts, one after another, in
alternatives, or repeated. A level settles which of two rules takes a token that both could go on
with, and a weight which of two readings of the same text is kept. The alternatives of a rule are
rows of symbols without any choice left (`Rule.alternatives`).
-/

import PackageListing.Syntax.Token

namespace PackageListing
namespace Syntax

/-- The side of a row of equal operators that is read first. -/
inductive Side where
  | left
  | right
  deriving DecidableEq

/-- What a part of a text is made of. -/
inductive Rule where
  /-- Nothing. -/
  | empty
  /-- A token. -/
  | token (t : Token)
  /-- A part with a rule of its own. -/
  | part (name : String)
  /-- One thing after another. -/
  | seq (a b : Rule)
  /-- One thing or another. -/
  | choice (a b : Rule)
  /-- One or more things of a kind. -/
  | many (r : Rule)
  /-- A thing that holds its symbols together with a strength, and with a side. -/
  | level (n : Int) (side : Option Side) (r : Rule)
  /-- A thing that counts for or against the reading that it belongs to. -/
  | weight (n : Int) (r : Rule)
  deriving DecidableEq, Inhabited

/-- A symbol of a row: a token or a part. -/
inductive RowSymbol where
  | token (t : Token)
  | part (name : String)
  deriving DecidableEq

/-- A symbol in a row, with the level and the side that hold after it. -/
structure RowStep where
  /-- The symbol. -/
  symbol : RowSymbol
  /-- The level; it is 0 where none is given. -/
  level : Int
  /-- The side. -/
  side : Option Side
  deriving DecidableEq

/-- A row of symbols, with the weight of the reading that uses it. -/
structure Row where
  /-- The symbols. -/
  steps : List RowStep
  /-- The weight. -/
  weight : Int
  deriving DecidableEq

/-- How a part shows in a tree. -/
inductive Visibility where
  /-- It has a node. -/
  | shown
  /-- Its node is passed over. -/
  | hidden
  /-- It has no node: its alternatives stand in its place. -/
  | inlined
  deriving DecidableEq

/-- A part of the texts of a grammar. -/
structure Part where
  /-- The name. -/
  name : String
  /-- How it shows. -/
  visibility : Visibility
  /-- Whether it stands for the repetition in another part. -/
  isRepetition : Bool
  /-- What it is made of. -/
  rule : Rule

namespace Rule

/-- One thing after another. -/
def row : List Rule → Rule
  | [] => empty
  | [r] => r
  | r :: rules => seq r (row rules)

/-- One of several things. -/
def anyOf : List Rule → Rule
  | [] => empty
  | [r] => r
  | r :: rules => choice r (anyOf rules)

/-- A thing or nothing. -/
def optional (r : Rule) : Rule := choice r empty

/-- Any number of things of a kind. -/
def any (r : Rule) : Rule := choice (many r) empty

/-- A word of the language. -/
def word (text : String) : Rule := token (.word text)

/-- A sign. -/
def sign (text : String) : Rule := token (.sign text)

/-- Things of a kind with a comma between them. -/
def listOf (r : Rule) : Rule := row [r, any (row [sign ",", r])]

/-- Moves the repetitions of a rule into parts of their own. Equal ones share a part. -/
def withoutRepetition (owner : String) : Rule → StateM (List (String × Rule)) Rule
  | empty => return empty
  | token t => return token t
  | part name => return part name
  | seq a b => return seq (← withoutRepetition owner a) (← withoutRepetition owner b)
  | choice a b => return choice (← withoutRepetition owner a) (← withoutRepetition owner b)
  | level n side r => return level n side (← withoutRepetition owner r)
  | weight n r => return weight n (← withoutRepetition owner r)
  | many r => do
    let r ← withoutRepetition owner r
    let made ← get
    match made.find? fun m => m.2 = r with
    | some m => return part m.1
    | none =>
      let name := owner ++ " " ++ toString made.length
      set (made ++ [(name, r)])
      return part name

/-- The weight of two things together: the greater one, whatever its sign. -/
def joinWeights (a b : Int) : Int := if a.natAbs < b.natAbs then b else a

/-- One row after another. -/
def joinRows (a b : Row) : Row := ⟨a.steps ++ b.steps, joinWeights a.weight b.weight⟩

/-- The steps with the level of the last one, and its side where one is given, put back to what
holds around them. -/
def closeLevel (outerLevel : Int) (outerSide side : Option Side) (steps : List RowStep) :
    List RowStep :=
  match steps.getLast? with
  | none => []
  | some last =>
    let side := if side.isSome then outerSide else last.side
    steps.dropLast ++ [{ last with level := outerLevel, side := side }]

/-- The rows that a rule allows, where a level and a side hold around it. `isLast` tells whether
the row around it ends with it. -/
def alternatives (outer : Int) (outerSide : Option Side) (isLast : Bool) : Rule → List Row
  | empty => [⟨[], 0⟩]
  | token t => [⟨[⟨.token t, outer, outerSide⟩], 0⟩]
  | part name => [⟨[⟨.part name, outer, outerSide⟩], 0⟩]
  | seq a b =>
    let lasts := alternatives outer outerSide isLast b
    (alternatives outer outerSide false a).flatMap fun x => lasts.map (joinRows x)
  | choice a b => alternatives outer outerSide isLast a ++ alternatives outer outerSide isLast b
  | many r => alternatives outer outerSide isLast r
  | level n side r =>
    (alternatives n (side.or outerSide) isLast r).map fun x =>
      if isLast then x else { x with steps := closeLevel outer outerSide side x.steps }
  | weight n r =>
    (alternatives outer outerSide isLast r).map fun x => { x with weight := joinWeights n x.weight }

end Rule
end Syntax
end PackageListing
