/-
# Grammars in rows

A grammar as an automaton needs it: its parts are numbered, repetitions are parts of their own,
inlined parts are replaced by what they are made of, and each part has its rows of symbols
(`Production`). For each part it is also known with which tokens its texts begin, and which
productions a text of it may begin with.
-/

import PackageListing.Syntax.GoGrammar

namespace PackageListing
namespace Syntax

/-- A symbol of a production, by its number among the tokens or the parts. -/
inductive Symbol where
  | token (i : Nat)
  | part (i : Nat)
  deriving DecidableEq, Inhabited

namespace Symbol

/-- A number for each symbol: tokens come first. -/
def code : Symbol → Nat
  | token i => i
  | part i => Token.count + i

end Symbol

/-- A symbol in a production, with the level and the side that hold after it. -/
structure Step where
  /-- The symbol. -/
  symbol : Symbol
  /-- The level. -/
  level : Int
  /-- The side. -/
  side : Option Side
  deriving DecidableEq, Inhabited

/-- A row of symbols that a part may be made of. -/
structure Production where
  /-- The number of the part. -/
  part : Nat
  /-- The symbols. -/
  steps : Array Step
  /-- The weight of a reading that uses it. -/
  weight : Int
  deriving DecidableEq, Inhabited

/-- A production that a text of some part may begin with. -/
structure Beginning where
  /-- The number of the production. -/
  production : Nat
  /-- The tokens that may follow it within the part. -/
  followers : TokenSet
  /-- Whether it may end where the part ends. -/
  reachesEnd : Bool

/-- How a part shows, by its number. -/
structure PartInfo where
  /-- Whether it has a node. -/
  isShown : Bool
  /-- Whether it stands for a repetition. -/
  isRepetition : Bool
  deriving Inhabited

/-- A grammar in rows. Production 0 is the whole text, made of part 0. -/
structure Grammar where
  /-- The names of the parts. -/
  names : Array String
  /-- How the parts show. -/
  parts : Array PartInfo
  /-- The productions. -/
  productions : Array Production
  /-- The tokens that the texts of each part begin with. -/
  first : Array TokenSet
  /-- The productions that the texts of each part begin with. -/
  beginnings : Array (List Beginning)

namespace Grammar

/-- The parts without repetitions in their rules, and the repetitions as parts after them: a
repetition is one thing, or two repetitions one after the other. -/
def withoutRepetitions (parts : List Part) : List Part :=
  let strip (part : Part) : StateM (List (String × Rule)) Part := do
    return { part with rule := ← part.rule.withoutRepetition part.name }
  let (parts, made) := (parts.mapM strip).run []
  parts ++ made.map fun m =>
    ⟨m.1, .hidden, true, .choice (.seq (.part m.1) (.part m.1)) m.2⟩

/-- The rows of a part by its name. -/
abbrev RowTable := List (String × Visibility × List Row)

/-- The rows of all parts. -/
def rowTable (parts : List Part) : RowTable :=
  parts.map fun part => (part.name, part.visibility, part.rule.alternatives 0 none true)

/-- The rows with their inlined parts replaced, as deep as `depth`. A row in the place of a symbol
takes over its level and side where it has none. -/
def inlineRows (table : RowTable) : (depth : Nat) → Row → List Row
  | 0, row => [row]
  | depth + 1, row =>
    let inner? (s : RowStep) : Option (List Row) :=
      match s.symbol with
      | .part name =>
        match table.lookup name with
        | some (.inlined, rows) => some rows
        | _ => none
      | .token _ => none
    match row.steps.span fun s => (inner? s).isNone with
    | (_, []) => [row]
    | (before, s :: after) =>
      ((inner? s).getD []).flatMap fun inner =>
        let close (last : RowStep) : RowStep :=
          { last with
            level := if last.level = 0 then s.level else last.level
            side := last.side.or s.side }
        let steps := inner.steps.dropLast ++ (inner.steps.getLast?.map close).toList
        inlineRows table depth
          ⟨before ++ steps ++ after, Rule.joinWeights row.weight inner.weight⟩

/-- How deep inlined parts may stand within each other. -/
def inlineDepth : Nat := 16

/-- A row as a production. -/
def production (names : Array String) (part : Nat) (row : Row) : Production :=
  let symbol : RowSymbol → Symbol
    | .token t => .token t.index
    | .part name => .part (names.idxOf name)
  ⟨part, (row.steps.map fun s => ⟨symbol s.symbol, s.level, s.side⟩).toArray, row.weight⟩

/-- The tokens that a symbol begins with. -/
def firstOf (first : Array TokenSet) : Symbol → TokenSet
  | .token i => TokenSet.single i
  | .part i => first.getD i 0

/-- The tokens that each part begins with, once more is known of the parts. -/
def growFirst (productions : Array Production) (first : Array TokenSet) : Array TokenSet :=
  productions.foldl
    (fun first p =>
      match p.steps[0]? with
      | none => first
      | some s => first.modify p.part (· ||| firstOf first s.symbol))
    first

/-- Repeats a step as often as `n`, or until nothing changes. -/
def settle {α : Type} [BEq α] (f : α → α) : (n : Nat) → α → α
  | 0, a => a
  | n + 1, a =>
    let b := f a
    if b == a then a else settle f n b

/-- What may follow a part, and whether it may end where another part ends. -/
structure Context where
  /-- The number of the part. -/
  part : Nat
  /-- The tokens that may follow. -/
  followers : TokenSet
  /-- Whether it may end where the other part ends. -/
  reachesEnd : Bool
  deriving BEq

/-- The contexts with one more, joined to that of the same part. -/
def addContext (contexts : List Context) (c : Context) : List Context :=
  match contexts with
  | [] => [c]
  | d :: rest =>
    if d.part = c.part then
      ⟨d.part, d.followers ||| c.followers, d.reachesEnd || c.reachesEnd⟩ :: rest
    else d :: addContext rest c

/-- The contexts of the parts that the texts of a known part begin with. -/
def growContexts (byPart : Array (List Nat)) (productions : Array Production)
    (first : Array TokenSet) (contexts : List Context) : List Context :=
  contexts.foldl
    (fun contexts c =>
      (byPart.getD c.part []).foldl
        (fun contexts i =>
          match (productions.getD i default).steps.toList with
          | [⟨.part j, _, _⟩] => addContext contexts ⟨j, c.followers, c.reachesEnd⟩
          | ⟨.part j, _, _⟩ :: next :: _ =>
            addContext contexts ⟨j, firstOf first next.symbol, false⟩
          | _ => contexts)
        contexts)
    contexts

/-- A grammar from its parts. The first part is the whole text. -/
def ofParts (parts : List Part) : Grammar :=
  let all := withoutRepetitions parts
  let table := rowTable all
  let kept := all.filter fun part => part.visibility != .inlined
  let names := (kept.map Part.name).toArray
  let rows (part : Part) : List Row :=
    ((table.lookup part.name).elim [] Prod.snd).flatMap (inlineRows table inlineDepth)
  let made := kept.zipIdx.flatMap fun x => ((rows x.1).eraseDups).map (production names x.2)
  let productions := (⟨kept.length, #[⟨.part 0, 0, none⟩], 0⟩ :: made).toArray
  let none := Array.replicate (kept.length + 1) 0
  let first := settle (growFirst productions) kept.length none
  let byPart := (List.range productions.size).foldl
    (fun (byPart : Array (List Nat)) i =>
      byPart.modify (productions.getD i default).part (· ++ [i]))
    (Array.replicate (kept.length + 1) [])
  let beginnings (part : Nat) : List Beginning :=
    (settle (growContexts byPart productions first) kept.length [⟨part, 0, true⟩]).flatMap
      fun c => (byPart.getD c.part []).map fun i => ⟨i, c.followers, c.reachesEnd⟩
  { names := names
    parts := (kept.map fun part => ⟨part.visibility == .shown, part.isRepetition⟩).toArray
    productions := productions
    first := first
    beginnings := ((List.range kept.length).map beginnings).toArray }

end Grammar

/-- The grammar of Go in rows. -/
def goGrammar : Grammar := Grammar.ofParts GoGrammar.parts

end Syntax
end PackageListing
