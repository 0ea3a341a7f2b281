/-
# The states of a reader

A state of a reader is what it may be in the midst of: a set of items, each a production with the
number of its symbols that are read and the tokens that may follow it. What a state does at a
token follows from its items (`ReaderState.ofItems`): it takes the token, or it reduces the
symbols of a production to its part, or both where the grammar leaves that open. The states are
made when they are reached and numbered in that order (`Automaton.enter`).
-/

import PackageListing.Syntax.Grammar
import Std.Data.HashMap

namespace PackageListing
namespace Syntax

/-- A production that is partly read. -/
structure Item where
  /-- The number of the production. -/
  production : Nat
  /-- How many of its symbols are read. -/
  read : Nat
  /-- The tokens that may follow it. -/
  followers : TokenSet
  deriving DecidableEq, Hashable, Inhabited

/-- A production that is read in full. -/
structure Reduction where
  /-- The number of its part. -/
  part : Nat
  /-- How many symbols it has. -/
  length : Nat
  /-- Its weight. -/
  weight : Int
  deriving DecidableEq, Inhabited

/-- What a state does with a token. -/
inductive Take where
  /-- It cannot take the token. -/
  | never
  /-- It takes the token. -/
  | always
  /-- It could take the token, but what is read already counts as a repetition first. -/
  | afterRepetition
  deriving DecidableEq, Inhabited

/-- What a state does at a token. -/
structure Reaction where
  /-- Whether the whole text is read. -/
  accepts : Bool
  /-- The reductions. -/
  reductions : List Reduction
  /-- Whether it takes the token. -/
  take : Take
  deriving Inhabited

namespace Reaction

/-- Nothing can be done. -/
def none : Reaction := ⟨false, [], .never⟩

/-- Whether nothing can be done. -/
def isNone (r : Reaction) : Bool := !r.accepts && r.reductions.isEmpty && r.take == .never

end Reaction

/-- A state of a reader. -/
structure ReaderState where
  /-- What it does at each token. -/
  reactions : Array Reaction
  /-- The tokens at which it does something. -/
  expected : TokenSet
  /-- The items after each symbol, by the code of the symbol. -/
  successors : Array (List Item)
  deriving Inhabited

namespace Item

/-- The production of an item. -/
def productionIn (g : Grammar) (i : Item) : Production := g.productions.getD i.production default

/-- The next symbol of an item. -/
def next? (g : Grammar) (i : Item) : Option Symbol :=
  ((i.productionIn g).steps[i.read]?).map Step.symbol

/-- The tokens that may come right after the next symbol of an item. -/
def followersOfNext (g : Grammar) (i : Item) : TokenSet :=
  match (i.productionIn g).steps[i.read + 1]? with
  | some s => Grammar.firstOf g.first s.symbol
  | none => i.followers

/-- The last step of an item that is read. -/
def lastStep? (g : Grammar) (i : Item) : Option Step :=
  match i.read with
  | 0 => none
  | n + 1 => (i.productionIn g).steps[n]?

/-- The level that holds for an item. -/
def level (g : Grammar) (i : Item) : Int := (i.lastStep? g).elim 0 Step.level

/-- The side that holds for an item. -/
def side (g : Grammar) (i : Item) : Option Side := (i.lastStep? g).bind Step.side

/-- The order of items in a state. -/
def le (a b : Item) : Bool :=
  decide (a.production < b.production ∨ a.production = b.production ∧ a.read ≤ b.read)

end Item

namespace ReaderState

/-- The tokens that may follow each production that begins where one of the items goes on. -/
def beginningFollowers (g : Grammar) (kernel : List Item) : Array TokenSet :=
  kernel.foldl
    (fun found i =>
      match i.next? g with
      | some (.part n) =>
        let after := i.followersOfNext g
        (g.beginnings.getD n []).foldl
          (fun found b =>
            found.modify b.production
              (· ||| b.followers ||| if b.reachesEnd then after else 0))
          found
      | _ => found)
    (Array.replicate g.productions.size 0)

/-- The items with those of the productions that may begin next. -/
def closure (g : Grammar) (kernel : List Item) : List Item :=
  let found := beginningFollowers g kernel
  let begun := (List.range g.productions.size).filterMap fun p =>
    match found.getD p 0 with
    | 0 => none
    | followers => some ⟨p, 0, followers⟩
  List.merge kernel begun Item.le

/-- The reductions at a token, while they are collected. -/
structure Collected where
  /-- Whether the whole text is read. -/
  accepts : Bool
  /-- The reductions of the highest level. -/
  reductions : List Reduction
  /-- That level. -/
  level : Int
  /-- The sides of these reductions. -/
  sides : List (Option Side)
  deriving Inhabited

/-- No reduction. -/
def Collected.none : Collected := ⟨false, [], 0, []⟩

/-- Takes up a reduction, unless there are some of a higher level. -/
def Collected.add (c : Collected) (r : Reduction) (level : Int) (side : Option Side) : Collected :=
  if c.reductions.isEmpty || decide (c.level < level) then ⟨c.accepts, [r], level, [side]⟩
  else if level < c.level then c
  else { c with
    reductions := if c.reductions.contains r then c.reductions else c.reductions ++ [r]
    sides := c.sides ++ [side] }

/-- What the items that are read in full do at each token. -/
def collect (g : Grammar) (items : List Item) : Array Collected :=
  items.foldl
    (fun collected i =>
      let p := i.productionIn g
      if i.read < p.steps.size then collected
      else if i.production = 0 then
        collected.modify 0 fun c => { c with accepts := true }
      else
        let r : Reduction := ⟨p.part, i.read, p.weight⟩
        (TokenSet.places i.followers).foldl
          (fun collected t => collected.modify t fun c => c.add r (i.level g) (i.side g))
          collected)
    (Array.replicate Token.count Collected.none)

/-- The items after each symbol. -/
def successorsOf (g : Grammar) (items : List Item) : Array (List Item) :=
  items.foldr
    (fun i successors =>
      match i.next? g with
      | some s => successors.modify s.code ({ i with read := i.read + 1 } :: ·)
      | none => successors)
    (Array.replicate (Token.count + g.names.size) [])

/-- Whether an item could go on with a token after what is read of it. -/
def goesOn (g : Grammar) (t : Nat) (i : Item) : Bool :=
  decide (0 < i.read) &&
    match i.next? g with
    | some s => (Grammar.firstOf g.first s).testBit t
    | none => false

/-- Whether an item is read in full where a token may follow. -/
def endsAt (g : Grammar) (t : Nat) (i : Item) : Bool :=
  (i.next? g).isNone && i.followers.testBit t && decide (i.production ≠ 0)

/-- What a state does at a token that it can take and at which something is read in full. Within
one repetition both stay. Otherwise the higher level decides, and on one level the side; where
the grammar gives none, both stay. -/
def decideTake (g : Grammar) (items : List Item) (t : Nat) (c : Collected) : Reaction :=
  let goers := items.filter (goesOn g t)
  let concerned := (goers ++ items.filter (endsAt g t)).map fun i => (i.productionIn g).part
  let alone := concerned.eraseDups
  match alone with
  | [part] =>
    if (g.parts.getD part default).isRepetition then ⟨c.accepts, c.reductions, .afterRepetition⟩
    else settle goers
  | _ => settle goers
where
  /-- Lets levels and sides decide. -/
  settle (goers : List Item) : Reaction :=
    let isMore := goers.any fun i => decide (c.level < i.level g)
    let isLess := goers.any fun i => decide (i.level g < c.level)
    match isMore, isLess with
    | true, false => ⟨c.accepts, [], .always⟩
    | false, true => ⟨c.accepts, c.reductions, .never⟩
    | true, true => ⟨c.accepts, c.reductions, .always⟩
    | false, false =>
      if c.sides.all (· == some .left) then ⟨c.accepts, c.reductions, .never⟩
      else if c.sides.all (· == some .right) then ⟨c.accepts, [], .always⟩
      else ⟨c.accepts, c.reductions, .always⟩

/-- The state with the given items and all those that may begin with them. -/
def ofItems (g : Grammar) (kernel : List Item) : ReaderState :=
  let items := closure g kernel
  let successors := successorsOf g items
  let reactions := (collect g items).zipIdx.map fun x =>
    if (successors.getD x.2 []).isEmpty then ⟨x.1.accepts, x.1.reductions, .never⟩
    else if x.1.reductions.isEmpty then ⟨x.1.accepts, [], .always⟩
    else decideTake g items x.2 x.1
  let expected := reactions.zipIdx.foldl
    (fun s x => if x.1.isNone then s else s ||| TokenSet.single x.2) 0
  ⟨reactions, expected, successors⟩

end ReaderState

/-- The states that a reader has reached. -/
structure Automaton where
  /-- The states by their numbers. -/
  states : Array ReaderState
  /-- The numbers by the items that the states were made from. -/
  numbers : Std.HashMap (List Item) Nat
  deriving Inhabited

namespace Automaton

/-- The number of the state in which a reader has lost its place. -/
def lost : Nat := 0

/-- The number of the state at the beginning of a text. -/
def start : Nat := 1

/-- The number of the state with the given items, which is made if it is new. -/
def enter (a : Automaton) (g : Grammar) (kernel : List Item) : Nat × Automaton :=
  match a.numbers[kernel]? with
  | some n => (n, a)
  | none =>
    let n := a.states.size
    (n, ⟨a.states.push (.ofItems g kernel), a.numbers.insert kernel n⟩)

/-- The states before a text is read. -/
def initial (g : Grammar) : Automaton :=
  (Automaton.enter ⟨#[default], ∅⟩ g [⟨0, 0, TokenSet.single Token.finish.index⟩]).2

/-- What a state does at a token. -/
def reaction (a : Automaton) (state token : Nat) : Reaction :=
  ((a.states.getD state default).reactions.getD token Reaction.none)

/-- The items after a symbol. -/
def successor (a : Automaton) (state : Nat) (s : Symbol) : List Item :=
  (a.states.getD state default).successors.getD s.code []

/-- The tokens at which a state does something. -/
def expected (a : Automaton) (state : Nat) : TokenSet :=
  (a.states.getD state default).expected

end Automaton
end Syntax
end PackageListing
