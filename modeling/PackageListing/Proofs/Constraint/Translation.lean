/-
# Alternatives as an expression

Lines of alternatives say the same as one expression (`Alternatives.expr`): the terms of an
alternative and the lines are joined by conjunction, the alternatives of a line by disjunction,
with brackets around each line. Each of the three is a row with a first member (`Chain`), and for
all of them the tokens of the row derive the expression that leans to the left (`Chain.derives`),
which holds as all or as any of its members do (`Chain.eval_and`, `Chain.eval_or`).

A term holds just if its expression does (`Alternatives.termHolds_text`), and so does an
alternative, whose terms have no comma in them (`Alternatives.alternativeHolds_text`), and a line,
whose alternatives have no white space in them (`Alternatives.lineHolds_of_isWritten`). So a header
with the lines and a header with the expression admit the same builds
(`Header.eval_eq_eval_expr`).
-/

import PackageListing.Constraint.Header
import PackageListing.Proofs.Constraint.Spelling
import PackageListing.Proofs.Text.Words

namespace PackageListing
namespace Constraint

/-! ### Chains -/

/-- A row with at least one member. -/
structure Chain (α : Type) where
  /-- The first member. -/
  first : α
  /-- The others, in order. -/
  others : List α

namespace Chain

variable {α β : Type} {ctx : Context}

/-- All members. -/
def toList (r : Chain α) : List α :=
  r.first :: r.others

/-- What the members stand for, in a row with a sign between two. -/
def joined (joint : β) (f : α → List β) (r : Chain α) : List β :=
  f r.first ++ r.others.flatMap fun a => joint :: f a

/-- The expressions of all members, joined from the left. -/
def expr (join : Expr → Expr → Expr) (f : α → Expr) (r : Chain α) : Expr :=
  r.others.foldl (fun e a => join e (f a)) (f r.first)

theorem forall_mem_joined (P : β → Prop) {joint : β} {f : α → List β} (hjoint : P joint)
    (hf : ∀ a, ∀ b ∈ f a, P b) (r : Chain α) : ∀ b ∈ r.joined joint f, P b := by
  intro b hb
  rcases List.mem_append.1 hb with hb | hb
  · exact hf _ b hb
  · obtain ⟨a, -, ha⟩ := List.mem_flatMap.1 hb
    rcases List.mem_cons.1 ha with rfl | ha
    · exact hjoint
    · exact hf a b ha

theorem joined_eq_intercalate (joint : β) (f : α → List β) (r : Chain α) :
    r.joined joint f = [joint].intercalate (r.toList.map f) := by
  obtain ⟨first, others⟩ := r
  induction others generalizing first with
  | nil => exact (List.append_nil _).trans List.intercalate_singleton.symm
  | cons a others ih =>
    have hrest : [joint].intercalate (f a :: others.map f) =
      f a ++ others.flatMap fun a => joint :: f a := (ih a).symm
    show f first ++ (joint :: f a ++ others.flatMap fun a => joint :: f a) =
      [joint].intercalate (f first :: f a :: others.map f)
    rw [List.intercalate_cons_cons, hrest, List.append_assoc]
    rfl

/-- **The tokens of a chain derive its expression,** where the grammar has the chain of two. -/
theorem derives {outer inner : Rank} {joint : Token} {join : Expr → Expr → Expr}
    {f : α → List Token} {g : α → Expr}
    (hone : ∀ {ts e}, Derives inner ts e → Derives outer ts e)
    (htwo : ∀ {ts us l r}, Derives outer ts l → Derives inner us r →
      Derives outer (ts ++ joint :: us) (join l r))
    (hf : ∀ a, Derives inner (f a) (g a)) (r : Chain α) :
    Derives outer (r.joined joint f) (r.expr join g) := by
  -- The expression so far takes up the members one by one.
  have hmore (l : List α) : ∀ {ts e}, Derives outer ts e →
      Derives outer (ts ++ l.flatMap fun a => joint :: f a)
        (l.foldl (fun e a => join e (g a)) e) := by
    induction l with
    | nil =>
      intro ts e h
      rwa [List.flatMap_nil, List.append_nil]
    | cons a l ih =>
      intro ts e h
      rw [List.flatMap_cons, ← List.append_assoc]
      exact ih (htwo h (hf a))
  exact hmore r.others (hone (hf r.first))

theorem eval_and (g : α → Expr) (r : Chain α) :
    (r.expr .and g).eval ctx = r.toList.all fun a => (g a).eval ctx := by
  have hmore (l : List α) (e : Expr) : (l.foldl (fun e a => Expr.and e (g a)) e).eval ctx =
      (e.eval ctx && l.all fun a => (g a).eval ctx) := by
    induction l generalizing e with
    | nil => exact (Bool.and_true _).symm
    | cons a l ih => rw [List.foldl_cons, ih, List.all_cons, Expr.eval, Bool.and_assoc]
  exact hmore r.others (g r.first)

theorem eval_or (g : α → Expr) (r : Chain α) :
    (r.expr .or g).eval ctx = r.toList.any fun a => (g a).eval ctx := by
  have hmore (l : List α) (e : Expr) : (l.foldl (fun e a => Expr.or e (g a)) e).eval ctx =
      (e.eval ctx || l.any fun a => (g a).eval ctx) := by
    induction l generalizing e with
    | nil => exact (Bool.or_false _).symm
    | cons a l ih => rw [List.foldl_cons, ih, List.any_cons, Expr.eval, Bool.or_assoc]
  exact hmore r.others (g r.first)

end Chain

namespace Alternatives

/-! ### Terms, alternatives and lines -/

/-- A tag, or its negation. -/
structure Term where
  /-- Whether an exclamation mark stands before the tag. -/
  negated : Bool
  /-- The tag. -/
  tag : String
  /-- The tag is well formed. -/
  valid : isTag tag.toList = true

namespace Term

/-- The term as it is written. -/
def text (t : Term) : List Char :=
  if t.negated then '!' :: t.tag.toList else t.tag.toList

/-- The term in tokens. -/
def tokens (t : Term) : List Token :=
  if t.negated then [.bang, .tag t.tag] else [.tag t.tag]

/-- The term as an expression. -/
def expr (t : Term) : Expr :=
  if t.negated then .not (.tag t.tag) else .tag t.tag

end Term

/-- Terms of which all have to hold. -/
abbrev Alternative := Chain Term

namespace Alternative

/-- The alternative as it is written: its terms between commas. -/
def text (a : Alternative) : List Char :=
  Chain.joined ',' Term.text a

/-- The alternative in tokens. -/
def tokens (a : Alternative) : List Token :=
  Chain.joined .both Term.tokens a

/-- The alternative as an expression. -/
def expr (a : Alternative) : Expr :=
  Chain.expr .and Term.expr a

end Alternative

/-- Alternatives of which one has to hold. -/
abbrev Choice := Chain Alternative

namespace Choice

/-- The text is the alternatives of the line between white space. -/
def IsWritten (l : Choice) (text : String) : Prop :=
  Text.Separated (l.toList.map Alternative.text) text.toList

/-- The line in tokens, between brackets. -/
def tokens (l : Choice) : List Token :=
  .opening :: (Chain.joined .either Alternative.tokens l ++ [.closing])

/-- The line as an expression. -/
def expr (l : Choice) : Expr :=
  Chain.expr .or Alternative.expr l

end Choice

/-- Lines in tokens. -/
def tokens (lines : Chain Choice) : List Token :=
  lines.joined .both Choice.tokens

/-- Lines as an expression. -/
def expr (lines : Chain Choice) : Expr :=
  lines.expr .and Choice.expr

/-- The text of the expression, without blanks. -/
def translation (lines : Chain Choice) : String :=
  String.ofList ((tokens lines).flatMap Token.text)

/-! ### The expression is read -/

theorem Term.derives (t : Term) : Derives .negation t.tokens t.expr := by
  have htag : Derives .negation [.tag t.tag] (.tag t.tag) := .operand (.tag t.tag)
  rw [tokens, expr]
  split
  · exact htag.not
  · exact htag

theorem derives (lines : Chain Choice) : Derives .either (tokens lines) (expr lines) := by
  have halternative (a : Alternative) : Derives .both a.tokens a.expr :=
    Chain.derives .negation .and Term.derives a
  have hline (l : Choice) : Derives .negation l.tokens l.expr :=
    .operand (.brackets (Chain.derives .both .or halternative l))
  exact .both (Chain.derives .negation .and hline lines)

theorem Term.isSpelled_of_mem_tokens (t : Term) : ∀ u ∈ t.tokens, u.isSpelled = true := by
  rw [tokens]
  split
  · exact List.forall_mem_cons.2 ⟨rfl, List.forall_mem_singleton.2 t.valid⟩
  · exact List.forall_mem_singleton.2 t.valid

theorem isSpelled_of_mem_tokens (lines : Chain Choice) :
    ∀ u ∈ tokens lines, u.isSpelled = true := by
  have halternative (a : Alternative) : ∀ u ∈ a.tokens, u.isSpelled = true :=
    Chain.forall_mem_joined (Token.isSpelled · = true) rfl Term.isSpelled_of_mem_tokens a
  have hinside (l : Choice) :
      ∀ u ∈ Chain.joined .either Alternative.tokens l, u.isSpelled = true :=
    Chain.forall_mem_joined (Token.isSpelled · = true) rfl halternative l
  have hline (l : Choice) : ∀ u ∈ l.tokens, u.isSpelled = true :=
    isSpelled_of_mem_append (List.forall_mem_nil _) rfl <|
      isSpelled_of_mem_append (hinside l) rfl (List.forall_mem_nil _)
  exact Chain.forall_mem_joined (Token.isSpelled · = true) rfl hline lines

/-- **The expression is read,** with any blanks and tabs in its text. -/
theorem parse_of_spaced {lines : Chain Choice} {s : List Char} (h : Spaced (tokens lines) s) :
    Expr.parse s = .ok (expr lines) :=
  parse_eq_ok_iff.2 ⟨tokens lines, h.splits (isSpelled_of_mem_tokens lines) (derives lines).apart,
    derives lines⟩

/-! ### The expression holds as the lines do -/

variable {ctx : Context}

theorem termHolds_of_isTag {word : List Char} (h : isTag word = true) :
    termHolds ctx word = ctx.holds (String.ofList word) := by
  rw [termHolds.eq_def]
  split
  · exact absurd (isTag_cons.1 h).1 (by decide)
  · rw [h, Bool.true_and]

/-- **A term holds just if its expression does.** -/
theorem termHolds_text (t : Term) : termHolds ctx t.text = t.expr.eval ctx := by
  rw [Term.text, Term.expr]
  split
  · show (isTag t.tag.toList && !ctx.holds (String.ofList t.tag.toList)) = !ctx.holds t.tag
    rw [t.valid, Bool.true_and, String.ofList_toList]
  · rw [termHolds_of_isTag t.valid, String.ofList_toList]
    rfl

theorem Term.isTagCharacter_of_mem_text {t : Term} {c : Char} (hc : c ∈ t.text) :
    c = '!' ∨ isTagCharacter c = true := by
  have htag : ∀ c ∈ t.tag.toList, isTagCharacter c = true :=
    List.all_eq_true.1 (Bool.and_eq_true_iff.1 t.valid).2
  rw [text] at hc
  split at hc
  · exact (List.mem_cons.1 hc).imp_right (htag c)
  · exact .inr (htag c hc)

theorem Term.comma_notMem_text (t : Term) : ',' ∉ t.text := by
  intro hc
  rcases t.isTagCharacter_of_mem_text hc with h | h
  · exact absurd h (by decide)
  · exact absurd h (by decide)

/-- **An alternative holds just if its expression does.** -/
theorem alternativeHolds_text (a : Alternative) :
    alternativeHolds ctx a.text = a.expr.eval ctx := by
  have hcomma : ∀ l ∈ a.toList.map Term.text, ',' ∉ l :=
    List.forall_mem_map.2 fun t _ => t.comma_notMem_text
  rw [alternativeHolds, Alternative.text, Chain.joined_eq_intercalate,
    List.splitOn_intercalate ',' hcomma (List.cons_ne_nil _ _), List.all_map, Alternative.expr,
    Chain.eval_and]
  exact List.all_congr rfl termHolds_text

theorem Term.isBlank_of_mem_text (t : Term) : ∀ c ∈ t.text, Text.isBlank c = false := by
  intro c hc
  rcases t.isTagCharacter_of_mem_text hc with rfl | h
  · decide
  · rw [isTagCharacter, Bool.or_eq_true, Bool.or_eq_true, beq_iff_eq, beq_iff_eq] at h
    rcases h with (h | rfl) | rfl
    · exact Text.not_isBlank_of_isAlphanumeric h
    · decide
    · decide

theorem Term.text_ne_nil (t : Term) : t.text ≠ [] := by
  rw [text]
  split
  · exact List.cons_ne_nil _ _
  · intro hnil
    have hvalid := t.valid
    rw [hnil] at hvalid
    exact Bool.false_ne_true hvalid

theorem isWord_text (a : Alternative) : Text.IsWord a.text :=
  ⟨fun h => a.first.text_ne_nil (List.append_eq_nil_iff.1 h).1,
    Chain.forall_mem_joined _ (by decide) Term.isBlank_of_mem_text a⟩

/-- **A line holds just if its expression does.** -/
theorem lineHolds_of_isWritten {l : Choice} {text : String} (h : l.IsWritten text) :
    lineHolds ctx text = l.expr.eval ctx := by
  have hwords : Text.words text.toList = l.toList.map Alternative.text :=
    Text.words_eq_iff.2 ⟨List.forall_mem_map.2 fun a _ => isWord_text a, h⟩
  rw [lineHolds, hwords, List.any_map, Choice.expr, Chain.eval_or]
  exact List.any_congr rfl alternativeHolds_text

theorem all_lineHolds_of_forall₂ {lines : List Choice} {texts : List String}
    (h : List.Forall₂ Choice.IsWritten lines texts) :
    texts.all (lineHolds ctx) = lines.all fun l => l.expr.eval ctx := by
  induction h with
  | nil => rfl
  | cons hline _ ih => rw [List.all_cons, List.all_cons, lineHolds_of_isWritten hline, ih]

end Alternatives

open Alternatives (Choice)

theorem Spaced.flatMap_text (ts : List Token) : Spaced ts (ts.flatMap Token.text) := by
  induction ts with
  | nil => exact .nil [] (List.forall_mem_nil _)
  | cons t ts ih => exact .cons [] t (List.forall_mem_nil _) ih

/-- **Lines of alternatives and their expression admit the same builds.** The expression is read,
with any blanks and tabs in its text. -/
theorem Header.eval_eq_eval_expr (ctx : Context) (lines : Chain Choice) {texts : List String}
    (hwritten : List.Forall₂ Choice.IsWritten lines.toList texts) :
    eval ⟨none, texts⟩ ctx = .ok ((Alternatives.expr lines).eval ctx) ∧
      Spaced (Alternatives.tokens lines) (Alternatives.translation lines).toList ∧
      ∀ source : String, Spaced (Alternatives.tokens lines) source.toList →
        Expr.parse source.toList = .ok (Alternatives.expr lines) ∧
          ∀ others : List String, eval ⟨some source, others⟩ ctx = eval ⟨none, texts⟩ ctx := by
  have hlines : eval ⟨none, texts⟩ ctx = .ok ((Alternatives.expr lines).eval ctx) := by
    rw [Alternatives.expr, Chain.eval_and, ← Alternatives.all_lineHolds_of_forall₂ hwritten]
    rfl
  refine ⟨hlines, ?_, fun source hsource => ?_⟩
  · rw [Alternatives.translation, String.toList_ofList]
    exact .flatMap_text _
  · have hparse := Alternatives.parse_of_spaced hsource
    refine ⟨hparse, fun others => ?_⟩
    rw [hlines, eval.eq_def]
    simp only [hparse]

/-- Linux without C code or Darwin, and not Windows. -/
def sampleLines : Chain Choice where
  first :=
    { first := ⟨⟨false, "linux", by decide⟩, [⟨true, "cgo", by decide⟩]⟩
      others := [⟨⟨false, "darwin", by decide⟩, []⟩] }
  others := [⟨⟨⟨true, "windows", by decide⟩, []⟩, []⟩]

/-- The lines with a tab, a blank and an ideographic space around their alternatives. -/
def sampleTexts : List String :=
  [" linux,!cgo\t\u3000darwin", "!windows"]

/-- A build for Linux without C code. -/
def sampleBuild : Context :=
  ⟨"linux", "amd64", false, "gc", [], []⟩

theorem Header.eval_sampleLines :
    List.Forall₂ Choice.IsWritten sampleLines.toList sampleTexts ∧
      Alternatives.translation sampleLines = "(linux&&!cgo||darwin)&&(!windows)" ∧
      eval ⟨none, sampleTexts⟩ sampleBuild = .ok true ∧
      eval ⟨some "(linux&&!cgo||darwin)&&(!windows)", []⟩ sampleBuild = .ok true := by
  have hwritten : List.Forall₂ Choice.IsWritten sampleLines.toList sampleTexts := by
    refine .cons (Text.words_eq_iff.1 ?_).2 (.cons (Text.words_eq_iff.1 ?_).2 .nil)
    · decide +kernel
    · decide +kernel
  have htranslation :
      Alternatives.translation sampleLines = "(linux&&!cgo||darwin)&&(!windows)" := by
    decide +kernel
  have hholds : (Alternatives.expr sampleLines).eval sampleBuild = true := by decide +kernel
  obtain ⟨hlines, hspaced, hexpr⟩ := eval_eq_eval_expr sampleBuild sampleLines hwritten
  rw [hholds] at hlines
  rw [htranslation] at hspaced
  exact ⟨hwritten, htranslation, hlines, ((hexpr _ hspaced).2 []).trans hlines⟩

end Constraint
end PackageListing
