import Mathlib.Data.List.Forall2
import Runbook.Condition.Render
import Runbook.Proofs.Caching

/-!
# Reading assertions

The text of a condition is read back by the grammar of assertions. Conjunction binds tighter than
disjunction, and a negation applies to the literal, test, comparison or group that follows. The
grammar does not look into expressions, literals and shell tests: a text is a list of symbols, each
a character or one of these atoms as a whole.

A text has at most one reading. A part ends where the next token cannot continue it, so two parts of
the same rank that start at the same place are the same part (`Reads.eq_of_append`). The text of a
condition has a reading, because whatever stands inside another condition is either simple or in
parentheses, and the reading is true under the same valuations as the condition.
-/

namespace Runbook

private theorem Text.join_cons_cons (separator part next : String) (rest : List String) :
    Text.join separator (part :: next :: rest) =
      part ++ separator ++ Text.join separator (next :: rest) := by
  simp only [Text.join, Text.joinChars, List.map_cons, String.ofList_append, String.ofList_toList]

/-! ## Assertions -/

/-- What is asserted. -/
inductive Assertion where
  | truth (value : Bool)
  /-- A test that stands alone. -/
  | test (atom : String)
  | compare (op : CompareOp) (left right : String)
  | not (inner : Assertion)
  | and (first second : Assertion)
  | or (first second : Assertion)
deriving DecidableEq, Repr

/-- What the atoms of an assertion stand for. -/
structure Valuation (α : Type) where
  /-- The value of an expression or a literal. -/
  value : String → α
  /-- The comparisons that hold. -/
  compares : CompareOp → α → α → Prop
  /-- The tests that succeed. -/
  succeeds : String → Prop
  compares_neq : ∀ left right, compares .neq left right ↔ left ≠ right

/-- Expressions and literals stand for their own texts, which are compared as texts. -/
def Valuation.ofTexts (succeeds : String → Prop) : Valuation String where
  value := id
  compares
    | .eq, left, right => left = right
    | .neq, left, right => left ≠ right
    | .gt, left, right => right < left
    | .gte, left, right => right ≤ left
    | .lt, left, right => left < right
    | .lte, left, right => left ≤ right
  succeeds := succeeds
  compares_neq _ _ := Iff.rfl

namespace Assertion

variable {α : Type}

/-- The assertion is true. -/
def Holds (valuation : Valuation α) : Assertion → Prop
  | .truth value => value = true
  | .test atom => valuation.succeeds atom
  | .compare op left right =>
    valuation.compares op (valuation.value left) (valuation.value right)
  | .not inner => ¬inner.Holds valuation
  | .and first second => first.Holds valuation ∧ second.Holds valuation
  | .or first second => first.Holds valuation ∨ second.Holds valuation

/-! ## Tokens -/

/-- A part of the text of an assertion. -/
inductive Token where
  | and
  | or
  | not
  | opening
  | closing
  | comparison (op : CompareOp)
  | truth (value : Bool)
  /-- An expression, a literal or a test, which is not looked into. -/
  | atom (text : String)
deriving DecidableEq, Repr

/-- A text in which atoms are single symbols. -/
inductive Symbol where
  | char (c : Char)
  | atom (text : String)
deriving DecidableEq, Repr

namespace Symbol

def chars : Symbol → List Char
  | .char c => [c]
  | .atom text => text.toList

end Symbol

namespace Token

def symbols : Token → List Symbol
  | .and => " && ".toList.map .char
  | .or => " || ".toList.map .char
  | .not => "!".toList.map .char
  | .opening => "(".toList.map .char
  | .closing => ")".toList.map .char
  | .comparison op => (" " ++ op.symbol ++ " ").toList.map .char
  | .truth value => (jsonBool value).toList.map .char
  | .atom text => [.atom text]

end Token

/-- The tokens of a text. Blanks divide them, and whatever else stands outside of the atoms has to
be an operator, a parenthesis, or one of the words true and false. -/
def tokens? : List Symbol → Option (List Token)
  | [] => some []
  | .atom text :: rest => (tokens? rest).map (.atom text :: ·)
  | .char ' ' :: rest => tokens? rest
  | .char '(' :: rest => (tokens? rest).map (.opening :: ·)
  | .char ')' :: rest => (tokens? rest).map (.closing :: ·)
  | .char '&' :: .char '&' :: rest => (tokens? rest).map (.and :: ·)
  | .char '|' :: .char '|' :: rest => (tokens? rest).map (.or :: ·)
  | .char '=' :: .char '=' :: rest => (tokens? rest).map (.comparison .eq :: ·)
  | .char '!' :: .char '=' :: rest => (tokens? rest).map (.comparison .neq :: ·)
  | .char '!' :: rest => (tokens? rest).map (.not :: ·)
  | .char '>' :: .char '=' :: rest => (tokens? rest).map (.comparison .gte :: ·)
  | .char '>' :: rest => (tokens? rest).map (.comparison .gt :: ·)
  | .char '<' :: .char '=' :: rest => (tokens? rest).map (.comparison .lte :: ·)
  | .char '<' :: rest => (tokens? rest).map (.comparison .lt :: ·)
  | .char 't' :: .char 'r' :: .char 'u' :: .char 'e' :: rest =>
    (tokens? rest).map (.truth true :: ·)
  | .char 'f' :: .char 'a' :: .char 'l' :: .char 's' :: .char 'e' :: rest =>
    (tokens? rest).map (.truth false :: ·)
  | _ => none

private theorem tokens?_symbols_append (token next : Token) (rest : List Symbol) :
    tokens? (token.symbols ++ (next.symbols ++ rest)) =
      (tokens? (next.symbols ++ rest)).map (token :: ·) := by
  cases token with
  | comparison op => cases op <;> rfl
  | truth value => cases value <;> rfl
  | not =>
    -- No token starts with the sign that would make the negation an operator.
    cases next with
    | comparison op => cases op <;> rfl
    | truth value => cases value <;> rfl
    | _ => rfl
  | _ => rfl

/-- Tokens that are written one after the other are read as these tokens. -/
theorem tokens?_flatMap_symbols (tokens : List Token) :
    tokens? (tokens.flatMap Token.symbols) = some tokens := by
  induction tokens with
  | nil => rfl
  | cons token rest ih =>
    rw [List.flatMap_cons]
    cases rest with
    | nil =>
      rw [List.flatMap_nil, List.append_nil]
      cases token with
      | comparison op => cases op <;> rfl
      | truth value => cases value <;> rfl
      | _ => rfl
    | cons next others =>
      rw [List.flatMap_cons] at ih ⊢
      rw [tokens?_symbols_append, ih]
      rfl

/-! ## Readings -/

/-- The ranks of the parts of an assertion, from the tightest to the loosest. -/
inductive Rank where
  | primary
  | unary
  | conjunction
  | disjunction
deriving DecidableEq, Repr

/-- The rank of the parts of which a part consists. -/
def Rank.tighter : Rank → Rank
  | .primary | .unary => .primary
  | .conjunction => .unary
  | .disjunction => .conjunction

/-- The tokens can be read as the assertion. A negation applies to what follows immediately, and
conjunction binds tighter than disjunction. -/
inductive Reads : Rank → List Token → Assertion → Prop
  | truth (value : Bool) : Reads .primary [.truth value] (.truth value)
  | test (atom : String) : Reads .primary [.atom atom] (.test atom)
  | compare (op : CompareOp) (left right : String) :
      Reads .primary [.atom left, .comparison op, .atom right] (.compare op left right)
  | group {tokens : List Token} {inner : Assertion} (h : Reads .disjunction tokens inner) :
      Reads .primary (.opening :: tokens ++ [.closing]) inner
  | plain {tokens : List Token} {inner : Assertion} (h : Reads .primary tokens inner) :
      Reads .unary tokens inner
  | not {tokens : List Token} {inner : Assertion} (h : Reads .primary tokens inner) :
      Reads .unary (.not :: tokens) (.not inner)
  | lastPart {tokens : List Token} {inner : Assertion} (h : Reads .unary tokens inner) :
      Reads .conjunction tokens inner
  | and {front back : List Token} {first second : Assertion} (hfirst : Reads .unary front first)
      (hsecond : Reads .conjunction back second) :
      Reads .conjunction (front ++ .and :: back) (.and first second)
  | lastChoice {tokens : List Token} {inner : Assertion} (h : Reads .conjunction tokens inner) :
      Reads .disjunction tokens inner
  | or {front back : List Token} {first second : Assertion}
      (hfirst : Reads .conjunction front first) (hsecond : Reads .disjunction back second) :
      Reads .disjunction (front ++ .or :: back) (.or first second)

/-- The token makes something longer of a part that stands before it. -/
def Token.continues : Rank → Token → Bool
  | _, .comparison _ => true
  | .conjunction, .and | .disjunction, .and | .disjunction, .or => true
  | _, _ => false

/-- A part that is followed by these tokens has come to its end. -/
def Ends (rank : Rank) (rest : List Token) : Prop :=
  ∀ token ∈ rest.head?, token.continues rank = false

private theorem ends_nil (rank : Rank) : Ends rank [] := by
  intro token h
  cases h

private theorem ends_cons_iff {rank : Rank} {token : Token} {rest : List Token} :
    Ends rank (token :: rest) ↔ token.continues rank = false := by
  constructor
  · exact fun h ↦ h token rfl
  · rintro h next ⟨⟩
    exact h

/-- Where a part ends, the parts inside it end as well. -/
theorem Ends.tighter {rank : Rank} {rest : List Token} (h : Ends rank rest) :
    Ends rank.tighter rest := by
  intro token htoken
  have hlooser := h token htoken
  cases rank with
  | primary => exact hlooser
  | unary | conjunction =>
    cases token with
    | comparison op => exact hlooser
    | _ => rfl
  | disjunction =>
    cases token with
    | comparison op | and => exact hlooser
    | _ => rfl

/-- What can be negated does not start with a negation itself. -/
theorem Reads.append_ne_not {tokens : List Token} {inner : Assertion}
    (h : Reads .primary tokens inner) (rest back : List Token) : tokens ++ rest ≠ .not :: back := by
  cases h <;> simp

/-- Two parts of one rank at the start of the same tokens are the same part, if both end there. -/
theorem Reads.eq_of_append {rank : Rank} {front : List Token} {first : Assertion}
    (h : Reads rank front first) :
    ∀ {other rest ending : List Token} {second : Assertion}, Reads rank other second →
      Ends rank rest → Ends rank ending → front ++ rest = other ++ ending →
      first = second ∧ front = other ∧ rest = ending := by
  induction h with
  | truth value =>
    intro other rest ending second hother hrest hending heq
    cases hother <;> simp_all
  | test atom =>
    intro other rest ending second hother hrest hending heq
    cases hother with
    | compare op left right =>
      -- The operator would have made a comparison of the atom.
      obtain ⟨-, rfl⟩ := List.cons.inj heq
      cases ends_cons_iff.mp hrest
    | _ => simp_all
  | compare op left right =>
    intro other rest ending second hother hrest hending heq
    cases hother with
    | test atom =>
      obtain ⟨-, rfl⟩ := List.cons.inj heq
      cases ends_cons_iff.mp hending
    | _ => simp_all
  | group h ih =>
    intro other rest ending second hother hrest hending heq
    cases hother with
    | @group tokens inner hother =>
      rw [List.cons_append, List.cons_append, List.append_assoc, List.append_assoc] at heq
      obtain ⟨-, hinside⟩ := List.cons.inj heq
      obtain ⟨rfl, rfl, htail⟩ :=
        ih hother (ends_cons_iff.mpr rfl) (ends_cons_iff.mpr rfl) hinside
      exact ⟨rfl, rfl, (List.cons.inj htail).2⟩
    | _ => simp_all
  | plain h ih =>
    intro other rest ending second hother hrest hending heq
    cases hother with
    | plain hother => exact ih hother hrest.tighter hending.tighter heq
    | not hother => exact absurd heq (h.append_ne_not _ _)
  | not h ih =>
    intro other rest ending second hother hrest hending heq
    cases hother with
    | plain hother => exact absurd heq.symm (hother.append_ne_not _ _)
    | not hother =>
      obtain ⟨rfl, rfl, htail⟩ :=
        ih hother hrest.tighter hending.tighter (List.cons.inj heq).2
      exact ⟨rfl, rfl, htail⟩
  | lastPart h ih =>
    intro other rest ending second hother hrest hending heq
    cases hother with
    | lastPart hother => exact ih hother hrest.tighter hending.tighter heq
    | and hfirst hsecond =>
      rw [List.append_assoc] at heq
      obtain ⟨-, -, rfl⟩ := ih hfirst hrest.tighter (ends_cons_iff.mpr rfl) heq
      cases ends_cons_iff.mp hrest
  | and hfirst hsecond ihfirst ihsecond =>
    intro other rest ending second hother hrest hending heq
    rw [List.append_assoc] at heq
    cases hother with
    | lastPart hother =>
      obtain ⟨-, -, rfl⟩ := ihfirst hother (ends_cons_iff.mpr rfl) hending.tighter heq
      cases ends_cons_iff.mp hending
    | and hother hothers =>
      rw [List.append_assoc] at heq
      obtain ⟨rfl, rfl, htail⟩ :=
        ihfirst hother (ends_cons_iff.mpr rfl) (ends_cons_iff.mpr rfl) heq
      obtain ⟨rfl, rfl, rfl⟩ := ihsecond hothers hrest hending (List.cons.inj htail).2
      exact ⟨rfl, rfl, rfl⟩
  | lastChoice h ih =>
    intro other rest ending second hother hrest hending heq
    cases hother with
    | lastChoice hother => exact ih hother hrest.tighter hending.tighter heq
    | or hfirst hsecond =>
      rw [List.append_assoc] at heq
      obtain ⟨-, -, rfl⟩ := ih hfirst hrest.tighter (ends_cons_iff.mpr rfl) heq
      cases ends_cons_iff.mp hrest
  | or hfirst hsecond ihfirst ihsecond =>
    intro other rest ending second hother hrest hending heq
    rw [List.append_assoc] at heq
    cases hother with
    | lastChoice hother =>
      obtain ⟨-, -, rfl⟩ := ihfirst hother (ends_cons_iff.mpr rfl) hending.tighter heq
      cases ends_cons_iff.mp hending
    | or hother hothers =>
      rw [List.append_assoc] at heq
      obtain ⟨rfl, rfl, htail⟩ :=
        ihfirst hother (ends_cons_iff.mpr rfl) (ends_cons_iff.mpr rfl) heq
      obtain ⟨rfl, rfl, rfl⟩ := ihsecond hothers hrest hending (List.cons.inj htail).2
      exact ⟨rfl, rfl, rfl⟩

/-- Tokens have at most one reading. -/
theorem Reads.unique {rank : Rank} {tokens : List Token} {first second : Assertion}
    (h : Reads rank tokens first) (hother : Reads rank tokens second) : first = second :=
  (h.eq_of_append hother (ends_nil rank) (ends_nil rank) rfl).1

/-- The text, in which the atoms are known, can be read as the assertion. -/
def IsReading (symbols : List Symbol) (assertion : Assertion) : Prop :=
  ∃ tokens, tokens? symbols = some tokens ∧ Reads .disjunction tokens assertion

theorem IsReading.unique {symbols : List Symbol} {first second : Assertion}
    (h : IsReading symbols first) (hother : IsReading symbols second) : first = second := by
  obtain ⟨tokens, htokens, hreads⟩ := h
  obtain ⟨others, hothers, hreadsOther⟩ := hother
  obtain rfl := Option.some.inj (htokens.symm.trans hothers)
  exact hreads.unique hreadsOther

/-! ## Sequences of parts -/

/-- Parts with a token between any two of them. -/
def joinTokens (separator : Token) : List (List Token) → List Token
  | [] => []
  | [part] => part
  | part :: next :: rest => part ++ separator :: joinTokens separator (next :: rest)

/-- Assertions that are joined from the last to the first. -/
def chain (join : Assertion → Assertion → Assertion) : List Assertion → Assertion
  | [] => .truth true
  | [part] => part
  | part :: next :: rest => join part (chain join (next :: rest))

private theorem reads_conjunction {parts : List (List Token)} {assertions : List Assertion}
    (h : List.Forall₂ (Reads .primary) parts assertions) (hne : assertions ≠ []) :
    Reads .conjunction (joinTokens .and parts) (chain .and assertions) := by
  induction h with
  | nil => exact absurd rfl hne
  | cons hpart hrest ih =>
    cases hrest with
    | nil => exact .lastPart (.plain hpart)
    | cons => exact .and (.plain hpart) (ih (List.cons_ne_nil _ _))

private theorem reads_disjunction {parts : List (List Token)} {assertions : List Assertion}
    (h : List.Forall₂ (Reads .primary) parts assertions) (hne : assertions ≠ []) :
    Reads .disjunction (joinTokens .or parts) (chain .or assertions) := by
  induction h with
  | nil => exact absurd rfl hne
  | cons hpart hrest ih =>
    cases hrest with
    | nil => exact .lastChoice (.lastPart (.plain hpart))
    | cons => exact .or (.lastPart (.plain hpart)) (ih (List.cons_ne_nil _ _))

private theorem holds_chain_and {valuation : Valuation α} {assertions : List Assertion} :
    (chain .and assertions).Holds valuation ↔ ∀ part ∈ assertions, part.Holds valuation := by
  induction assertions with
  | nil => simp [chain, Holds]
  | cons part rest ih =>
    cases rest with
    | nil => simp [chain]
    | cons next others =>
      rw [chain, Holds, ih]
      exact List.forall_mem_cons.symm

private theorem holds_chain_or {valuation : Valuation α} {assertions : List Assertion}
    (hne : assertions ≠ []) :
    (chain .or assertions).Holds valuation ↔ ∃ part ∈ assertions, part.Holds valuation := by
  induction assertions with
  | nil => exact absurd rfl hne
  | cons part rest ih =>
    cases rest with
    | nil => simp [chain]
    | cons next others =>
      rw [chain, Holds, ih (List.cons_ne_nil _ _)]
      exact (List.exists_mem_cons_iff ..).symm

/-! ## Texts -/

/-- The text of symbols that are written one after the other. -/
def Symbol.text (symbols : List Symbol) : String := String.ofList (symbols.flatMap chars)

/-- The text of tokens that are written one after the other. -/
def written (tokens : List Token) : String := Symbol.text (tokens.flatMap Token.symbols)

private theorem written_append (front back : List Token) :
    written (front ++ back) = written front ++ written back := by
  simp only [written, Symbol.text, List.flatMap_append, String.ofList_append]

private theorem written_cons (token : Token) (rest : List Token) :
    written (token :: rest) = written [token] ++ written rest :=
  written_append [token] rest

private theorem written_atom (text : String) : written [.atom text] = text :=
  calc
    written [.atom text] = String.ofList (text.toList ++ []) := rfl
    _ = text := by rw [List.append_nil, String.ofList_toList]

private theorem written_comparison (op : CompareOp) :
    written [.comparison op] = " " ++ op.symbol ++ " " := by
  cases op <;> decide

private theorem written_truth (value : Bool) : written [.truth value] = jsonBool value := by
  cases value <;> decide

private theorem written_joinTokens (separator : Token) (parts : List (List Token)) :
    written (joinTokens separator parts) = Text.join (written [separator]) (parts.map written) := by
  induction parts with
  | nil => rfl
  | cons part rest ih =>
    cases rest with
    | nil => exact String.ofList_toList.symm
    | cons next others =>
      rw [joinTokens, written_append, written_cons, ih, ← String.append_assoc]
      exact (Text.join_cons_cons ..).symm

end Assertion

/-! ## Conditions -/

namespace Operand

def written (tool : String) (operand : Operand) : String :=
  (operand.render.eval tool).toOption.getD ""

theorem eval_render (tool : String) (operand : Operand) :
    operand.render.eval tool = .ok (operand.written tool) := by
  cases operand <;> rfl

end Operand

/-- The literals of the values that count as false. -/
def falsyLiterals : List String := ["", "null", "false"].map Text.jsonString

namespace Condition

open Assertion (Token Symbol Reads chain joinTokens written)

variable {α : Type}

mutual
/-- Every conjunction and disjunction has operands. A document gives it two at least. -/
def IsWellFormed : Condition → Prop
  | .not operand => operand.IsWellFormed
  | .all operands => operands ≠ [] ∧ AreWellFormed operands
  | .any operands => operands ≠ [] ∧ AreWellFormed operands
  | _ => True

def AreWellFormed : List Condition → Prop
  | [] => True
  | condition :: rest => condition.IsWellFormed ∧ AreWellFormed rest
end

mutual
/-- The condition is true. A reference is if its value is none of those that count as false. -/
def Holds (tool : String) (valuation : Valuation α) : Condition → Prop
  | .ref value => ∀ literal ∈ falsyLiterals,
      valuation.value (value.resolve tool .raw) ≠ valuation.value literal
  | .literal value => value = true
  | .not operand => ¬operand.Holds tool valuation
  | .all operands => AllHold tool valuation operands
  | .any operands => AnyHolds tool valuation operands
  | .compare op left right =>
    valuation.compares op (valuation.value (left.resolve tool .raw))
      (valuation.value (right.written tool))
  | .shellTest test => valuation.succeeds (Text.trim test)

/-- All conditions are true. -/
def AllHold (tool : String) (valuation : Valuation α) : List Condition → Prop
  | [] => True
  | condition :: rest => condition.Holds tool valuation ∧ AllHold tool valuation rest

/-- One of the conditions is true. -/
def AnyHolds (tool : String) (valuation : Valuation α) : List Condition → Prop
  | [] => False
  | condition :: rest => condition.Holds tool valuation ∨ AnyHolds tool valuation rest
end

/-- The tokens of a condition inside another one. -/
def groupedTokens (condition : Condition) (tokens : List Token) : List Token :=
  if condition.isSimple then tokens else .opening :: tokens ++ [.closing]

def comparisonTokens (op : CompareOp) (left right : String) : List Token :=
  [.atom left, .comparison op, .atom right]

mutual
/-- The tokens of the assertion that a condition holds. -/
def tokens (tool : String) : Condition → List Token
  | .literal value => [.truth value]
  | .ref value =>
    joinTokens .and (falsyLiterals.map (comparisonTokens .neq (value.resolve tool .raw)))
  | .not operand => .not :: operand.groupedTokens (operand.tokens tool)
  | .all operands => joinTokens .and (tokensEach tool operands)
  | .any operands => joinTokens .or (tokensEach tool operands)
  | .compare op left right => comparisonTokens op (left.resolve tool .raw) (right.written tool)
  | .shellTest test => [.atom (Text.trim test)]

def tokensEach (tool : String) : List Condition → List (List Token)
  | [] => []
  | condition :: rest =>
    condition.groupedTokens (condition.tokens tool) :: tokensEach tool rest
end

mutual
def assertion (tool : String) : Condition → Assertion
  | .literal value => .truth value
  | .ref value => chain .and (falsyLiterals.map (.compare .neq (value.resolve tool .raw)))
  | .not operand => .not (operand.assertion tool)
  | .all operands => chain .and (assertions tool operands)
  | .any operands => chain .or (assertions tool operands)
  | .compare op left right => .compare op (left.resolve tool .raw) (right.written tool)
  | .shellTest test => .test (Text.trim test)

def assertions (tool : String) : List Condition → List Assertion
  | [] => []
  | condition :: rest => condition.assertion tool :: assertions tool rest
end

private theorem assertions_ne_nil {tool : String} {conditions : List Condition}
    (h : conditions ≠ []) :
    assertions tool conditions ≠ [] := by
  cases conditions with
  | nil => exact absurd rfl h
  | cons condition rest =>
    rw [assertions]
    exact List.cons_ne_nil _ _

/-! ### The text of a condition -/

private theorem written_groupedTokens (condition : Condition) (tokens : List Token) :
    written (condition.groupedTokens tokens) = condition.grouped (written tokens) := by
  have hopening : written [.opening] = "(" := by decide
  have hclosing : written [.closing] = ")" := by decide
  rw [groupedTokens, grouped]
  split
  · rfl
  · rw [Assertion.written_append, Assertion.written_cons, hopening, hclosing]

private theorem written_comparisonTokens (op : CompareOp) (left right : String) :
    written (comparisonTokens op left right) = left ++ " " ++ op.symbol ++ " " ++ right := by
  rw [comparisonTokens, Assertion.written_cons, Assertion.written_cons (.comparison op),
    Assertion.written_atom, Assertion.written_comparison, Assertion.written_atom]
  simp only [String.append_assoc]

private theorem written_and : written [.and] = " && " := by decide

/-- The three comparisons of a reference. -/
theorem written_truthiness (expression : String) :
    written (joinTokens .and (falsyLiterals.map (comparisonTokens .neq expression))) =
      truthiness expression := by
  have hliterals : falsyLiterals = ["\"\"", "\"null\"", "\"false\""] := by decide
  rw [Assertion.written_joinTokens, written_and, hliterals]
  apply String.toList_inj.mp
  simp [written_comparisonTokens, Text.join, Text.joinChars, truthiness, CompareOp.symbol]

mutual
theorem eval_render (tool : String) (condition : Condition) :
    condition.render.eval tool = .ok (written (condition.tokens tool)) := by
  cases condition with
  | literal value =>
    rw [render, tokens, Assertion.written_truth]
    rfl
  | ref value =>
    rw [render, tokens, written_truthiness]
    rfl
  | not operand =>
    have hnot : written [.not] = "!" := by decide
    rw [render, tokens, Emission.eval_bind, eval_render tool operand, Assertion.written_cons,
      written_groupedTokens, hnot]
    rfl
  | all operands =>
    rw [render, tokens, Emission.eval_bind, eval_renderEach tool operands,
      Assertion.written_joinTokens, written_and]
    rfl
  | any operands =>
    have hor : written [.or] = " || " := by decide
    rw [render, tokens, Emission.eval_bind, eval_renderEach tool operands,
      Assertion.written_joinTokens, hor]
    rfl
  | compare op left right =>
    rw [render, tokens, Emission.eval_bind, written_comparisonTokens]
    simp only [Emission.eval_bind, Operand.eval_render]
    rfl
  | shellTest test =>
    rw [render, tokens, Assertion.written_atom]
    rfl

theorem eval_renderEach (tool : String) (conditions : List Condition) :
    (renderEach conditions).eval tool = .ok ((tokensEach tool conditions).map written) := by
  match conditions with
  | [] =>
    rw [renderEach, tokensEach]
    rfl
  | condition :: rest =>
    rw [renderEach, tokensEach, List.map_cons, written_groupedTokens, Emission.eval_bind,
      eval_render tool condition]
    simp only [Except.bind, Emission.eval_bind, eval_renderEach tool rest]
    rfl
end

/-! ### The reading of a condition -/

/-- A condition inside another one is a primary part: what is not simple stands in parentheses. -/
theorem reads_groupedTokens {tool : String} {condition : Condition}
    (h : Reads .disjunction (condition.tokens tool) (condition.assertion tool)) :
    Reads .primary (condition.groupedTokens (condition.tokens tool))
      (condition.assertion tool) := by
  rw [groupedTokens]
  cases condition with
  | literal value =>
    rw [tokens, assertion]
    exact .truth value
  | compare op left right =>
    rw [tokens, assertion]
    exact .compare ..
  | _ => exact .group h

mutual
theorem reads_tokens (tool : String) (condition : Condition) (h : condition.IsWellFormed) :
    Reads .disjunction (condition.tokens tool) (condition.assertion tool) := by
  cases condition with
  | literal value =>
    rw [tokens, assertion]
    exact .lastChoice (.lastPart (.plain (.truth value)))
  | ref value =>
    rw [tokens, assertion]
    refine .lastChoice (Assertion.reads_conjunction ?_ (List.cons_ne_nil _ _))
    exact List.forall₂_map_left_iff.mpr (List.forall₂_map_right_iff.mpr
      (List.forall₂_same.mpr fun literal _ ↦ .compare ..))
  | not operand =>
    rw [IsWellFormed] at h
    rw [tokens, assertion]
    exact .lastChoice (.lastPart (.not (reads_groupedTokens (reads_tokens tool operand h))))
  | all operands =>
    rw [IsWellFormed] at h
    rw [tokens, assertion]
    exact .lastChoice (Assertion.reads_conjunction (reads_tokensEach tool operands h.2)
      (assertions_ne_nil h.1))
  | any operands =>
    rw [IsWellFormed] at h
    rw [tokens, assertion]
    exact Assertion.reads_disjunction (reads_tokensEach tool operands h.2) (assertions_ne_nil h.1)
  | compare op left right =>
    rw [tokens, assertion]
    exact .lastChoice (.lastPart (.plain (.compare ..)))
  | shellTest test =>
    rw [tokens, assertion]
    exact .lastChoice (.lastPart (.plain (.test _)))

theorem reads_tokensEach (tool : String) (conditions : List Condition)
    (h : AreWellFormed conditions) :
    List.Forall₂ (Reads .primary) (tokensEach tool conditions) (assertions tool conditions) := by
  match conditions with
  | [] =>
    rw [tokensEach, assertions]
    exact .nil
  | condition :: rest =>
    rw [AreWellFormed] at h
    rw [tokensEach, assertions]
    exact .cons (reads_groupedTokens (reads_tokens tool condition h.1))
      (reads_tokensEach tool rest h.2)
end

/-! ### The truth of a condition -/

mutual
theorem holds_assertion (tool : String) (valuation : Valuation α) (condition : Condition)
    (h : condition.IsWellFormed) :
    (condition.assertion tool).Holds valuation ↔ condition.Holds tool valuation := by
  cases condition with
  | literal value => rw [assertion, Holds, Assertion.Holds]
  | ref value =>
    rw [assertion, Holds, Assertion.holds_chain_and, List.forall_mem_map]
    simp only [Assertion.Holds, valuation.compares_neq]
  | not operand =>
    rw [IsWellFormed] at h
    rw [assertion, Holds, Assertion.Holds, holds_assertion tool valuation operand h]
  | all operands =>
    rw [IsWellFormed] at h
    rw [assertion, Holds, Assertion.holds_chain_and,
      forall_holds_assertions tool valuation operands h.2]
  | any operands =>
    rw [IsWellFormed] at h
    rw [assertion, Holds, Assertion.holds_chain_or (assertions_ne_nil h.1),
      exists_holds_assertions tool valuation operands h.2]
  | compare op left right => rw [assertion, Holds, Assertion.Holds]
  | shellTest test => rw [assertion, Holds, Assertion.Holds]

theorem forall_holds_assertions (tool : String) (valuation : Valuation α)
    (conditions : List Condition) (h : AreWellFormed conditions) :
    (∀ part ∈ assertions tool conditions, part.Holds valuation) ↔
      AllHold tool valuation conditions := by
  match conditions with
  | [] => simp [assertions, AllHold]
  | condition :: rest =>
    rw [AreWellFormed] at h
    rw [assertions, AllHold, ← holds_assertion tool valuation condition h.1,
      ← forall_holds_assertions tool valuation rest h.2]
    exact List.forall_mem_cons

theorem exists_holds_assertions (tool : String) (valuation : Valuation α)
    (conditions : List Condition) (h : AreWellFormed conditions) :
    (∃ part ∈ assertions tool conditions, part.Holds valuation) ↔
      AnyHolds tool valuation conditions := by
  match conditions with
  | [] => simp [assertions, AnyHolds]
  | condition :: rest =>
    rw [AreWellFormed] at h
    rw [assertions, AnyHolds, ← holds_assertion tool valuation condition h.1,
      ← exists_holds_assertions tool valuation rest h.2]
    exact List.exists_mem_cons_iff ..
end

/-- The text of a condition, in which every expression, literal and test is one symbol. -/
def symbols (tool : String) (condition : Condition) : List Symbol :=
  (condition.tokens tool).flatMap Token.symbols

/-- The text of a condition has one reading, and the reading is true under the same valuations as
the condition. -/
theorem existsUnique_reading_of_render (tool : String) {condition : Condition}
    (h : condition.IsWellFormed) :
    condition.render.eval tool = .ok (Symbol.text (condition.symbols tool)) ∧
      (∃! assertion, Assertion.IsReading (condition.symbols tool) assertion) ∧
      ∀ assertion, Assertion.IsReading (condition.symbols tool) assertion →
        ∀ (α : Type) (valuation : Valuation α),
          assertion.Holds valuation ↔ condition.Holds tool valuation := by
  have hreads := reads_tokens tool condition h
  have hreading : Assertion.IsReading (condition.symbols tool) (condition.assertion tool) :=
    ⟨_, Assertion.tokens?_flatMap_symbols _, hreads⟩
  have hunique : ∀ other, Assertion.IsReading (condition.symbols tool) other →
      other = condition.assertion tool := fun other hother ↦ hother.unique hreading
  refine ⟨eval_render tool condition, ⟨_, hreading, hunique⟩, ?_⟩
  intro other hother α valuation
  rw [hunique other hother]
  exact holds_assertion tool valuation condition h

/-- A negated disjunction of a conjunction, a negation and a test. The negation in it is true, so
the whole is false, also where all texts stand for themselves. -/
theorem existsUnique_reading_of_render_nested :
    let condition : Condition :=
      .not (.any [.all [.ref ⟨"done", []⟩, .compare .gte ⟨"count", []⟩ (.int 3)],
        .not (.literal false), .shellTest " -f log "])
    condition.IsWellFormed ∧
      condition.render.eval "jq" =
        .ok ("!((($done != \"\" && $done != \"null\" && $done != \"false\") && $count >= 3)" ++
          " || (!false) || (-f log))") ∧
      ∃ assertion, Assertion.IsReading (condition.symbols "jq") assertion ∧
        (∀ valuation : Valuation String,
          assertion.Holds valuation ↔ condition.Holds "jq" valuation) ∧
        ¬assertion.Holds (.ofTexts (· = "-f log")) := by
  intro condition
  have hformed : condition.IsWellFormed := by simp [condition, IsWellFormed, AreWellFormed]
  obtain ⟨-, ⟨assertion, hreading, -⟩, htruth⟩ := existsUnique_reading_of_render "jq" hformed
  refine ⟨hformed, by cbv, assertion, hreading, htruth assertion hreading String, ?_⟩
  rw [htruth assertion hreading String]
  simp [condition, Holds, AnyHolds]

end Condition

end Runbook
