import Siblings.Error

/-!
# Rule sets

A rule replaces one token by another. The rules of a set are applied together, in one pass: at
each place the longest token that starts there is replaced, and what replaced it is not read
again. So a short token never breaks a longer one that starts where it does, and two rules may
swap their tokens.

* `RuleSet.ofList`: a list of rules makes a set. Equal rules count once; an empty matcher and a
  matcher with two replacements are refused.
* `RuleSet.pieces`: a text as the pass sees it, kept characters and hits.
* `RuleSet.apply`, `RuleSet.hits`: the text after the pass, and how often each rule was used.
-/

namespace Siblings

/-- **One token and its replacement.** -/
structure Rule where
  matcher : Text
  replacement : Text
  deriving DecidableEq, Repr

/-- **Rules that are applied together.** No matcher is empty and no two are equal. -/
structure RuleSet where
  rules : List Rule
  nonempty : ∀ rule ∈ rules, rule.matcher ≠ []
  distinct : rules.Pairwise fun a b => a.matcher ≠ b.matcher

namespace RuleSet

/-- No rule. -/
def empty : RuleSet := ⟨[], by simp, .nil⟩

/-- A set with one more rule, unless it conflicts with one that is there. -/
def insert (set : RuleSet) (rule : Rule) : Except GenError RuleSet :=
  if hm : rule.matcher = [] then .error (.emptyMatcher rule.replacement)
  else
    match hf : set.rules.find? (·.matcher == rule.matcher) with
    | some existing =>
      if existing.replacement = rule.replacement then .ok set
      else .error (.conflictingTokens rule.matcher existing.replacement rule.replacement)
    | none =>
      .ok
        { rules := set.rules ++ [rule]
          nonempty := by
            intro r hr
            rcases List.mem_append.1 hr with h | h
            · exact set.nonempty r h
            · rw [List.mem_singleton.1 h]; exact hm
          distinct := by
            refine List.pairwise_append.2 ⟨set.distinct, List.pairwise_singleton _ _, ?_⟩
            intro a ha b hb
            rw [List.mem_singleton.1 hb]
            simpa using List.find?_eq_none.1 hf a ha }

/-- **A list of rules makes a set,** in the order in which rules are first seen. The first rule
that cannot be added is reported. -/
def ofList (rules : List Rule) : Except GenError RuleSet := rules.foldlM insert empty

/-- The rule with the longest matcher at the start of a text. -/
def longestOf? (text : Text) : List Rule → Option Rule
  | [] => none
  | rule :: rules =>
    let best := longestOf? text rules
    if rule.matcher.isPrefixOf text then
      match best with
      | some other => if other.matcher.length < rule.matcher.length then some rule else best
      | none => some rule
    else best

/-- **The rule that is used at the start of a text:** of those that match, the longest. -/
def longest? (set : RuleSet) (text : Text) : Option Rule := longestOf? text set.rules

/-- What a pass does at a place: it keeps a character or uses a rule. -/
inductive Piece where
  | kept (c : Char)
  | hit (rule : Rule)
  deriving DecidableEq, Repr

namespace Piece

/-- The text that a piece becomes. -/
def output : Piece → Text
  | kept c => [c]
  | hit rule => rule.replacement

/-- Whether a piece uses a rule. -/
def uses (rule : Rule) : Piece → Bool
  | kept _ => false
  | hit other => other == rule

end Piece

/-- The pieces of a text, of which the first `skip` characters belong to a hit before it. -/
def piecesFrom (set : RuleSet) : Nat → Text → List Piece
  | _, [] => []
  | skip + 1, _ :: rest => set.piecesFrom skip rest
  | 0, c :: rest =>
    match set.longest? (c :: rest) with
    | some rule => .hit rule :: set.piecesFrom (rule.matcher.length - 1) rest
    | none => .kept c :: set.piecesFrom 0 rest

/-- **A text as the pass sees it.** -/
def pieces (set : RuleSet) (text : Text) : List Piece := set.piecesFrom 0 text

/-- **The text after the pass.** -/
def apply (set : RuleSet) (text : Text) : Text := (set.pieces text).flatMap Piece.output

/-- How often each rule was used, in the order of the rules. -/
def hits (set : RuleSet) (text : Text) : List Nat :=
  set.rules.map fun rule => (set.pieces text).countP (Piece.uses rule)

end RuleSet

end Siblings
