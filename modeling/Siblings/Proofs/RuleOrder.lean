import Siblings.Proofs.Acceptance
import Siblings.Proofs.Pass
import Siblings.Proofs.Segmentation

/-!
# The order of rules

The rules of a list are added one after the other, but the set does not depend on the order in
which they come. At a place of a text at most one rule of a set can be the longest, so the order
does not matter to the pass either, nor to how often each rule is used.

* `exists_ofList_perm_iff`: a list makes a set in every order or in none.
* `perm_rules_ofList`: the rules of the set are the same.
* `perm_tally`: sets with the same rules use each of them equally often.
* `order_irrelevant`: **neither what is accepted nor the pass depends on the order.**
-/

namespace Siblings.RuleSet

variable {rules others : List Rule} {set other : RuleSet}

/-- The rules of a set, each with the number of its uses in a text. -/
def tally (set : RuleSet) (text : Text) : List (Rule × Nat) := set.rules.zip (set.hits text)

/-- A list makes a set in every order or in none. -/
theorem exists_ofList_perm_iff (hperm : rules.Perm others) :
    (∃ set, ofList rules = .ok set) ↔ ∃ set, ofList others = .ok set := by
  rw [ofList_eq_ok_iff, ofList_eq_ok_iff]
  constructor
  · intro h
    exact h.mono fun rule hrule => hperm.mem_iff.2 hrule
  · intro h
    exact h.mono fun rule hrule => hperm.mem_iff.1 hrule

theorem nodup_rules (set : RuleSet) : set.rules.Nodup :=
  set.distinct.imp fun hmatcher heq => hmatcher (congrArg Rule.matcher heq)

/-- **The set of a list in another order** has the same rules. -/
theorem perm_rules_ofList (hperm : rules.Perm others) (hset : ofList rules = .ok set)
    (hother : ofList others = .ok other) : set.rules.Perm other.rules := by
  refine (List.perm_ext_iff_of_nodup set.nodup_rules other.nodup_rules).2 fun rule => ?_
  rw [mem_ofList hset, mem_ofList hother]
  exact hperm.mem_iff

/-- **Sets with the same rules** use each of them equally often. -/
theorem perm_tally (h : set.rules.Perm other.rules) (text : Text) :
    (set.tally text).Perm (other.tally text) := by
  have hpieces : set.pieces text = other.pieces text :=
    pieces_congr fun rule _ => h.mem_iff
  -- each rule is paired with a count that depends on the pieces alone
  have htally : ∀ any : RuleSet, any.tally text =
      any.rules.map fun rule => (rule, (any.pieces text).countP (Piece.uses rule)) := by
    intro any
    rw [tally, hits, ← List.map_prod_left_eq_zip]
  rw [htally, htally, hpieces]
  exact h.map _

/-- **The order of rules does not matter.** A list makes a set exactly if no matcher is empty and
rules with one matcher have one replacement, and so does every list with the same rules in another
order. The rules of the set are those of its list, each once, in the order in which they are first
seen. The sets of both lists make the same of every text and use each rule equally often. -/
theorem order_irrelevant (hperm : rules.Perm others) :
    ((∃ set, ofList rules = .ok set) ↔
      (∀ rule ∈ rules, rule.matcher ≠ []) ∧
        ∀ first ∈ rules, ∀ second ∈ rules, first.matcher = second.matcher →
          first.replacement = second.replacement) ∧
      ((∃ set, ofList rules = .ok set) ↔ ∃ set, ofList others = .ok set) ∧
      ∀ set other, ofList rules = .ok set → ofList others = .ok other →
        set.rules = rules.eraseDups ∧ other.rules = others.eraseDups ∧
          set.rules.Perm other.rules ∧
          ∀ text, set.apply text = other.apply text ∧
            (set.tally text).Perm (other.tally text) := by
  refine ⟨?_, exists_ofList_perm_iff hperm, ?_⟩
  · rw [ofList_eq_ok_iff]
    exact ⟨fun h => ⟨h.nonempty, h.agree⟩, fun h => ⟨h.1, h.2⟩⟩
  · intro set other hset hother
    have hrules := perm_rules_ofList hperm hset hother
    have happly : ∀ text, set.apply text = other.apply text := fun text =>
      apply_congr fun rule _ => hrules.mem_iff
    exact ⟨rules_ofList hset, rules_ofList hother, hrules, fun text =>
      ⟨happly text, perm_tally hrules text⟩⟩

theorem order_irrelevant_reversed :
    overlapping.Perm overlapping.reverse ∧
      ∃ set other, ofList overlapping = .ok set ∧ ofList overlapping.reverse = .ok other ∧
        set.rules ≠ other.rules ∧
        other.apply "xabcabcab".toList = "xabab1".toList ∧
        (set.tally "xabcabcab".toList).Perm
          [(⟨"ab".toList, "1".toList⟩, 1), (⟨"cab".toList, "3".toList⟩, 0),
            (⟨"abc".toList, "ab".toList⟩, 2)] := by
  have hperm : overlapping.Perm overlapping.reverse := (List.reverse_perm overlapping).symm
  have hset : ∃ set, ofList overlapping = .ok set := ⟨_, rfl⟩
  obtain ⟨-, hboth, hsame⟩ := order_irrelevant hperm
  obtain ⟨other, hother⟩ := hboth.1 hset
  obtain ⟨set, hset⟩ := hset
  obtain ⟨hrules, hreversed, -, hpass⟩ := hsame set other hset hother
  obtain ⟨happly, htally⟩ := hpass "xabcabcab".toList
  refine ⟨hperm, set, other, hset, hother, ?_, ?_, ?_⟩
  · rw [hrules, hreversed]
    decide
  · rw [← happly]
    obtain rfl := Except.ok.inj hset
    decide
  · have hcounts : other.tally "xabcabcab".toList =
        [(⟨"ab".toList, "1".toList⟩, 1), (⟨"cab".toList, "3".toList⟩, 0),
          (⟨"abc".toList, "ab".toList⟩, 2)] := by
      obtain rfl := Except.ok.inj hother
      decide
    exact hcounts ▸ htally

end Siblings.RuleSet
