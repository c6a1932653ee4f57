import Mathlib.Data.Fin.VecNotation
import Mathlib.Data.Fintype.Basic
import Mathlib.Data.List.FinRange
import Mathlib.Data.List.Sort
import Mathlib.Tactic.FinCases
import Lexkit.Proofs.Lexer

/-!
# Which rule makes the token

A lexer puts its rules in order once, and at each place it takes the first one that applies. Said of
the rules as they were given, that is the one of highest priority, and the earliest of several.
Every rule is tried from where the lexer stands, so one that moves and does not match makes no
difference to the others.

Both statements rest on one property of the order (`filter_make`): rules of one priority, or any of
them that are picked out, stand in the sorted list as they stood in the given one. A sorted list can
be put together from these parts, so lists with the same parts make the same lexer.
-/

namespace Lexkit

variable {τ : Type} {rules behind : List (Rule τ)} {rule : Rule τ} {cursor : Cursor}

/-- The rule is not ruled out at the cursor, and it matches there or fails. -/
def Rule.Applies (rule : Rule τ) (cursor : Cursor) : Prop :=
  rule.quickCheck cursor.peek ≠ some false ∧ (rule.tryMatch cursor).outcome ≠ .ok none

namespace Lexer

/-! ### The first rule that applies -/

theorem tryRules_append (hbefore : ∀ rule ∈ rules, ¬ rule.Applies cursor) :
    (tryRules cursor.peek (rules ++ behind) cursor).Agrees
      (tryRules cursor.peek behind cursor) := by
  induction rules with
  | nil => exact .refl _
  | cons rule rules ih =>
    have hothers := ih fun other hother => hbefore other (List.mem_cons_of_mem rule hother)
    have hrefuses : rule.quickCheck cursor.peek = some false ∨
        (rule.tryMatch cursor).outcome = .ok none := by
      simpa [Rule.Applies, or_iff_not_imp_left] using hbefore rule List.mem_cons_self
    exact (tryRules_cons_of_refuses hrefuses).trans hothers

/-! ### The order of the rules -/

theorem precedes_trans (first second third : Rule τ)
    (hfirst : decide (second.priority ≤ first.priority) = true)
    (hsecond : decide (third.priority ≤ second.priority) = true) :
    decide (third.priority ≤ first.priority) = true := by
  rw [decide_eq_true_eq] at hfirst hsecond ⊢
  exact Int.le_trans hsecond hfirst

theorem precedes_total (first second : Rule τ) :
    (decide (second.priority ≤ first.priority) || decide (first.priority ≤ second.priority)) =
      true := by
  rw [Bool.or_eq_true, decide_eq_true_eq, decide_eq_true_eq]
  exact Int.le_total _ _

theorem pairwise_make (rules : List (Rule τ)) :
    (make rules).rules.Pairwise fun first second => second.priority ≤ first.priority :=
  (List.pairwise_mergeSort precedes_trans precedes_total rules).imp of_decide_eq_true

/-- Rules of one priority stay in the order in which they were given. -/
theorem filter_make {p : Rule τ → Bool} {priority : Int}
    (hp : ∀ rule, p rule = true → rule.priority = priority) :
    (make rules).rules.filter p = rules.filter p := by
  have hsame : (rules.filter p).Pairwise fun first second =>
      decide (second.priority ≤ first.priority) = true := by
    rw [List.pairwise_filter]
    refine List.pairwise_of_forall fun first second hfirst hsecond => ?_
    rw [hp first hfirst, hp second hsecond, decide_eq_true_eq]
  have hsublist : (rules.filter p).Sublist (make rules).rules :=
    List.sublist_mergeSort precedes_trans precedes_total hsame List.filter_sublist
  have hfiltered : (rules.filter p).Sublist ((make rules).rules.filter p) := by
    simpa using hsublist.filter p
  have hperm : (make rules).rules.Perm rules := List.mergeSort_perm rules _
  exact (hfiltered.eq_of_length (hperm.filter p).length_eq.symm).symm

variable {left right : List (Rule τ)}

theorem mem_iff_of_filter_eq (hsame : ∀ priority : Int,
      left.filter (·.priority = priority) = right.filter (·.priority = priority))
    (rule : Rule τ) : rule ∈ left ↔ rule ∈ right := by
  simpa using congrArg (rule ∈ ·) (hsame rule.priority)

/-- A list in order is known by its rules of each priority. -/
theorem eq_of_filter_eq
    (hleft : left.Pairwise fun first second => second.priority ≤ first.priority)
    (hright : right.Pairwise fun first second => second.priority ≤ first.priority)
    (hsame : ∀ priority : Int,
      left.filter (·.priority = priority) = right.filter (·.priority = priority)) :
    left = right := by
  have hmem := mem_iff_of_filter_eq hsame
  induction left generalizing right with
  | nil =>
    have hnone (rule : Rule τ) : rule ∉ right := fun hrule => by simpa using (hmem rule).2 hrule
    exact (List.eq_nil_iff_forall_not_mem.2 hnone).symm
  | cons first left ih =>
    cases right with
    | nil => simpa using (hmem first).1 List.mem_cons_self
    | cons second right =>
      rw [List.pairwise_cons] at hleft hright
      -- Each of the two heads has the highest priority.
      have hpriority : first.priority = second.priority := by
        apply Int.le_antisymm
        · rcases List.mem_cons.1 ((hmem first).1 List.mem_cons_self) with rfl | hfirst
          · exact Int.le_refl _
          · exact hright.1 first hfirst
        · rcases List.mem_cons.1 ((hmem second).2 List.mem_cons_self) with rfl | hsecond
          · exact Int.le_refl _
          · exact hleft.1 second hsecond
      have hheads := hsame first.priority
      rw [List.filter_cons_of_pos (by simp),
        List.filter_cons_of_pos (by simp [hpriority])] at hheads
      obtain ⟨rfl, -⟩ := List.cons.inj hheads
      have htails (priority : Int) :
          left.filter (·.priority = priority) = right.filter (·.priority = priority) := by
        have hboth := hsame priority
        rw [List.filter_cons, List.filter_cons] at hboth
        split at hboth
        · exact (List.cons.inj hboth).2
        · exact hboth
      exact congrArg (first :: ·) (ih hleft.2 hright.2 htails (mem_iff_of_filter_eq htails))

theorem make_eq_of_filter_eq (hsame : ∀ priority : Int,
      left.filter (·.priority = priority) = right.filter (·.priority = priority)) :
    make left = make right := by
  have hrules : (make left).rules = (make right).rules := by
    refine eq_of_filter_eq (pairwise_make left) (pairwise_make right) fun priority => ?_
    have hpriority (rule : Rule τ) (hrule : decide (rule.priority = priority) = true) :
        rule.priority = priority := of_decide_eq_true hrule
    rw [filter_make hpriority, filter_make hpriority, hsame]
  exact congrArg Lexer.mk hrules

/-! ### Selection -/

/-- The rule at an index applies, and no rule that applies has a higher priority, or the same one
and an earlier place. -/
structure Chosen (rules : List (Rule τ)) (cursor : Cursor) (index : Fin rules.length) : Prop where
  applies : rules[index].Applies cursor
  first : ∀ other : Fin rules.length, rules[other].Applies cursor →
    rules[other].priority < rules[index].priority ∨
      rules[other].priority = rules[index].priority ∧ index ≤ other

/-- If any rule applies, the first one in order is the chosen one. -/
theorem exists_chosen (hrule : rule ∈ rules) (happlies : rule.Applies cursor) :
    ∃ index before behind, Chosen rules cursor index ∧
      (make rules).rules = before ++ rules[index] :: behind ∧
      ∀ other ∈ before, ¬ other.Applies cursor := by
  classical
  have hsome :
      ((make rules).rules.find? fun other => decide (other.Applies cursor)).isSome = true :=
    List.find?_isSome.2 ⟨rule, mem_make.2 hrule, decide_eq_true happlies⟩
  obtain ⟨first, hfirst⟩ := Option.isSome_iff_exists.1 hsome
  obtain ⟨hyes, before, behind, hsplit, hbefore⟩ := List.find?_eq_some_iff_append.1 hfirst
  have hrefuse : ∀ other ∈ before, ¬ other.Applies cursor := by simpa using hbefore
  have hhighest : ∀ other ∈ rules, other.Applies cursor → other.priority ≤ first.priority := by
    intro other hother happlies
    have hsorted := pairwise_make rules
    rw [hsplit, List.pairwise_append, List.pairwise_cons] at hsorted
    have hmem := mem_make.2 hother
    rw [hsplit, List.mem_append, List.mem_cons] at hmem
    rcases hmem with hother | rfl | hother
    · exact absurd happlies (hrefuse other hother)
    · exact Int.le_refl _
    · exact hsorted.2.1.1 other hother
  -- Among the rules of its priority that apply, the first in order is the first that was given.
  have hpriority (other : Rule τ)
      (hother : decide (other.priority = first.priority ∧ other.Applies cursor) = true) :
      other.priority = first.priority := (of_decide_eq_true hother).1
  have hgiven : (rules.find? fun other =>
      decide (other.priority = first.priority ∧ other.Applies cursor)) = some first := by
    rw [← List.head?_filter, ← filter_make hpriority, List.head?_filter,
      List.find?_eq_some_iff_append]
    refine ⟨decide_eq_true ⟨rfl, of_decide_eq_true hyes⟩, before, behind, hsplit, ?_⟩
    intro other hother
    rw [Bool.not_eq_true', decide_eq_false_iff_not]
    exact fun hboth => hrefuse other hother hboth.2
  obtain ⟨hboth, index, hindex, hrule, hearlier⟩ := List.find?_eq_some_iff_getElem.1 hgiven
  subst hrule
  refine ⟨⟨index, hindex⟩, before, behind, ⟨of_decide_eq_true hyes, ?_⟩, hsplit, hrefuse⟩
  intro other hother
  rcases Int.lt_or_eq_of_le (hhighest _ (List.getElem_mem other.isLt) hother) with hless | hsame
  · exact .inl hless
  · refine .inr ⟨hsame, ?_⟩
    by_contra hless
    have hno := hearlier other.val (Fin.lt_def.1 (not_le.1 hless))
    rw [Bool.not_eq_true', decide_eq_false_iff_not] at hno
    exact hno ⟨hsame, hother⟩

theorem Chosen.unique {index other : Fin rules.length} (hindex : Chosen rules cursor index)
    (hother : Chosen rules cursor other) : index = other := by
  have hless := hindex.first other hother.applies
  have hmore := hother.first index hindex.applies
  omega

theorem filter_eq_map_finRange {α : Type} (list : List α) (p : α → Bool) :
    list.filter p = ((List.finRange list.length).filter fun index => p list[index]).map
      fun index => list[index] :=
  (congrArg (List.filter p) (List.map_getElem_finRange list)).symm.trans List.filter_map

/-- The order of the rules may be changed where priorities differ. -/
theorem filter_eq_of_order {permuted : List (Rule τ)}
    (order : Fin permuted.length ≃ Fin rules.length)
    (horder : ∀ index, permuted[index] = rules[order index])
    (hkeeps : ∀ first second, first < second →
      permuted[first].priority = permuted[second].priority → order first < order second)
    (priority : Int) :
    permuted.filter (·.priority = priority) = rules.filter (·.priority = priority) := by
  let has (index : Fin rules.length) : Bool := decide (rules[index].priority = priority)
  -- The rules of the priority have the same indices in the given order, and in the same order.
  have hindices : ((List.finRange permuted.length).filter (has ∘ order)).map order =
      (List.finRange rules.length).filter has := by
    have hgiven := (List.pairwise_lt_finRange rules.length).filter has
    have hpermuted : (((List.finRange permuted.length).filter (has ∘ order)).map order).Pairwise
        (· < ·) := by
      rw [List.pairwise_map, List.pairwise_filter]
      refine (List.pairwise_lt_finRange permuted.length).imp ?_
      intro first second hless hfirst hsecond
      apply hkeeps first second hless
      rw [horder, horder]
      exact (of_decide_eq_true hfirst).trans (of_decide_eq_true hsecond).symm
    refine hpermuted.eq_of_mem_iff hgiven fun index => ?_
    constructor
    · intro hindex
      obtain ⟨other, hother, rfl⟩ := List.mem_map.1 hindex
      exact List.mem_filter.2 ⟨List.mem_finRange _, (List.mem_filter.1 hother).2⟩
    · intro hindex
      refine List.mem_map.2 ⟨order.symm index, ?_, order.apply_symm_apply index⟩
      refine List.mem_filter.2 ⟨List.mem_finRange _, ?_⟩
      rw [Function.comp_apply, order.apply_symm_apply]
      exact (List.mem_filter.1 hindex).2
  have hhas : has ∘ order = fun index => decide (permuted[index].priority = priority) := by
    funext index
    rw [horder]
    rfl
  calc permuted.filter (·.priority = priority)
      = ((List.finRange permuted.length).filter (has ∘ order)).map
          fun index => rules[order index] := by
        rw [filter_eq_map_finRange permuted, funext horder, hhas]
    _ = (((List.finRange permuted.length).filter (has ∘ order)).map order).map
          fun index => rules[index] := List.map_map.symm
    _ = rules.filter (·.priority = priority) := by
        rw [hindices]
        exact (filter_eq_map_finRange rules fun rule => decide (rule.priority = priority)).symm

theorem nextToken_of_chosen {index : Fin rules.length} (hchosen : Chosen rules cursor index) :
    ((make rules).nextToken cursor).Agrees (rules[index].tryMatch cursor) := by
  obtain ⟨other, before, behind, hother, hsplit, hbefore⟩ :=
    exists_chosen (List.getElem_mem index.isLt) hchosen.applies
  obtain rfl := hother.unique hchosen
  show (tryRules cursor.peek (make rules).rules cursor).Agrees _
  rw [hsplit]
  exact (tryRules_append hbefore).trans (tryRules_cons_of_tried hother.applies.1 hother.applies.2)

theorem nextToken_of_none (hrules : ∀ rule ∈ rules, ¬ rule.Applies cursor) :
    ((make rules).nextToken cursor).Agrees (.done none cursor) := by
  have hsorted : ∀ rule ∈ (make rules).rules, ¬ rule.Applies cursor := fun rule hrule =>
    hrules rule (mem_make.1 hrule)
  have hnothing : (tryRules cursor.peek ((make rules).rules ++ []) cursor).Agrees
      (.done none cursor) := tryRules_append hsorted
  rwa [List.append_nil] at hnothing

/-- The token, or the error, and the cursor after it are those of the rule of highest priority that
applies, the earliest of several. Nothing comes, and the cursor stays, where none applies. Lists
that hold the rules of each priority in the same order make the same lexer. -/
theorem nextToken_selects (rules : List (Rule τ)) :
    (∀ cursor,
      (∀ index, Chosen rules cursor index →
        ((make rules).nextToken cursor).Agrees (rules[index].tryMatch cursor)) ∧
      ((∀ rule ∈ rules, ¬ rule.Applies cursor) →
        ((make rules).nextToken cursor).Agrees (.done none cursor)) ∧
      ((∃ index, Chosen rules cursor index) ∨ ∀ rule ∈ rules, ¬ rule.Applies cursor)) ∧
    ∀ (permuted : List (Rule τ)) (order : Fin permuted.length ≃ Fin rules.length),
      (∀ index, permuted[index] = rules[order index]) →
      (∀ first second, first < second →
        permuted[first].priority = permuted[second].priority → order first < order second) →
      make permuted = make rules := by
  refine ⟨fun cursor => ⟨fun index => nextToken_of_chosen, nextToken_of_none, ?_⟩, ?_⟩
  · by_cases happlies : ∃ rule ∈ rules, rule.Applies cursor
    · obtain ⟨rule, hrule, happlies⟩ := happlies
      obtain ⟨index, -, -, hchosen, -⟩ := exists_chosen hrule happlies
      exact .inl ⟨index, hchosen⟩
    · exact .inr fun rule hrule hyes => happlies ⟨rule, hrule, hyes⟩
  · intro permuted order horder hkeeps
    exact make_eq_of_filter_eq (filter_eq_of_order order horder hkeeps)

/-- A rule that goes ahead without a match, two rules for names that number their tokens, and one
for quoted names, of higher priority. -/
def numbered : List (Rule Nat) :=
  [.lookahead 2, .ofScanner (.identifier .simpleSql) .interpreted 0 fun _ _ => 1,
    .ofScanner (.identifier .simpleSql) .compiled 0 fun _ _ => 2,
    .ofScanner (.quoted .sql) .compiled 3 fun _ _ => 3]

/-- Before a name the first of the two rules for names is taken, also where the rule of higher
priority has been given first. -/
theorem nextToken_selects_first_name :
    let permuted : List (Rule Nat) :=
      [numbered[3], numbered[0], numbered[1], numbered[2]]
    ((make permuted).nextToken (.ofText ['a', 'b'])).outcome = .ok (some 1) := by
  intro permuted
  obtain ⟨hselects, hpermuted⟩ := nextToken_selects numbered
  obtain ⟨hchosen, -, -⟩ := hselects (.ofText ['a', 'b'])
  have hfirst : Chosen numbered (.ofText ['a', 'b']) ⟨1, by decide⟩ := by
    refine ⟨⟨by decide, by decide⟩, fun other hother => ?_⟩
    fin_cases other
    · exact absurd rfl hother.2
    · exact .inr ⟨rfl, le_refl _⟩
    · exact .inr ⟨rfl, by decide⟩
    · exact absurd (by decide) hother.1
  have hsame : make permuted = make numbered := by
    let order : Fin 4 ≃ Fin 4 := ⟨![3, 0, 1, 2], ![1, 2, 3, 0], by decide, by decide⟩
    refine hpermuted permuted order ?_ (by decide)
    intro index
    fin_cases index <;> rfl
  rw [hsame, (hchosen _ hfirst).1]
  decide

end Lexer

end Lexkit
