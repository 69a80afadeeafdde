import RuleReview.Proofs.Delta.Exact
import RuleReview.Script.Parse

/-!
# What an empty delta says about conduct

A rule is carried out from the top: the first branch that applies is taken.  A delta looks at less
than that.  It pays no regard to the order of branches, and it takes conditions by their text, so
that an `else` arm and a condition `DEFAULT` are one and the same to it.  Rules without differences
can therefore behave differently, and this file says when they do.

## What is here

* `Ruleset.taken?`, `Ruleset.conduct` — what a rule does, given which conditions hold.
* `Ruleset.Prefers` — the order of two branches, as far as it matters.
* `Ruleset.ToldApart` — that no condition of two rules is mistaken for an `else` arm.
* `conduct_eq_iff_of_isEmpty` — rules without differences behave alike exactly when branches whose
  order was turned around have the same actions; then rules to which this applies, and rules that
  behave differently.
-/

set_option autoImplicit false

namespace RuleReview

/-! ## Conduct -/

/-- Whether a branch under the condition applies, given which texts hold. -/
def Condition.applies (holds : Text → Bool) : Condition → Bool
  | expr t => holds t
  | default => true

namespace Ruleset

/-- The branch that a rule takes: the first that applies. -/
def taken? (rs : Ruleset) (holds : Text → Bool) : Option Branch :=
  rs.branches.find? (·.condition.applies holds)

/-- What a rule does: the actions of the branch that it takes, if it takes one. -/
def conduct (rs : Ruleset) (holds : Text → Bool) : Option (List Text) :=
  (rs.taken? holds).map (·.actions)

/-- That a rule prefers the branch `x` to the branch `y`: of the `else` arms and the branches under
one of their conditions, `x` is the first. -/
def Prefers (rs : Ruleset) (x y : Branch) : Prop :=
  rs.branches.find? (fun b => b.condition = .default ∨ b.condition.text = x.condition.text ∨
    b.condition.text = y.condition.text) = some x

instance (rs : Ruleset) (x y : Branch) : Decidable (rs.Prefers x y) :=
  inferInstanceAs (Decidable (_ = _))

/-- That two rules have not both an `else` arm and a condition of the text that shows it. -/
def ToldApart (a b : Ruleset) : Prop :=
  ¬ ((∃ x ∈ a.branches ++ b.branches, x.condition = .default) ∧
    ∃ y ∈ a.branches ++ b.branches, y.condition = .expr "DEFAULT")

instance (a b : Ruleset) : Decidable (a.ToldApart b) := inferInstanceAs (Decidable (¬ _))

variable {a b rs : Ruleset} {x y : Branch} {holds : Text → Bool}

/-- Where conditions are told apart, the text is all there is to a condition. -/
theorem ToldApart.condition_eq (h : a.ToldApart b) (hx : x ∈ a.branches ++ b.branches)
    (hy : y ∈ a.branches ++ b.branches) (htext : x.condition.text = y.condition.text) :
    x.condition = y.condition := by
  rcases (Condition.text_eq_iff _ _).1 htext with heq | ⟨hxc, hyc⟩ | ⟨hxc, hyc⟩
  · exact heq
  · exact absurd ⟨⟨x, hx, hxc⟩, y, hy, hyc⟩ h
  · exact absurd ⟨⟨y, hy, hyc⟩, x, hx, hxc⟩ h

/-! ## The branch that is taken -/

theorem taken?_eq_some_iff :
    rs.taken? holds = some x ↔ x.condition.applies holds = true ∧
      ∃ front back, rs.branches = front ++ x :: back ∧
        ∀ e ∈ front, e.condition.applies holds = false := by
  rw [taken?, List.find?_eq_some_iff_append]
  simp only [Bool.not_eq_true']

theorem mem_of_taken? (h : rs.taken? holds = some x) : x ∈ rs.branches :=
  List.mem_of_find?_eq_some h

/-- A branch that does not apply is not under the condition of one that does. -/
theorem text_ne_of_applies (hsame : x.condition.text = y.condition.text → x.condition = y.condition)
    (hx : x.condition.applies holds = false) (hy : y.condition.applies holds = true) :
    x.condition.text ≠ y.condition.text := by
  intro htext
  rw [hsame htext, hy] at hx
  cases hx

/-- The branch that is taken stands for its condition: of the branches under it either all apply or
none does. -/
theorem stands_of_taken?
    (hx : ∀ e ∈ rs.branches, e.condition.text = x.condition.text → e.condition = x.condition)
    (h : rs.taken? holds = some x) : rs.Stands x.condition.text x := by
  obtain ⟨happlies, front, back, hsplit, hfront⟩ := taken?_eq_some_iff.1 h
  refine ⟨front, back, hsplit, rfl, fun e he => ?_⟩
  have hmem : e ∈ rs.branches := by simp [hsplit, he]
  exact text_ne_of_applies (hx e hmem) (hfront e he) happlies

/-- A rule that takes a branch where another one applies as well prefers it to that one. -/
theorem prefers_of_taken?
    (hx : ∀ e ∈ rs.branches, e.condition.text = x.condition.text → e.condition = x.condition)
    (hy : ∀ e ∈ rs.branches, e.condition.text = y.condition.text → e.condition = y.condition)
    (h : rs.taken? holds = some x) (happlies : y.condition.applies holds = true) :
    rs.Prefers x y := by
  obtain ⟨hxapplies, front, back, hsplit, hfront⟩ := taken?_eq_some_iff.1 h
  refine List.find?_eq_some_iff_append.2 ⟨by simp, front, back, hsplit, fun e he => ?_⟩
  have hmem : e ∈ rs.branches := by simp [hsplit, he]
  have hdefault : e.condition ≠ .default := by
    intro heq
    have hnot := hfront e he
    rw [heq] at hnot
    cases hnot
  have hex := text_ne_of_applies (hx e hmem) (hfront e he) hxapplies
  have hey := text_ne_of_applies (hy e hmem) (hfront e he) happlies
  simp [hdefault, hex, hey]

/-- The preferred branch is taken where the two conditions hold and no others. -/
theorem taken?_of_prefers (h : rs.Prefers x y)
    (hholds : ∀ t, holds t = true ↔ t = x.condition.text ∨ t = y.condition.text) :
    rs.taken? holds = some x := by
  rw [← h, taken?]
  congr 1
  funext b
  rw [Bool.eq_iff_iff, decide_eq_true_eq]
  cases b.condition with
  | expr t =>
    change holds t = true ↔ _ ∨ t = x.condition.text ∨ t = y.condition.text
    rw [hholds]
    exact ⟨.inr, fun h => h.resolve_left (by simp)⟩
  | default => exact iff_of_true rfl (.inl rfl)

/-- A rule that has the conditions of another takes a branch where the other one does. -/
theorem exists_taken? (hapart : a.ToldApart b)
    (hconditions : ∀ condition ∈ b.conditions, condition ∈ a.conditions)
    (h : b.taken? holds = some y) : ∃ x, a.taken? holds = some x := by
  have hy := mem_of_taken? h
  obtain ⟨e, he, htext⟩ := List.mem_map.1
    (hconditions y.condition.text (List.mem_map_of_mem hy))
  have hsame : e.condition = y.condition :=
    hapart.condition_eq (List.mem_append_left _ he) (List.mem_append_right _ hy) htext
  have happlies : e.condition.applies holds = true := by
    rw [hsame]
    exact (taken?_eq_some_iff.1 h).1
  exact Option.isSome_iff_exists.1 (List.find?_isSome.2 ⟨e, he, happlies⟩)

theorem ToldApart.symm (h : a.ToldApart b) : b.ToldApart a := by
  have hswap : ∀ x, x ∈ b.branches ++ a.branches ↔ x ∈ a.branches ++ b.branches := by
    intro x
    rw [List.mem_append, List.mem_append, or_comm]
  simpa only [ToldApart, hswap] using h

/-- Of rules that agree and tell conditions apart, one takes a branch if the other does; either the
two branches are under one condition and have the same actions, or the rules prefer one to the other
in opposite orders. -/
theorem taken?_cases (hagrees : a.Agrees b) (hapart : a.ToldApart b) (holds : Text → Bool) :
    (a.taken? holds = none ∧ b.taken? holds = none) ∨
      ∃ x y, a.taken? holds = some x ∧ b.taken? holds = some y ∧
        (x.actions = y.actions ∨ x.condition ≠ y.condition ∧ a.Prefers x y ∧ b.Prefers y x) := by
  cases ha : a.taken? holds with
  | none =>
    cases hb : b.taken? holds with
    | none => exact .inl ⟨rfl, rfl⟩
    | some y =>
      obtain ⟨x, hx⟩ := exists_taken? hapart (fun c => (hagrees.conditions c).2) hb
      rw [ha] at hx
      cases hx
  | some x =>
    obtain ⟨y, hb⟩ := exists_taken? hapart.symm (fun c => (hagrees.conditions c).1) ha
    have hxmem := List.mem_append_left b.branches (mem_of_taken? ha)
    have hymem := List.mem_append_right a.branches (mem_of_taken? hb)
    have hsame : ∀ e ∈ a.branches ++ b.branches, ∀ e' ∈ a.branches ++ b.branches,
        e.condition.text = e'.condition.text → e.condition = e'.condition :=
      fun e he e' he' => hapart.condition_eq he he'
    refine .inr ⟨x, y, rfl, hb, ?_⟩
    by_cases hcondition : x.condition = y.condition
    · have hx := stands_of_taken?
        (fun e he => hsame e (List.mem_append_left _ he) x hxmem) ha
      have hy := stands_of_taken?
        (fun e he => hsame e (List.mem_append_right _ he) y hymem) hb
      rw [← hcondition] at hy
      exact .inl (hagrees.actions _ x y hx hy)
    · refine .inr ⟨hcondition, ?_, ?_⟩
      · exact prefers_of_taken? (fun e he => hsame e (List.mem_append_left _ he) x hxmem)
          (fun e he => hsame e (List.mem_append_left _ he) y hymem) ha (taken?_eq_some_iff.1 hb).1
      · exact prefers_of_taken? (fun e he => hsame e (List.mem_append_right _ he) y hymem)
          (fun e he => hsame e (List.mem_append_right _ he) x hxmem) hb (taken?_eq_some_iff.1 ha).1

end Ruleset

/-! ## Rules without differences -/

open Ruleset in
/-- **Rules without differences behave alike exactly when branches whose order was turned around
have the same actions**, provided that no condition of theirs is mistaken for an `else` arm. -/
theorem conduct_eq_iff_of_isEmpty (a b : Ruleset) (hempty : (Delta.between a b).isEmpty = true)
    (hapart : a.ToldApart b) :
    (∀ holds, a.conduct holds = b.conduct holds) ↔
      ∀ x ∈ a.branches, ∀ y ∈ b.branches, x.condition ≠ y.condition →
        a.Prefers x y → b.Prefers y x → x.actions = y.actions := by
  constructor
  · intro halike x _ y _ _ hxy hyx
    let holds : Text → Bool := fun t => t = x.condition.text ∨ t = y.condition.text
    have hx : a.taken? holds = some x := taken?_of_prefers hxy (by simp [holds])
    have hy : b.taken? holds = some y := taken?_of_prefers hyx (by simp [holds, or_comm])
    have hconduct := halike holds
    rw [conduct, conduct, hx, hy] at hconduct
    exact Option.some.inj hconduct
  · intro hturned holds
    have hagrees := (Delta.exact_between a b).isEmpty_iff.1 hempty
    rw [conduct, conduct]
    rcases taken?_cases hagrees hapart holds with ⟨ha, hb⟩ | ⟨x, y, ha, hb, hcases⟩
    · rw [ha, hb]
    · have hactions : x.actions = y.actions := by
        rcases hcases with hactions | ⟨hcondition, hxy, hyx⟩
        · exact hactions
        · exact hturned x (mem_of_taken? ha) y (mem_of_taken? hb) hcondition hxy hyx
      rw [ha, hb, Option.map_some, Option.map_some, hactions]

/-- A rule with one fee for minors and for students. -/
def minorsFirst : Ruleset :=
  Script.parse
    "if (minor) \x7b\nfee = 1\n\x7d else if (student) \x7b\nfee = 1\n\x7d else \x7b\nfee = 2\n\x7d"

/-- The same rule, with students first. -/
def studentsFirst : Ruleset :=
  Script.parse
    "if (student) \x7b\nfee = 1\n\x7d else if (minor) \x7b\nfee = 1\n\x7d else \x7b\nfee = 2\n\x7d"

/-- Branches with the same actions may be turned around. -/
theorem conduct_minorsFirst_eq_studentsFirst :
    (Delta.between minorsFirst studentsFirst).isEmpty = true ∧
      minorsFirst.ToldApart studentsFirst ∧
      ∀ holds, minorsFirst.conduct holds = studentsFirst.conduct holds := by
  have hempty : (Delta.between minorsFirst studentsFirst).isEmpty = true := by decide +kernel
  have hapart : minorsFirst.ToldApart studentsFirst := by decide +kernel
  exact ⟨hempty, hapart, (conduct_eq_iff_of_isEmpty _ _ hempty hapart).2 (by decide +kernel)⟩

/-- Two branches with different actions. -/
def oneThenTwo : Text := "if (a) \x7b\nx = 1;\n\x7d else if (b) \x7b\nx = 2;\n\x7d"

/-- The same two, turned around. -/
def twoThenOne : Text := "if (b) \x7b\nx = 2;\n\x7d else if (a) \x7b\nx = 1;\n\x7d"

/-- A branch under a condition that is shown as an `else` arm is. -/
def underDefault : Text := "if (DEFAULT) \x7b\nx = DEFAULT;\n\x7d"

/-- An `else` arm in its place. -/
def inAnyCase : Text := "else \x7b\nx = DEFAULT;\n\x7d"

/-- **An empty delta alone does not make rules behave alike.**  Branches with different actions may
have been turned around, and an `else` arm may have taken the place of a condition. -/
theorem conduct_ne_of_isEmpty :
    ((Delta.between (Script.parse oneThenTwo) (Script.parse twoThenOne)).isEmpty = true ∧
        (Script.parse oneThenTwo).conduct (fun _ => true) ≠
          (Script.parse twoThenOne).conduct fun _ => true) ∧
      (Delta.between (Script.parse underDefault) (Script.parse inAnyCase)).isEmpty = true ∧
        (Script.parse underDefault).conduct (fun _ => false) ≠
          (Script.parse inAnyCase).conduct fun _ => false := by
  refine ⟨⟨?_, ?_⟩, ?_, ?_⟩ <;> decide +kernel

end RuleReview
