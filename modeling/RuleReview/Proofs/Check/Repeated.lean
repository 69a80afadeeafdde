import RuleReview.Proofs.Check.Positions
import RuleReview.Proofs.Delta.Mirror

/-!
# Conditions that are repeated

The check of the conditions goes through the branches once and keeps a table of the conditions that
it has met, each with the position where it met it first.  What it lists is said here without a
table: a branch is shadowed if its condition is not empty and is that of an earlier branch, and the
first such branch is named with it (`Repeats`).

The comparison of rulesets takes the first branch for each condition too, so a branch that is
shadowed is one that it never looks at.  Without the shadowed branches a ruleset is the same to it
(`unshadowed_agrees`).  The comparison goes by the texts of conditions, to which an `else` arm and a
condition `DEFAULT` are the same, but a branch repeats the condition of another only if it has its
text too.

## What is here

* `firstAt?` — the first position of a condition; `Recalls` — what the table of the check holds.
* `shadowedFrom_eq_filterMap` — the check looks up each condition in the whole ruleset.
* `HoldsAt`, `Repeats` — what the positions mean that the check lists.
* `unshadowed` — a ruleset without its shadowed branches.
* `conditions_exact` — what the check of the conditions finds.
-/

set_option autoImplicit false

namespace RuleReview
namespace Check

/-! ## The first position of a condition -/

section First

variable {c : Condition} {p : Nat} {l earlier later : List (Nat × Branch)}

/-- The position of the first branch under a condition. -/
def firstAt? (c : Condition) (l : List (Nat × Branch)) : Option Nat :=
  (l.find? (·.2.condition = c)).map (·.1)

theorem firstAt?_append (c : Condition) (l later : List (Nat × Branch)) :
    firstAt? c (l ++ later) = (firstAt? c l).or (firstAt? c later) := by
  rw [firstAt?, List.find?_append, Option.map_or]
  rfl

theorem firstAt?_cons_of_eq {e : Nat × Branch} (h : e.2.condition = c) (l : List (Nat × Branch)) :
    firstAt? c (e :: l) = some e.1 := by
  rw [firstAt?, List.find?_cons_of_pos (by simpa using h)]
  rfl

theorem firstAt?_cons_of_ne {e : Nat × Branch} (h : e.2.condition ≠ c) (l : List (Nat × Branch)) :
    firstAt? c (e :: l) = firstAt? c l := by
  rw [firstAt?, List.find?_cons_of_neg (by simpa using h), firstAt?]

/-- The first branch of a kind has the least position. -/
theorem fst_le_of_find?_eq_some (hl : (l.map (·.1)).Pairwise (· < ·)) (kind : Branch → Bool)
    {e : Nat × Branch} (h : l.find? (kind ·.2) = some e) :
    ∀ e' ∈ l, kind e'.2 = true → e.1 ≤ e'.1 := by
  intro e' hmem hkind
  obtain ⟨-, front, back, rfl, hfront⟩ := List.find?_eq_some_iff_append.1 h
  rcases List.mem_append.1 hmem with hearlier | hlater
  · exact absurd (hfront e' hearlier) (by simp [hkind])
  · rcases List.mem_cons.1 hlater with rfl | hback
    · exact Nat.le_refl _
    · rw [List.map_append, List.map_cons, List.pairwise_append, List.pairwise_cons] at hl
      exact Nat.le_of_lt (hl.2.1.1 _ (List.mem_map_of_mem hback))

theorem firstAt?_eq_some_iff (hl : (l.map (·.1)).Pairwise (· < ·)) :
    firstAt? c l = some p ↔
      (∃ b, (p, b) ∈ l ∧ b.condition = c) ∧ ∀ e ∈ l, e.2.condition = c → p ≤ e.1 := by
  have hleast := fun e => fst_le_of_find?_eq_some hl (·.condition = c) (e := e)
  rw [firstAt?, Option.map_eq_some_iff]
  constructor
  · rintro ⟨e, hfind, rfl⟩
    refine ⟨⟨e.2, List.mem_of_find?_eq_some hfind, by simpa using List.find?_some hfind⟩, ?_⟩
    exact fun e' hmem heq => hleast e hfind e' hmem (by simpa using heq)
  · rintro ⟨⟨b, hmem, hcondition⟩, hfirst⟩
    have hfound : (l.find? (·.2.condition = c)).isSome = true :=
      List.find?_isSome.2 ⟨(p, b), hmem, by simpa using hcondition⟩
    obtain ⟨e, hfind⟩ := Option.isSome_iff_exists.1 hfound
    have hle : e.1 ≤ p := hleast e hfind (p, b) hmem (by simpa using hcondition)
    have hge : p ≤ e.1 :=
      hfirst e (List.mem_of_find?_eq_some hfind) (by simpa using List.find?_some hfind)
    exact ⟨e, hfind, Nat.le_antisymm hle hge⟩

/-- What comes first stands before all that is later. -/
theorem lt_of_firstAt?_eq_some (hl : ((l ++ later).map (·.1)).Pairwise (· < ·))
    (h : firstAt? c l = some p) {e : Nat × Branch} (he : e ∈ later) : p < e.1 := by
  rw [List.map_append, List.pairwise_append] at hl
  obtain ⟨⟨b, hb, -⟩, -⟩ := (firstAt?_eq_some_iff hl.1).1 h
  exact hl.2.2 p (List.mem_map_of_mem hb) e.1 (List.mem_map_of_mem he)

/-! ## The check -/

/-- That a table holds the first position of every condition that is not empty. -/
def Recalls (seen : List (Text × Nat)) (earlier : List (Nat × Branch)) : Prop :=
  ∀ t, t ≠ [] → seen.lookup t = firstAt? (.expr t) earlier

/-- A branch that the check passes over is not looked for later. -/
theorem Recalls.skip {seen : List (Text × Nat)} {e : Nat × Branch} (h : Recalls seen earlier)
    (he : ∀ t, t ≠ [] → e.2.condition = .expr t → (seen.lookup t).isSome = true) :
    Recalls seen (earlier ++ [e]) := by
  intro t ht
  rw [firstAt?_append, ← h t ht]
  by_cases hcondition : e.2.condition = .expr t
  · rw [Option.or_of_isSome (he t ht hcondition)]
  · rw [firstAt?_cons_of_ne hcondition, firstAt?, List.find?_nil, Option.map_none, Option.or_none]

/-- A condition that is new is put into the table. -/
theorem Recalls.put {seen : List (Text × Nat)} {e : Nat × Branch} {t : Text}
    (h : Recalls seen earlier) (he : e.2.condition = .expr t) (hnew : seen.lookup t = none) :
    Recalls ((t, e.1) :: seen) (earlier ++ [e]) := by
  intro u hu
  rw [firstAt?_append, ← h u hu, List.lookup_cons]
  by_cases hut : u = t
  · rw [hut, beq_self_eq_true, hnew, firstAt?_cons_of_eq he, Option.none_or]
  · have hcondition : e.2.condition ≠ .expr u := fun heq =>
      hut (Condition.expr.inj (heq.symm.trans he))
    rw [beq_eq_false_iff_ne.2 hut, firstAt?_cons_of_ne hcondition, firstAt?, List.find?_nil,
      Option.map_none, Option.or_none]

/-- What is listed of a branch, if branches before it have its condition. -/
def repetition? (all : List (Nat × Branch)) (e : Nat × Branch) : Option Shadowed :=
  match e.2.condition with
  | .default => none
  | .expr t =>
    if t = [] then none
    else ((firstAt? (.expr t) all).filter (· < e.1)).map fun first => ⟨e.1, first, t⟩

theorem repetition?_eq_some_iff {all : List (Nat × Branch)} {e : Nat × Branch} {s : Shadowed} :
    repetition? all e = some s ↔
      s.branch = e.1 ∧ e.2.condition = .expr s.condition ∧ s.condition ≠ [] ∧
        firstAt? (.expr s.condition) all = some s.firstSeen ∧ s.firstSeen < s.branch := by
  obtain ⟨branch, firstSeen, condition⟩ := s
  rw [repetition?]
  cases e.2.condition with
  | default => simp
  | expr t =>
    by_cases ht : t = []
    · simp only [if_pos ht]
      refine iff_of_false (by simp) ?_
      rintro ⟨-, hcondition, hgiven, -⟩
      exact hgiven ((Condition.expr.inj hcondition).symm.trans ht)
    · simp only [if_neg ht, Option.map_eq_some_iff, Option.filter_eq_some_iff, Shadowed.mk.injEq,
        Condition.expr.injEq, decide_eq_true_eq]
      constructor
      · rintro ⟨first, ⟨hfirst, hlt⟩, rfl, rfl, rfl⟩
        exact ⟨rfl, rfl, ht, hfirst, hlt⟩
      · rintro ⟨rfl, rfl, -, hfirst, hlt⟩
        exact ⟨firstSeen, ⟨hfirst, hlt⟩, rfl, rfl, rfl⟩

/-- **The check looks up the condition of each branch among all branches.** -/
theorem shadowedFrom_eq_filterMap {seen : List (Text × Nat)} (hseen : Recalls seen earlier)
    (hordered : ((earlier ++ later).map (·.1)).Pairwise (· < ·)) :
    shadowedFrom seen later = later.filterMap (repetition? (earlier ++ later)) := by
  fun_induction shadowedFrom seen later generalizing earlier with
  | case1 => rfl
  | case2 seen i b rest hdefault ih =>
    have hnone : repetition? (earlier ++ (i, b) :: rest) (i, b) = none := by
      rw [repetition?, hdefault]
    rw [List.filterMap_cons_none hnone, List.append_cons]
    refine ih (hseen.skip fun t _ heq => ?_) (by rwa [List.append_cons] at hordered)
    cases hdefault.symm.trans heq
  | case3 seen i b rest t hexpr hempty ih =>
    have hnone : repetition? (earlier ++ (i, b) :: rest) (i, b) = none := by
      simp only [repetition?, hexpr, if_pos (List.isEmpty_iff.1 hempty)]
    rw [List.filterMap_cons_none hnone, List.append_cons]
    refine ih (hseen.skip fun u hu heq => absurd ?_ hu) (by rwa [List.append_cons] at hordered)
    exact (Condition.expr.inj (heq.symm.trans hexpr)).trans (List.isEmpty_iff.1 hempty)
  | case4 seen i b rest t hexpr hgiven first hlookup ih =>
    have ht : t ≠ [] := fun h => hgiven (List.isEmpty_iff.2 h)
    have hfirst : firstAt? (.expr t) earlier = some first := (hseen t ht).symm.trans hlookup
    have hsome : repetition? (earlier ++ (i, b) :: rest) (i, b) = some ⟨i, first, t⟩ := by
      refine repetition?_eq_some_iff.2 ⟨rfl, hexpr, ht, ?_, ?_⟩
      · rw [firstAt?_append, hfirst, Option.some_or]
      · exact lt_of_firstAt?_eq_some hordered hfirst List.mem_cons_self
    rw [List.filterMap_cons_some hsome, List.append_cons]
    refine congrArg _ (ih (hseen.skip fun u _ heq => ?_) (by rwa [List.append_cons] at hordered))
    rw [← Condition.expr.inj (hexpr.symm.trans heq), hlookup]
    rfl
  | case5 seen i b rest t hexpr hgiven hlookup ih =>
    have ht : t ≠ [] := fun h => hgiven (List.isEmpty_iff.2 h)
    have hfirst : firstAt? (.expr t) (earlier ++ (i, b) :: rest) = some i := by
      rw [firstAt?_append, ← hseen t ht, hlookup, Option.none_or, firstAt?_cons_of_eq hexpr]
    have hnone : repetition? (earlier ++ (i, b) :: rest) (i, b) = none := by
      rw [Option.eq_none_iff_forall_ne_some]
      intro s hs
      obtain ⟨hbranch, hcondition, -, hearlier, hlt⟩ := repetition?_eq_some_iff.1 hs
      rw [← Condition.expr.inj (hexpr.symm.trans hcondition), hfirst] at hearlier
      rw [hbranch, ← Option.some.inj hearlier] at hlt
      exact Nat.lt_irrefl i hlt
    rw [List.filterMap_cons_none hnone, List.append_cons]
    exact ih (hseen.put (e := (i, b)) hexpr hlookup) (by rwa [List.append_cons] at hordered)

end First

/-! ## What is listed -/

section Listed

variable {rs : Ruleset} {c : Condition} {p : Nat}

/-- That the branch at a position is under a condition. -/
def HoldsAt (rs : Ruleset) (p : Nat) (c : Condition) : Prop :=
  ∃ i b, p = i + 1 ∧ rs.branches[i]? = some b ∧ b.condition = c

theorem holdsAt_iff : HoldsAt rs p c ↔ ∃ b, (p, b) ∈ numbered rs.branches ∧ b.condition = c := by
  simp only [HoldsAt, mem_numbered_iff]
  constructor
  · rintro ⟨i, b, hp, hget, hc⟩
    exact ⟨b, ⟨i, hp, hget⟩, hc⟩
  · rintro ⟨b, ⟨i, hp, hget⟩, hc⟩
    exact ⟨i, b, hp, hget, hc⟩

/-- There is one branch at a position. -/
theorem HoldsAt.unique {d : Condition} (h : HoldsAt rs p c) (h' : HoldsAt rs p d) : c = d := by
  obtain ⟨i, b, rfl, hget, rfl⟩ := h
  obtain ⟨j, b', hij, hget', rfl⟩ := h'
  obtain rfl := Nat.succ.inj hij
  rw [Option.some.inj (hget.symm.trans hget')]

/-- That a branch has the condition of an earlier one, and which is the first that has it. -/
structure Repeats (rs : Ruleset) (s : Shadowed) : Prop where
  /-- The condition is not empty. -/
  given : s.condition ≠ []
  /-- The branch has the condition. -/
  branch : HoldsAt rs s.branch (.expr s.condition)
  /-- Another one before it has the condition. -/
  first : HoldsAt rs s.firstSeen (.expr s.condition)
  earlier : s.firstSeen < s.branch
  /-- No branch before that has it. -/
  least : ∀ q, HoldsAt rs q (.expr s.condition) → s.firstSeen ≤ q

theorem shadowed_eq_filterMap (rs : Ruleset) :
    (Conditions.of rs).shadowed =
      (numbered rs.branches).filterMap (repetition? (numbered rs.branches)) := by
  have hnothing : Recalls [] [] := fun _ _ => rfl
  exact shadowedFrom_eq_filterMap hnothing (pairwise_fst_numbered rs.branches)

/-- Listed are the branches that repeat a condition. -/
theorem mem_shadowed_iff {s : Shadowed} : s ∈ (Conditions.of rs).shadowed ↔ Repeats rs s := by
  simp only [shadowed_eq_filterMap, List.mem_filterMap, repetition?_eq_some_iff,
    firstAt?_eq_some_iff (pairwise_fst_numbered rs.branches)]
  constructor
  · rintro ⟨⟨_, b⟩, hmem, rfl, hcondition, hgiven, ⟨hfirst, hleast⟩, hlt⟩
    refine ⟨hgiven, holdsAt_iff.2 ⟨b, hmem, hcondition⟩, holdsAt_iff.2 hfirst, hlt, ?_⟩
    intro q hq
    obtain ⟨b', hmem', hcondition'⟩ := holdsAt_iff.1 hq
    exact hleast (q, b') hmem' hcondition'
  · rintro ⟨hgiven, hbranch, hfirst, hlt, hleast⟩
    obtain ⟨b, hmem, hcondition⟩ := holdsAt_iff.1 hbranch
    refine ⟨(s.branch, b), hmem, rfl, hcondition, hgiven, ⟨holdsAt_iff.1 hfirst, ?_⟩, hlt⟩
    exact fun e he heq => hleast e.1 (holdsAt_iff.2 ⟨e.2, he, heq⟩)

/-- They are listed in their order. -/
theorem pairwise_shadowed (rs : Ruleset) :
    ((Conditions.of rs).shadowed.map (·.branch)).Pairwise (· < ·) := by
  rw [shadowed_eq_filterMap, List.pairwise_map, List.pairwise_filterMap]
  refine (List.pairwise_map.1 (pairwise_fst_numbered rs.branches)).imp ?_
  intro e e' hlt s hs s' hs'
  rw [(repetition?_eq_some_iff.1 hs).1, (repetition?_eq_some_iff.1 hs').1]
  exact hlt

end Listed

/-! ## Without the shadowed branches -/

/-- A ruleset without the branches that its check lists as shadowed. -/
def unshadowed (rs : Ruleset) : Ruleset :=
  { rs with
    branches := ((numbered rs.branches).filter
      (·.1 ∉ (Conditions.of rs).shadowed.map (·.branch))).map (·.2) }

/-- What comes first is found as before, if it is not left out. -/
theorem find?_filter_of_keep {α : Type} {kind keep : α → Bool} {l : List α}
    (h : ∀ x, l.find? kind = some x → keep x = true) :
    (l.filter keep).find? kind = l.find? kind := by
  induction l with
  | nil => rfl
  | cons x l ih =>
    cases hkind : kind x with
    | true =>
      rw [List.find?_cons_of_pos hkind] at h
      rw [List.filter_cons_of_pos (h x rfl), List.find?_cons_of_pos hkind,
        List.find?_cons_of_pos hkind]
    | false =>
      rw [List.find?_cons_of_neg (by simpa using hkind)] at h ⊢
      rw [List.filter_cons]
      split
      · rw [List.find?_cons_of_neg (by simpa using hkind), ih h]
      · exact ih h

/-- No branch that stands for a condition is shadowed. -/
theorem find?_unshadowed (rs : Ruleset) (condition : Text) :
    (unshadowed rs).find? condition = rs.find? condition := by
  have hkept : ∀ e, (numbered rs.branches).find? (·.2.condition.text = condition) = some e →
      decide (e.1 ∉ (Conditions.of rs).shadowed.map (·.branch)) = true := by
    intro e hfind
    rw [decide_eq_true_eq, List.mem_map]
    rintro ⟨s, hs, hbranch⟩
    have hrepeats := mem_shadowed_iff.1 hs
    have hat : HoldsAt rs e.1 e.2.condition :=
      holdsAt_iff.2 ⟨e.2, List.mem_of_find?_eq_some hfind, rfl⟩
    have hcondition : e.2.condition = .expr s.condition :=
      hat.unique (hbranch ▸ hrepeats.branch)
    obtain ⟨b, hmem, hb⟩ := holdsAt_iff.1 hrepeats.first
    have htext : b.condition.text = condition := by
      rw [hb, ← hcondition]
      simpa using List.find?_some hfind
    have hle : e.1 ≤ s.firstSeen :=
      fst_le_of_find?_eq_some (pairwise_fst_numbered rs.branches) (·.condition.text = condition)
        hfind (s.firstSeen, b) hmem (by simpa using htext)
    exact Nat.lt_irrefl _ (Nat.lt_of_le_of_lt hle (hbranch ▸ hrepeats.earlier))
  rw [Ruleset.find?, unshadowed, List.find?_map, Ruleset.find?]
  conv_rhs => rw [← map_snd_numbered rs.branches, List.find?_map]
  exact congrArg (Option.map _) (find?_filter_of_keep hkept)

theorem unshadowed_agrees (rs : Ruleset) : (unshadowed rs).Agrees rs where
  conditions condition := by
    rw [← not_iff_not, ← Ruleset.find?_eq_none_iff, ← Ruleset.find?_eq_none_iff, find?_unshadowed]
  actions condition x y hx hy := by
    rw [← Ruleset.find?_eq_some_iff, find?_unshadowed, Ruleset.find?_eq_some_iff] at hx
    rw [hx.unique hy]
  mentions := rfl
  outputs := rfl

/-! ## What the check finds -/

/-- That what a check of the conditions lists is what there is to list. -/
structure Conditions.Exact (rs : Ruleset) (found : Conditions) : Prop where
  /-- Empty conditions are listed by their positions. -/
  empty_iff : ∀ p, p ∈ found.emptyConditions ↔ HoldsAt rs p (.expr [])
  empty_order : found.emptyConditions.Pairwise (· < ·)
  /-- Shadowed branches are listed, each with the first branch that has its condition. -/
  shadowed_iff : ∀ s, s ∈ found.shadowed ↔ Repeats rs s
  shadowed_order : (found.shadowed.map (·.branch)).Pairwise (· < ·)

theorem Conditions.exact_of (rs : Ruleset) : (Conditions.of rs).Exact rs where
  empty_iff p := by
    have hkind : p ∈ positionsOf (·.condition = .expr []) rs.branches ↔ _ := mem_positionsOf_iff
    simp only [decide_eq_true_eq] at hkind
    exact hkind
  empty_order := pairwise_positionsOf (·.condition = .expr []) rs.branches
  shadowed_iff _ := mem_shadowed_iff
  shadowed_order := pairwise_shadowed rs

/-- **The check of the conditions lists the empty ones and those that are repeated, and the
repetitions can be left out without any effect on a comparison.** -/
theorem conditions_exact (rs : Ruleset) :
    (Conditions.of rs).Exact rs ∧
      (∀ s ∈ (Conditions.of rs).shadowed,
        ¬ HoldsAt rs s.branch .default ∧ ¬ HoldsAt rs s.branch (.expr [])) ∧
      ∀ d ∈ [Delta.between rs (unshadowed rs), Delta.between (unshadowed rs) rs],
        d.addedBranches = [] ∧ d.removedBranches = [] ∧ d.changedBranches = [] := by
  refine ⟨Conditions.exact_of rs, fun s hs => ?_, ?_⟩
  · have hrepeats := mem_shadowed_iff.1 hs
    refine ⟨fun hdefault => ?_, fun hempty => ?_⟩
    · cases hdefault.unique hrepeats.branch
    · exact hrepeats.given (Condition.expr.inj (hempty.unique hrepeats.branch)).symm
  · have hagrees := unshadowed_agrees rs
    have hempty : ∀ a b : Ruleset, a.Agrees b → (Delta.between a b).addedBranches = [] ∧
        (Delta.between a b).removedBranches = [] ∧ (Delta.between a b).changedBranches = [] := by
      intro a b hab
      have h := (Delta.exact_between a b).isEmpty_iff.2 hab
      simp only [Delta.isEmpty, Bool.and_eq_true, List.isEmpty_iff] at h
      exact ⟨h.1.1.1.1.1.1, h.1.1.1.1.1.2, h.1.1.1.1.2⟩
    simp only [List.forall_mem_cons, List.not_mem_nil, false_imp_iff, implies_true, and_true]
    exact ⟨hempty _ _ hagrees.symm, hempty _ _ hagrees⟩

/-- Of three branches with one condition the first is kept; an `else` arm is no repetition of the
condition `DEFAULT`, although the comparison cannot tell them apart. -/
example :
    (Conditions.of
      { branches := [⟨.expr "a", []⟩, ⟨.expr [], []⟩, ⟨.expr "a", []⟩, ⟨.expr "DEFAULT", []⟩,
          ⟨.expr "a", []⟩, ⟨.expr [], []⟩, ⟨.default, []⟩]
        mentions := .empty, outputs := .empty }) =
      { emptyConditions := [2, 6], shadowed := [⟨3, 1, "a"⟩, ⟨5, 1, "a"⟩] } := by
  decide

end Check
end RuleReview
