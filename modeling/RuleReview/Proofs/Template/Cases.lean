import RuleReview.Proofs.Check.Coverage
import RuleReview.Proofs.Json.Spelling
import RuleReview.Template

/-!
# Test cases and coverage

The template analyst writes a test case for each branch of a ruleset, and the last check tells of
each output which branches assign it.  Both ask what a branch assigns, in different ways: the check
looks for a name among the targets of the branch, and the test case collects the targets in a table,
where a later assignment takes the place of an earlier one and an assignment to nothing is passed
over.  For the ruleset of a script the two agree.

## What is here

* `LastAssigns`, `Denotes` — the action that decides the value of a name, and the value.
* `find?_expectations_eq_some_iff`, `mem_keys_expectations_iff` — the table of a branch.
* `nodup_names_testCases` — the names of the test cases are told apart by the positions in them.
* `Foretells`, `Foretold`, `foretold_parse` — the test cases of a script.
-/

set_option autoImplicit false

namespace RuleReview

open Text
open Check (numbered pairwise_fst_numbered)

/-! ## Tables -/

/-- What is found at the end of a longer list, with only items of a kind behind it, is the new item
or was found before. -/
theorem exists_split_append_singleton {α : Type} {kind : α → Prop} {xs : List α} {x y : α} :
    (∃ front back, xs ++ [y] = front ++ x :: back ∧ ∀ z ∈ back, kind z) ↔
      y = x ∨ kind y ∧ ∃ front back, xs = front ++ x :: back ∧ ∀ z ∈ back, kind z := by
  constructor
  · rintro ⟨front, back, hsplit, hback⟩
    rcases List.eq_nil_or_concat back with rfl | ⟨before, z, rfl⟩
    · exact .inl (List.singleton_inj.1 (List.append_inj' hsplit rfl).2)
    · rw [List.concat_eq_append] at hsplit hback
      rw [← List.cons_append, ← List.append_assoc] at hsplit
      obtain ⟨rfl, hlast⟩ := List.append_inj' hsplit rfl
      obtain ⟨hbefore, hz⟩ := List.forall_mem_append.1 hback
      obtain rfl := List.singleton_inj.1 hlast
      exact .inr ⟨hz y List.mem_cons_self, front, before, rfl, hbefore⟩
  · rintro (rfl | ⟨hy, front, back, rfl, hback⟩)
    · exact ⟨xs, [], rfl, List.forall_mem_nil _⟩
    · refine ⟨front, back ++ [y], by rw [List.append_assoc, List.cons_append], ?_⟩
      exact List.forall_mem_append.2 ⟨hback, List.forall_mem_singleton.2 hy⟩

/-- The last entry of a key counts. -/
theorem Keyed.find?_ofList_eq_some_iff {α : Type} {entries : List (Text × α)} {key : Text}
    {value : α} :
    Keyed.find? key (Keyed.ofList entries) = some value ↔
      ∃ front back, entries = front ++ (key, value) :: back ∧ ∀ e ∈ back, e.1 ≠ key := by
  induction entries using List.reverseRecOn with
  | nil => simp [ofList, find?]
  | append_singleton entries e ih =>
    obtain ⟨k, v⟩ := e
    rw [ofList_append_singleton, find?_put, exists_split_append_singleton, Prod.mk.injEq]
    by_cases hkey : key = k
    · rw [if_pos hkey, Option.some.injEq]
      simp [hkey]
    · rw [if_neg hkey, ih]
      simp [Ne.symm hkey]

theorem Keyed.mem_keys_iff {α : Type} {table : Keyed α} {key : Text} :
    key ∈ table.keys ↔ ∃ value, table.find? key = some value := by
  induction table with
  | nil => simp [keys, find?]
  | cons entry rest ih =>
    obtain ⟨k, v⟩ := entry
    rw [keys, List.map_cons, List.mem_cons, find?]
    split
    · next h => simp [h]
    · next h => exact (or_iff_right h).trans ih

namespace Template

/-! ## What a branch assigns -/

/-- The last of some actions to assign to a name. -/
structure LastAssigns (actions : List Text) (name action : Text) : Prop where
  /-- It assigns to the name. -/
  assigns : assignedTo? action = some name
  /-- No action after it does. -/
  split : ∃ front back, actions = front ++ action :: back ∧
    ∀ later ∈ back, assignedTo? later ≠ some name

/-- The value that a right-hand side gives. -/
inductive Denotes (rhs : Text) : Json → Prop
  /-- A JSON text gives the value that it writes. -/
  | literal {value : Json} (h : Json.parse? rhs = .ok value) : Denotes rhs value
  /-- Any other text gives itself. -/
  | raw (h : ∀ value, Json.parse? rhs ≠ .ok value) : Denotes rhs (.string rhs)

theorem denotes_iff {rhs : Text} {value : Json} : Denotes rhs value ↔ literal rhs = value := by
  rw [literal]
  cases hparse : Json.parse? rhs with
  | ok v =>
    constructor
    · rintro (h | h)
      · rw [hparse] at h
        exact Except.ok.inj h
      · exact absurd hparse (h v)
    · rintro rfl
      exact .literal hparse
  | error fault =>
    constructor
    · rintro (h | h)
      · rw [hparse] at h
        cases h
      · rfl
    · rintro rfl
      exact .raw fun v h => by rw [hparse] at h; cases h

/-- The entry that an action makes in the table of its branch. -/
def expectation? (action : Text) : Option (Text × Json) :=
  match assignedTo? action, assignedValue? action with
  | some target, some value => if target.isEmpty then none else some (target, literal value)
  | _, _ => none

theorem expectations_eq (actions : List Text) :
    expectations actions = Keyed.ofList (actions.filterMap expectation?) := rfl

/-- An action makes an entry if it assigns to something. -/
theorem expectation?_eq_some_iff {action name : Text} {value : Json} :
    expectation? action = some (name, value) ↔
      name ≠ [] ∧ assignedTo? action = some name ∧
        ∃ rhs, assignedValue? action = some rhs ∧ Denotes rhs value := by
  rw [expectation?, assignedTo?, assignedValue?]
  cases cut '=' action with
  | none => simp
  | some parts =>
    simp only [Option.map_some, Option.some.injEq, exists_eq_left', denotes_iff]
    by_cases hempty : trim parts.1 = []
    · rw [if_pos (List.isEmpty_iff.2 hempty), hempty]
      exact iff_of_false (by simp) fun h => h.1 h.2.1.symm
    · rw [if_neg (by simpa using hempty), Option.some.injEq, Prod.mk.injEq]
      constructor
      · rintro ⟨rfl, rfl⟩
        exact ⟨hempty, rfl, rfl⟩
      · rintro ⟨-, hname, hvalue⟩
        exact ⟨hname, hvalue⟩

/-- An action that assigns to something makes an entry for it. -/
theorem exists_expectation?_iff {action name : Text} :
    (∃ value, expectation? action = some (name, value)) ↔
      name ≠ [] ∧ assignedTo? action = some name := by
  simp only [expectation?_eq_some_iff]
  constructor
  · rintro ⟨_, hne, hname, _⟩
    exact ⟨hne, hname⟩
  · rintro ⟨hne, hname⟩
    obtain ⟨parts, hcut, -⟩ := Option.map_eq_some_iff.1 hname
    have hrhs : assignedValue? action = some (trim parts.2) := by rw [assignedValue?, hcut]; rfl
    exact ⟨literal (trim parts.2), hne, hname, _, hrhs, denotes_iff.2 rfl⟩

/-- The keys of a branch's table are the names that it assigns. -/
theorem mem_keys_expectations_iff {actions : List Text} {name : Text} :
    name ∈ (expectations actions).keys ↔ name ≠ [] ∧ name ∈ actions.filterMap assignedTo? := by
  rw [expectations_eq, Keyed.keys_ofList, ← NameSet.mem_def, NameSet.mem_ofList, List.mem_map]
  constructor
  · rintro ⟨⟨_, value⟩, hentry, rfl⟩
    obtain ⟨action, hmem, haction⟩ := List.mem_filterMap.1 hentry
    obtain ⟨hne, hname⟩ := exists_expectation?_iff.1 ⟨value, haction⟩
    exact ⟨hne, List.mem_filterMap.2 ⟨action, hmem, hname⟩⟩
  · rintro ⟨hne, hname⟩
    obtain ⟨action, hmem, hassigns⟩ := List.mem_filterMap.1 hname
    obtain ⟨value, hentry⟩ := exists_expectation?_iff.2 ⟨hne, hassigns⟩
    exact ⟨(name, value), List.mem_filterMap.2 ⟨action, hmem, hentry⟩, rfl⟩

/-- The value of a name in a branch's table is that of the last assignment to it. -/
theorem find?_expectations_eq_some_iff {actions : List Text} {name : Text} {value : Json} :
    Keyed.find? name (expectations actions) = some value ↔
      name ≠ [] ∧ ∃ action rhs, LastAssigns actions name action ∧
        assignedValue? action = some rhs ∧ Denotes rhs value := by
  rw [expectations_eq, Keyed.find?_ofList_eq_some_iff]
  constructor
  · rintro ⟨front, back, hsplit, hback⟩
    obtain ⟨before, rest, rfl, -, hrest⟩ := List.filterMap_eq_append_iff.1 hsplit
    obtain ⟨skipped, action, later, rfl, -, haction, hlater⟩ := List.filterMap_eq_cons_iff.1 hrest
    obtain ⟨hne, hname, rhs, hrhs, hvalue⟩ := expectation?_eq_some_iff.1 haction
    refine ⟨hne, action, rhs, ⟨hname, before ++ skipped, later, by simp, fun a ha hagain => ?_⟩,
      hrhs, hvalue⟩
    obtain ⟨value', hentry⟩ := exists_expectation?_iff.2 ⟨hne, hagain⟩
    exact hback _ (hlater ▸ List.mem_filterMap.2 ⟨a, ha, hentry⟩) rfl
  · rintro ⟨hne, action, rhs, ⟨hname, front, back, rfl, hback⟩, hrhs, hvalue⟩
    have hentry := expectation?_eq_some_iff.2 ⟨hne, hname, rhs, hrhs, hvalue⟩
    refine ⟨front.filterMap expectation?, back.filterMap expectation?, ?_, fun e he hkey => ?_⟩
    · rw [List.filterMap_append, List.filterMap_cons_some hentry]
    · obtain ⟨later, hmem, hlater⟩ := List.mem_filterMap.1 he
      obtain ⟨_, hagain⟩ := exists_expectation?_iff.1 ⟨e.2, hlater⟩
      exact hback later hmem (hkey ▸ hagain)

/-! ## The names of test cases -/

theorem testCases_eq (rs : Ruleset) :
    testCases rs = (numbered rs.branches).map fun p => branchCase p.1 p.2 := by
  rw [testCases, numbered, List.map_map]
  rfl

theorem decimal_injective : Function.Injective decimal := by
  intro m n h
  rw [← Json.ofDigits_digits m, ← Json.ofDigits_digits n, Json.digits, Json.digits, h]

/-- The digits in the name of a test case are those of its position. -/
theorem takeWhile_isDigit_name (position : Nat) (b : Branch) :
    ((branchCase position b).name.drop 7).takeWhile Char.isDigit = decimal position := by
  have hdigits : ∀ c ∈ decimal position, c.isDigit = true :=
    fun c hc => Json.isDigit_of_mem_decimal hc
  have hname : (branchCase position b).name = "branch_".toList ++ decimal position ++
      (if b.condition.isDefault then "_default" else "").toList := rfl
  rw [hname, List.append_assoc, List.drop_left' (by decide), List.takeWhile_append_of_pos hdigits]
  cases b.condition.isDefault <;> simp

/-- Test cases are named differently. -/
theorem nodup_names_testCases (rs : Ruleset) : ((testCases rs).map (·.name)).Nodup := by
  rw [testCases_eq, List.map_map]
  refine List.pairwise_map.2 ((List.pairwise_map.1 (pairwise_fst_numbered rs.branches)).imp ?_)
  intro p q hlt hsame
  have hdecimal : decimal p.1 = decimal q.1 := by
    rw [← takeWhile_isDigit_name p.1 p.2, ← takeWhile_isDigit_name q.1 q.2]
    exact congrArg (fun name : Text => (name.drop 7).takeWhile Char.isDigit) hsame
  exact absurd (decimal_injective hdecimal) (Nat.ne_of_lt hlt)

/-! ## The test cases of a script -/

/-- That a test case foretells what the branch at a position, counted from zero, assigns. -/
structure Foretells (rs : Ruleset) (i : Nat) (b : Branch) (c : TestCase) : Prop where
  /-- It is about the condition of the branch. -/
  input : c.input = .object [("condition", .string b.condition.text)]
  /-- What it expects is a table with each key once and in order.  The keys are the outputs that the
  branch assigns according to the coverage, except for the empty one, and the value of each is that
  of the last assignment to it. -/
  expected : ∃ table : Keyed Json, c.expected = .object table ∧ table.keys.Pairwise (· < ·) ∧
    (∀ name, name ∈ table.keys ↔ name ≠ [] ∧ ∃ coverage,
      (name, coverage) ∈ (Check.Coverage.of rs).outputs ∧ i + 1 ∈ coverage.assignedIn) ∧
    ∀ name ∈ table.keys, ∃ action rhs value, LastAssigns b.actions name action ∧
      assignedValue? action = some rhs ∧ Denotes rhs value ∧ table.find? name = some value

/-- That test cases foretell what the branches of a ruleset assign. -/
structure Foretold (rs : Ruleset) (cases : List TestCase) : Prop where
  /-- There is one for each branch. -/
  length_eq : cases.length = rs.branches.length
  /-- They are named differently. -/
  nodup_names : (cases.map (·.name)).Nodup
  /-- They are in the order of the branches, and each foretells what its branch assigns. -/
  foretells : ∀ i b, rs.branches[i]? = some b → ∃ c, cases[i]? = some c ∧ Foretells rs i b c

/-- Of a script, the coverage lists the outputs that a branch assigns. -/
theorem exists_coverage_iff {text name : Text} {i : Nat} {b : Branch}
    (hget : (Script.parse text).branches[i]? = some b) :
    (∃ coverage, (name, coverage) ∈ (Check.Coverage.of (Script.parse text)).outputs ∧
      i + 1 ∈ coverage.assignedIn) ↔ name ∈ b.assigned := by
  constructor
  · rintro ⟨coverage, hentry, hposition⟩
    have hcoverage : coverage = Check.OutputCoverage.of (Script.parse text) name :=
      ((Check.Coverage.mem_outputs_iff _).1 hentry).2
    rw [hcoverage] at hposition
    obtain ⟨j, b', hj, hget', hassigned⟩ :=
      ((Check.OutputCoverage.parts_of _ name).assigned_iff (i + 1)).1 hposition
    rw [← Nat.succ.inj hj, hget] at hget'
    exact Option.some.inj hget' ▸ hassigned
  · intro hassigned
    have houtput : name ∈ (Script.parse text).outputs :=
      (Script.mem_outputs_parse_iff text name).2 ⟨b, List.mem_of_getElem? hget, hassigned⟩
    exact ⟨Check.OutputCoverage.of (Script.parse text) name,
      (Check.Coverage.mem_outputs_iff _).2 ⟨houtput, rfl⟩,
      ((Check.OutputCoverage.parts_of _ name).assigned_iff (i + 1)).2 ⟨i, b, rfl, hget, hassigned⟩⟩

theorem foretells_branchCase {text : Text} {i : Nat} {b : Branch}
    (hget : (Script.parse text).branches[i]? = some b) :
    Foretells (Script.parse text) i b (branchCase (i + 1) b) where
  input := rfl
  expected := by
    refine ⟨expectations b.actions, rfl, ?sorted, fun name => ?keys, fun name hname => ?values⟩
    case sorted =>
      rw [expectations_eq, Keyed.keys_ofList]
      exact NameSet.sorted _
    case keys =>
      rw [mem_keys_expectations_iff, exists_coverage_iff hget]
      rfl
    case values =>
      obtain ⟨value, hvalue⟩ := Keyed.mem_keys_iff.1 hname
      obtain ⟨-, action, rhs, hlast, hrhs, hdenotes⟩ := find?_expectations_eq_some_iff.1 hvalue
      exact ⟨action, rhs, value, hlast, hrhs, hdenotes, hvalue⟩

/-- **The test cases of a script agree with its coverage.** -/
theorem foretold_parse (text : Text) :
    Foretold (Script.parse text) (testCases (Script.parse text)) where
  length_eq := by rw [testCases, List.length_map, List.length_zipIdx]
  nodup_names := nodup_names_testCases _
  foretells i b hget := by
    refine ⟨branchCase (i + 1) b, ?_, foretells_branchCase hget⟩
    rw [testCases_eq, List.getElem?_map, Check.getElem?_numbered, hget]
    rfl

-- The last assignment counts, one to nothing does not, and what is no JSON is a string.
example : expectations ["x = 1", "= 5", "y = big", "x = [2]"] =
    [(("x" : Text), Json.array [.number (.integer 2)]), (("y" : Text), .string "big")] := by
  cbv

end Template
end RuleReview
