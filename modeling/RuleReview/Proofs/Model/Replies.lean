import RuleReview.Model.Analyst
import RuleReview.Proofs.Json.Values
import RuleReview.Proofs.Model.Payload
import RuleReview.Run.Execute

/-!
# Replies that are written as the program writes

A model that replies with the JSON of a verdict gives that verdict, and one that replies with a list
of test cases, as a run shows it, gives that list (`reads_back`).  What makes this more than a
round trip of JSON is that the JSON is looked for in the reply, between the first opening and the
last closing delimiter.  Such delimiters, and fences, may well stand inside strings.  But a reply
that is nothing but JSON begins and ends with a delimiter of its own, so the search finds all of it
(`Reply.between_unfence_enclosed`).
-/

set_option autoImplicit false

namespace RuleReview

open Text
open Json (Tree)

/-! ## Records -/

theorem Verdict.nodup_fields :
    (["ok", "missing", "rewrite_needed"] : List Text).Nodup := by decide

/-- A verdict is what its JSON form is read as. -/
theorem Verdict.ofTree?_tree (v : Verdict) : Verdict.ofTree? v.toJson.tree = .ok v := by
  have hrecord : v.toJson.tree.record? "a verdict" ["ok", "missing", "rewrite_needed"] 1 =
      .ok [("rewrite_needed", .bool v.rewriteNeeded), ("missing", (Json.texts v.missing).tree),
        ("ok", .bool v.ok)] :=
    Json.record?_object (by simp) Verdict.nodup_fields
  have hmissing : Tree.toList? Tree.toText? (Json.texts v.missing).tree = .ok v.missing :=
    Json.toList?_trees fun t _ => Json.text?_parts t
  rw [Verdict.ofTree?, hrecord]
  change (do
    let missing ← Tree.toList? Tree.toText? (Json.texts v.missing).tree
    .ok ⟨v.ok, missing, v.rewriteNeeded⟩ : Except Json.Fault Verdict) = _
  rw [hmissing]
  rfl

namespace TestCase

/-- A test case whose values are free-form values without floats. -/
structure Plain (c : TestCase) : Prop where
  /-- The inputs are a free-form value. -/
  input_freeForm : c.input.FreeForm
  /-- There is no float among the inputs. -/
  input_floatFree : c.input.FloatFree
  /-- The outputs are a free-form value. -/
  expected_freeForm : c.expected.FreeForm
  /-- There is no float among the outputs. -/
  expected_floatFree : c.expected.FloatFree

/-- The values of a test case stand within its JSON form. -/
theorem depth_lt_toJson (c : TestCase) :
    c.input.depth < c.toJson.depth ∧ c.expected.depth < c.toJson.depth := by
  simp only [toJson, Json.depth, Json.fieldsDepth]
  omega

theorem nodup_fields : (["name", "input", "expected", "note"] : List Text).Nodup := by decide

/-- A test case is read when each of its fields is. -/
theorem ofTree?_of_fields {t : Tree} {r : Tree.Record} {c : TestCase}
    (hrecord : t.record? "a test case" ["name", "input", "expected", "note"] 1 = .ok r)
    (hname : Tree.Record.required? r "name" Tree.toText? = .ok c.name)
    (hinput : Tree.Record.optional? r "input" Json.emptyObject (Tree.value? (Json.maxDepth - 2)) =
      .ok c.input)
    (hexpected : Tree.Record.optional? r "expected" Json.emptyObject
      (Tree.value? (Json.maxDepth - 2)) = .ok c.expected)
    (hnote : Tree.Record.optional? r "note" none (Tree.toOption? Tree.toText?) = .ok c.note) :
    ofTree? t = .ok c := by
  simp only [ofTree?, hrecord, hname, hinput, hexpected, hnote, bind, Except.bind]

/-- A test case is what its JSON form is read as, whether it has a remark or not. -/
theorem ofTree?_tree {c : TestCase} (h : c.Plain) (hdepth : c.toJson.depth < Json.maxDepth) :
    ofTree? c.toJson.tree = .ok c := by
  obtain ⟨hinputDepth, hexpectedDepth⟩ := c.depth_lt_toJson
  have hname : Json.text? (Json.parts c.name) = .ok c.name := Json.text?_parts c.name
  have hinput : c.input.tree.value? (Json.maxDepth - 2) = .ok c.input :=
    Json.value?_tree h.input_freeForm h.input_floatFree (by omega)
  have hexpected : c.expected.tree.value? (Json.maxDepth - 2) = .ok c.expected :=
    Json.value?_tree h.expected_freeForm h.expected_floatFree (by omega)
  obtain ⟨name, input, expected, note⟩ := c
  cases note with
  | none =>
    have hrecord : (toJson ⟨name, input, expected, none⟩).tree.record? "a test case"
        ["name", "input", "expected", "note"] 1 = .ok [("expected", expected.tree),
          ("input", input.tree), ("name", (Json.string name).tree)] :=
      Json.record?_object (by simp) (nodup_fields.sublist (by simp))
    exact ofTree?_of_fields hrecord hname hinput hexpected rfl
  | some note =>
    have hrecord : (toJson ⟨name, input, expected, some note⟩).tree.record? "a test case"
        ["name", "input", "expected", "note"] 1 = .ok [("note", (Json.string note).tree),
          ("expected", expected.tree), ("input", input.tree), ("name", (Json.string name).tree)] :=
      Json.record?_object (by simp) nodup_fields
    have hnote : (Json.text? (Json.parts note)).map some = .ok (some note) := by
      rw [Json.text?_parts]
      rfl
    exact ofTree?_of_fields hrecord hname hinput hexpected hnote

theorem floatFree_toJson {c : TestCase} (h : c.Plain) : c.toJson.FloatFree := by
  obtain ⟨name, input, expected, note⟩ := c
  have hname := Json.FloatFree.string name
  cases note with
  | none => exact .object (by simpa using ⟨hname, h.input_floatFree, h.expected_floatFree⟩)
  | some note =>
    exact .object (by simpa using
      ⟨hname, h.input_floatFree, h.expected_floatFree, Json.FloatFree.string note⟩)

/-- **A list of test cases is read back from the text that shows it.** -/
theorem parseList?_render {cases : List TestCase} (h : ∀ c ∈ cases, c.Plain)
    (hdepth : (Json.array (cases.map toJson)).depth < 128) :
    parseList? (render cases) = .ok cases := by
  have hfree : (Json.array (cases.map toJson)).FloatFree :=
    .array (List.forall_mem_map.2 fun c hc => floatFree_toJson (h c hc))
  have hitems : Tree.toList? ofTree? (Json.array (cases.map toJson)).tree = .ok cases := by
    refine Json.toList?_trees fun c hc => ofTree?_tree (h c hc) ?_
    have hle := Json.depth_le_itemsDepth (List.mem_map_of_mem (f := toJson) hc)
    exact Nat.lt_of_le_of_lt hle (Nat.lt_of_succ_lt_succ hdepth)
  rw [parseList?, Json.tree?, render, Json.parse?_pretty hfree]
  exact hitems

end TestCase

/-! ## What is found in a reply -/

namespace Reply

/-- The object that a reply consists of is found in it. -/
theorem object?_layout (l : Json.Layout) (fields : List (Text × Json)) :
    object? (l.value 0 (.object fields)) = some (l.value 0 (.object fields)) := by
  obtain ⟨inner, htext⟩ := l.value_object 0 fields
  rw [htext, object?]
  exact between_unfence_enclosed (by decide) (by decide) (by decide) inner

/-- The array that a reply consists of is found in it. -/
theorem array?_layout (l : Json.Layout) (items : List Json) :
    array? (l.value 0 (.array items)) = some (l.value 0 (.array items)) := by
  obtain ⟨inner, htext⟩ := l.value_array 0 items
  rw [htext, array?]
  exact between_unfence_enclosed (by decide) (by decide) (by decide) inner

end Reply

namespace Model

open TestCase (render)

theorem readReply_of_ok {α : Type} {role : ReplyRole} {parse : Text → Except Json.Fault α}
    {json : Text} {a : α} (hparse : parse json = .ok a) (reply : Text) :
    readReply role (some json) parse reply = .ok a := by
  simp only [readReply, hparse]

/-- A verdict is read from its JSON form in any layout. -/
theorem readVerdict_layout (l : Json.Layout) (v : Verdict) :
    readVerdict (l.value 0 v.toJson) = .ok v := by
  have hfree : v.toJson.FloatFree := .object (by
    simpa using ⟨Json.FloatFree.bool v.ok, Json.floatFree_texts v.missing, .bool v.rewriteNeeded⟩)
  have hparse : Verdict.parse? (l.value 0 v.toJson) = .ok v := by
    rw [Verdict.parse?, Json.tree?, Json.parse?_layout l hfree]
    exact v.ofTree?_tree
  rw [readVerdict, Verdict.toJson, Reply.object?_layout]
  exact readReply_of_ok hparse _

/-- Test cases are read from the text that shows them. -/
theorem readTests_render {cases : List TestCase} (h : ∀ c ∈ cases, c.Plain)
    (hdepth : (Json.array (cases.map TestCase.toJson)).depth < 128) :
    readTests (render cases) = .ok cases := by
  have hparse := TestCase.parseList?_render h hdepth
  rw [render, Json.pretty_eq] at hparse
  rw [readTests, render, Json.pretty_eq, Reply.array?_layout]
  exact readReply_of_ok hparse _

/-- The text that a step leaves behind which is answered with test cases. -/
theorem explanation_of_generateTests {inputs : List Text} {memory : Text} {st : Run.State}
    {rules : Ruleset} {resume : (Run.Call.tests rules).Reply → Run.State × List Run.Event}
    (h : st.act inputs memory .generateTests = .ask (.tests rules) resume)
    (cases : List TestCase) : (resume cases).1.explanation = render cases := by
  rw [Run.State.act] at h
  split at h
  · cases h
  · cases h
    rfl

variable {σ : Type}

/-- A role gives what is made of the reply. -/
theorem from_reply {α : Type} {ask : Effect σ Text} {reply : Text} {s s' : σ}
    (h : ask.from s = (.ok reply, s')) (read : Text → Except Failure α) :
    Effect.from (do Effect.ofExcept (read (← ask))) s = (read reply, s') := by
  rw [Effect.from] at h ⊢
  simp only [bind, ExceptT.bind, ExceptT.mk, StateT.bind]
  rw [h]
  rfl

/-- **What is written as JSON is read back from a reply.**  A reply that is the JSON of a verdict,
in either layout, gives this verdict.  A reply that is the text which a step of a run leaves for a
list of test cases gives this list, if the values in it have no floats and fewer than 128 containers
nest. -/
theorem reads_back (model : Generator σ) (rs : Ruleset) (s s' : σ) :
    (∀ (v : Verdict) (explanation reply : Text),
      reply = v.toJson.compact ∨ reply = v.toJson.pretty →
      (model (Prompt.verify rs explanation)).from s = (.ok reply, s') →
      (verify model rs explanation).from s = (.ok v, s')) ∧
    ∀ cases : List TestCase, (∀ c ∈ cases, c.Plain) →
      (Json.array (cases.map TestCase.toJson)).depth < 128 →
      ∀ (inputs : List Text) (memory : Text) (st : Run.State) (rules : Ruleset)
        (resume : (Run.Call.tests rules).Reply → Run.State × List Run.Event),
      st.act inputs memory .generateTests = .ask (.tests rules) resume →
      (model (Prompt.tests rs)).from s = (.ok (resume cases).1.explanation, s') →
      (tests model rs).from s = (.ok cases, s') := by
  constructor
  · intro v explanation reply hreply hmodel
    have hread : readVerdict reply = .ok v := by
      rcases hreply with rfl | rfl
      · rw [Json.compact_eq 0, readVerdict_layout]
      · rw [Json.pretty_eq, readVerdict_layout]
    rw [verify, from_reply hmodel, hread]
  · intro cases hplain hdepth inputs memory st rules resume hstep hmodel
    rw [explanation_of_generateTests hstep] at hmodel
    rw [tests, from_reply hmodel, readTests_render hplain hdepth]

/-- A model with one reply to everything. -/
def replying (reply : Text) : Generator Unit := fun _ => pure reply

/-- A verdict that quotes a fenced object, with a control character. -/
def fencedVerdict : Verdict where
  ok := false
  missing := ["```json\n\x7b\"ok\": true\x7d\n```", "a \\ b\x01"]
  rewriteNeeded := true

/-- A test case with nested inputs, a bracket in a string and no remark. -/
def nestedCase : TestCase where
  name := "bracket ]"
  input := .object [("a", .array [.null, .number (.integer (-5)), .string "]"]), ("b", .object [])]
  expected := .bool true
  note := none

theorem nestedCase_plain : nestedCase.Plain where
  input_freeForm := by
    have hitems : Json.FreeForm (.array [.null, .number (.integer (-5)), .string "]"]) :=
      .array (by simpa using ⟨.null, .integer (by decide) (by decide), .string _⟩)
    exact .object (by decide) (by simpa using ⟨hitems, .object (by simp) (by simp)⟩)
  input_floatFree := by
    have hitems : Json.FloatFree (.array [.null, .number (.integer (-5)), .string "]"]) :=
      .array (by simpa using ⟨.null, .integer (-5), .string _⟩)
    exact .object (by simpa using ⟨hitems, .object (by simp)⟩)
  expected_freeForm := .bool true
  expected_floatFree := .bool true

/-- The verdict is read back from both layouts, and the test case along with the one that a run
falls back on. -/
theorem fenced_reads_back :
    (verify (replying fencedVerdict.toJson.compact) (Script.parse []) "e").from () =
      (.ok fencedVerdict, ()) ∧
    (verify (replying fencedVerdict.toJson.pretty) (Script.parse []) "e").from () =
      (.ok fencedVerdict, ()) ∧
    (tests (replying (render [nestedCase, Run.errorCase])) (Script.parse [])).from () =
      (.ok [nestedCase, Run.errorCase], ()) := by
  have herror : Run.errorCase.Plain :=
    ⟨.object (by simp) (by simp), .object (by simp), .object (by simp) (by simp), .object (by simp)⟩
  have hplain : ∀ c ∈ [nestedCase, Run.errorCase], c.Plain := by
    simpa using ⟨nestedCase_plain, herror⟩
  have hdepth :
      (Json.array ([nestedCase, Run.errorCase].map TestCase.toJson)).depth < 128 := by decide
  refine ⟨?_, ?_, ?_⟩
  · exact (reads_back _ _ () ()).1 _ _ _ (.inl rfl) rfl
  · exact (reads_back _ _ () ()).1 _ _ _ (.inr rfl) rfl
  · have hread := (reads_back (replying (render [nestedCase, Run.errorCase])) (Script.parse [])
      () ()).2 _ hplain hdepth
    exact hread [] [] ⟨[Script.parse []], 0, [], none, [], []⟩ (Script.parse []) _ rfl rfl

end Model

end RuleReview
