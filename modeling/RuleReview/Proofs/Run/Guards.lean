import RuleReview.Proofs.Run.Ledger

/-!
# When the verifier and the rewriter are asked

Steps may come in any order and number, so a verifying or a rewriting step cannot count on what it
needs.  Whether it asks, and what it asks for, is decided by the history of the run alone: by the
rulesets read so far, the text written last and the latest verdict.

## What is here

* `Call.step` — every request belongs to a step of its own.
* `VerifyTurn`, `RewriteTurn` — how such a step goes in view of the turns before it.
* `verify_and_rewrite_guarded` — every turn of every run goes so, and after it a run in which the
  rewriter is asked.
-/

set_option autoImplicit false

namespace RuleReview
namespace Run

variable {σ : Type}

/-! ## Requests and steps -/

/-- The step that makes a request. -/
def Call.step : Call → Step
  | .check _ => .staticChecks
  | .retrieve _ => .retrieveContext
  | .explain _ _ => .explain
  | .verify _ _ => .verify
  | .rewrite _ _ _ => .rewrite
  | .compare _ _ => .diff
  | .tests _ => .generateTests

theorem step_of_call? {inputs : List Text} {memory : Text} {s : State} {step : Step} {call : Call}
    (h : (s.act inputs memory step).call? = some call) : call.step = step := by
  cases step with
  | parse | staticChecks | explain | verify | rewrite | generateTests | diff =>
    simp only [State.act] at h
    split at h <;> cases h <;> rfl
  | retrieveContext => cases h; rfl
  | unknown id => cases h

theorem turn_of_done {c : Collaborators σ} {inputs : List Text} {memory : Text} {step : Step}
    {s after : State} {events : List Event} (h : s.act inputs memory step = .done after events)
    (w : σ) : (turn c inputs memory step s w).1 = ⟨step, s, none, after, events⟩ := by
  rw [turn, h]

/-! ## The two guards -/

/-- How a verifying step goes after other turns. -/
structure VerifyTurn (inputs : List Text) (past : List Turn) (t : Turn) : Prop where
  /-- It asks if there is a ruleset and a text. -/
  asks_iff : t.asked?.isSome ↔ parsedBy inputs past ≠ [] ∧ explanationOf past ≠ []
  /-- It asks about the ruleset read last and the text written last. -/
  request : ∀ call, t.asked? = some call → ∃ rules,
    (parsedBy inputs past).getLast? = some rules ∧ call = .verify rules (explanationOf past)
  /-- Otherwise it comes to a verdict by itself. -/
  alone : t.asked? = none →
    t.after = { t.before with verdict := some ⟨false, [nothingToVerify], true⟩ } ∧
      told [t] = [⟨"verify", .object [("missing", .texts [nothingToVerify]), ("ok", .bool false),
        ("rewrite_needed", .bool true)]⟩]

/-- How a rewriting step goes after other turns. -/
structure RewriteTurn (inputs : List Text) (past : List Turn) (t : Turn) : Prop where
  /-- It asks if the latest verdict is that the text failed, and there is a ruleset and a text. -/
  asks_iff : t.asked?.isSome ↔ (∃ verdict, verdictOf past = some verdict ∧ verdict.ok = false) ∧
    parsedBy inputs past ≠ [] ∧ explanationOf past ≠ []
  /-- It asks about the ruleset read last and the text written last, and passes on what the latest
  verdict found missing. -/
  request : ∀ call, t.asked? = some call → ∃ rules verdict,
    (parsedBy inputs past).getLast? = some rules ∧ verdictOf past = some verdict ∧
      call = .rewrite rules (explanationOf past) verdict.missing
  /-- Otherwise it leaves everything as it is, and tells of the latest verdict. -/
  alone : t.asked? = none →
    t.after = t.before ∧ told [t] =
      [⟨"rewrite_skipped", .object [("ok", Json.nullable .bool ((verdictOf past).map (·.ok)))]⟩]

section Act

variable {inputs : List Text} {past : List Turn} {s : State}

theorem Follows.latest (h : Follows inputs past s) :
    s.latest = (parsedBy inputs past).getLast? := by
  rw [State.latest, h.rulesets]

theorem Follows.exists_latest (h : Follows inputs past s) (hread : parsedBy inputs past ≠ []) :
    ∃ rules, s.latest = some rules := by
  rw [h.latest]
  exact Option.isSome_iff_exists.1 (List.getLast?_isSome.2 hread)

/-- A verifying step either has what it needs and asks, or lacks some of it and does not. -/
theorem act_verify_cases (h : Follows inputs past s) (memory : Text) :
    (∃ rules, (parsedBy inputs past).getLast? = some rules ∧ explanationOf past ≠ [] ∧
        (s.act inputs memory .verify).call? = some (.verify rules (explanationOf past))) ∨
      ¬ (parsedBy inputs past ≠ [] ∧ explanationOf past ≠ []) ∧
        s.act inputs memory .verify =
          .done { s with verdict := some ⟨false, [nothingToVerify], true⟩ }
            [.verified ⟨false, [nothingToVerify], true⟩] := by
  rw [← h.explanation, ← h.latest]
  simp only [State.act]
  split
  · next rules hrules htext =>
    exact .inl ⟨rules, hrules, by simpa using htext, rfl⟩
  · next hno =>
    refine .inr ⟨?_, rfl⟩
    rintro ⟨hread, htext⟩
    obtain ⟨rules, hrules⟩ := h.exists_latest hread
    exact hno rules hrules (by simpa using htext)

/-- A rewriting step either has what it needs and asks, or lacks some of it and does nothing. -/
theorem act_rewrite_cases (h : Follows inputs past s) (memory : Text) :
    (∃ rules verdict, (parsedBy inputs past).getLast? = some rules ∧ explanationOf past ≠ [] ∧
        verdictOf past = some verdict ∧ verdict.ok = false ∧
        (s.act inputs memory .rewrite).call? =
          some (.rewrite rules (explanationOf past) verdict.missing)) ∨
      ¬ ((∃ verdict, verdictOf past = some verdict ∧ verdict.ok = false) ∧
          parsedBy inputs past ≠ [] ∧ explanationOf past ≠ []) ∧
        s.act inputs memory .rewrite =
          .done s [.rewriteSkipped ((verdictOf past).map (·.ok))] := by
  rw [← h.explanation, ← h.verdict, ← h.latest]
  simp only [State.act]
  split
  · next missing needed rules hverdict hrules htext =>
    exact .inl ⟨rules, ⟨false, missing, needed⟩, hrules, by simpa using htext, hverdict, rfl, rfl⟩
  · next hno =>
    refine .inr ⟨?_, rfl⟩
    rintro ⟨⟨⟨ok, missing, needed⟩, hverdict, rfl⟩, hread, htext⟩
    obtain ⟨rules, hrules⟩ := h.exists_latest hread
    exact hno missing needed rules hverdict hrules (by simpa using htext)

end Act

section Turns

variable {c : Collaborators σ} {inputs : List Text} {past : List Turn} {s : State}

theorem turn_verify (h : Follows inputs past s) (memory : Text) (w : σ) :
    VerifyTurn inputs past (turn c inputs memory .verify s w).1 := by
  rcases act_verify_cases h memory with ⟨rules, hrules, htext, hcall⟩ | ⟨hlacks, hact⟩
  · have hasked : (turn c inputs memory .verify s w).1.asked? = _ := (asked?_turn w).trans hcall
    refine ⟨?_, ?_, ?_⟩ <;> rw [hasked]
    · exact iff_of_true rfl ⟨List.ne_nil_of_mem (List.mem_of_getLast? hrules), htext⟩
    · intro call hsame
      exact ⟨rules, hrules, (Option.some.inj hsame).symm⟩
    · intro hnone
      cases hnone
  · rw [turn_of_done hact]
    refine ⟨iff_of_false Bool.false_ne_true hlacks, ?_, fun _ => ⟨rfl, rfl⟩⟩
    intro call hsome
    cases hsome

theorem turn_rewrite (h : Follows inputs past s) (memory : Text) (w : σ) :
    RewriteTurn inputs past (turn c inputs memory .rewrite s w).1 := by
  rcases act_rewrite_cases h memory with
    ⟨rules, verdict, hrules, htext, hverdict, hfailed, hcall⟩ | ⟨hlacks, hact⟩
  · have hasked : (turn c inputs memory .rewrite s w).1.asked? = _ := (asked?_turn w).trans hcall
    refine ⟨?_, ?_, ?_⟩ <;> rw [hasked]
    · exact iff_of_true rfl
        ⟨⟨verdict, hverdict, hfailed⟩, List.ne_nil_of_mem (List.mem_of_getLast? hrules), htext⟩
    · intro call hsame
      exact ⟨rules, verdict, hrules, hverdict, (Option.some.inj hsame).symm⟩
    · intro hnone
      cases hnone
  · rw [turn_of_done hact]
    refine ⟨iff_of_false Bool.false_ne_true hlacks, ?_, fun _ => ⟨rfl, rfl⟩⟩
    intro call hsome
    cases hsome

end Turns

/-- What a turn requests tells its step. -/
theorem step_eq_of_asked? {c : Collaborators σ} {mode : Mode} {inputs : List Text} {w : σ}
    {t : Turn} (ht : t ∈ turnsOf c mode inputs w) {call : Call} (h : t.asked? = some call) :
    t.step = call.step := by
  obtain ⟨past, future, hsplit⟩ := List.append_of_mem ht
  obtain ⟨-, memory, w', hturn⟩ := follows_of_turnsOf hsplit
  rw [hturn, asked?_turn] at h
  exact (step_of_call? h).symm

/-- **The verifier and the rewriter are asked exactly when the history of the run says so.**  Before
each turn the state is what the turns so far come to, and there is a verdict exactly if a verifying
step is among them.  No other step asks the verifier or the rewriter, and the rewriter is never
asked unless a verifying step before found that the text failed. -/
theorem verify_and_rewrite_guarded (c : Collaborators σ) (mode : Mode) (inputs : List Text)
    (w : σ) :
    Attested c mode inputs w (turnsOf c mode inputs w) ∧
      ∀ past t future, turnsOf c mode inputs w = past ++ t :: future →
        (Follows inputs past t.before ∧
          ((verdictOf past).isSome ↔ ∃ earlier ∈ past, earlier.step = .verify)) ∧
        (t.step = .verify → VerifyTurn inputs past t) ∧
        (t.step = .rewrite → RewriteTurn inputs past t) ∧
        (∀ rules text, t.asked? = some (.verify rules text) → t.step = .verify) ∧
        ∀ rules text missing, t.asked? = some (.rewrite rules text missing) →
          t.step = .rewrite ∧ ∃ earlier ∈ past, earlier.step = .verify ∧
            ∃ verdict, earlier.verdict? = some verdict ∧ verdict.ok = false ∧
              verdict.missing = missing := by
  refine ⟨turnsOf_attested c mode inputs w, fun past t future hsplit => ?_⟩
  obtain ⟨hfollows, memory, w', hturn⟩ := follows_of_turnsOf hsplit
  have hstep : ∀ call, t.asked? = some call → call.step = t.step := by
    intro call hcall
    rw [hturn, asked?_turn] at hcall
    exact step_of_call? hcall
  have hverify : t.step = .verify → VerifyTurn inputs past t := by
    intro his
    rw [hturn, his]
    exact turn_verify hfollows memory w'
  have hrewrite : t.step = .rewrite → RewriteTurn inputs past t := by
    intro his
    rw [hturn, his]
    exact turn_rewrite hfollows memory w'
  refine ⟨⟨hfollows, hfollows.isSome_verdictOf⟩, hverify, hrewrite,
    fun rules text hcall => (hstep _ hcall).symm, fun rules text missing hcall => ?_⟩
  have his : t.step = .rewrite := (hstep _ hcall).symm
  obtain ⟨rules', verdict, _, hverdict, hsame⟩ := (hrewrite his).request _ hcall
  obtain ⟨⟨verdict', hverdict', hfailed⟩, _⟩ :=
    (hrewrite his).asks_iff.1 (Option.isSome_iff_exists.2 ⟨_, hcall⟩)
  obtain rfl : verdict = verdict' := Option.some.inj (hverdict.symm.trans hverdict')
  obtain ⟨earlier, hearlier, hbefore, hcame⟩ := exists_of_verdictOf hverdict
  injection hsame with _ _ hmissing
  exact ⟨his, earlier, hearlier, hbefore, verdict, hcame, hfailed, hmissing.symm⟩

/-- Collaborators that plan an explanation and a second one, and that are content with none. -/
def hardToPlease : Collaborators Unit where
  notes := pure []
  plan _ := pure ["parse", "explain", "verify", "rewrite"]
  check _ := pure []
  retrieve _ := pure []
  explain _ _ := pure "It depends."
  verify _ _ := pure ⟨false, ["the default"], false⟩
  rewrite _ _ missing := pure missing.flatten
  compare _ _ := pure []
  tests _ := pure []
  save _ := pure ()

/-- A rewriting step that asks, although its verdict does not say that a rewrite is needed. -/
theorem rewrite_asked_of_failed_verdict :
    ∃ past t future, turnsOf hardToPlease .explain ["else"] () = past ++ t :: future ∧
      t.step = .rewrite ∧
      t.asked? = some (.rewrite (Script.parse "else") "It depends." ["the default"]) ∧
      RewriteTurn ["else"] past t ∧
      ∃ earlier ∈ past, earlier.step = .verify ∧ ∃ verdict, earlier.verdict? = some verdict ∧
        verdict.ok = false ∧ verdict.missing = ["the default"] := by
  obtain ⟨past, t, future, hsplit, hstep, hasked⟩ : ∃ past t future,
      turnsOf hardToPlease .explain ["else"] () = past ++ t :: future ∧ t.step = .rewrite ∧
        t.asked? = some (.rewrite (Script.parse "else") "It depends." ["the default"]) :=
    ⟨[_, _, _], _, [], rfl, rfl, rfl⟩
  obtain ⟨_, _, hrewrite, _, hbefore⟩ :=
    (verify_and_rewrite_guarded hardToPlease .explain ["else"] ()).2 past t future hsplit
  exact ⟨past, t, future, hsplit, hstep, hasked, hrewrite hstep, (hbefore _ _ _ hasked).2⟩

end Run
end RuleReview
