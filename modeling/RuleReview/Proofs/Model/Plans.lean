import RuleReview.Proofs.Json.Strings
import RuleReview.Proofs.Model.Replies

/-!
# Plans of a model

In the agentic mode a plan is asked of the model, with one prompt, and whatever text it replies with
there is a plan that is not empty.  If the reply shows one, that is the plan: the strings of an
array between the first opening and the last closing bracket, known identifiers or not.  Any other
reply gives way to the fixed plan of the mode.  Only a model that fails to reply makes the plan
fail.  In the other modes the model is not asked.

Which replies show a plan is said without the reader (`Shows`): `Json.WritesArray` tells which texts
are arrays of strings, and `Reply.between_eq_some_iff` between which brackets they are looked for.

## What is here

* `Shows`, `readPlan?_eq_some_iff` — the plan that a reply shows.
* `Model.recorded` — a model that keeps a list of its prompts, and `plan_recorded`.
* `plan_total` — what becomes of a plan.
-/

set_option autoImplicit false

namespace RuleReview

open Text

namespace Reply

/-- That a stretch of a text goes from the first opening to the last closing delimiter. -/
def Outermost (first last : Char) (span t : Text) : Prop :=
  (∃ inner, span = first :: (inner ++ [last])) ∧ Around first last span t

theorem between_eq_some_iff {first last : Char} {t span : Text} :
    between first last t = some span ↔ Outermost first last span t := by
  constructor
  · intro h
    simp only [between, Option.bind_eq_bind, Option.bind_eq_some_iff, Prod.exists,
      Option.some.injEq] at h
    obtain ⟨before, rest, hcut, inner, after, hlast, rfl⟩ := h
    obtain ⟨rfl, hbefore⟩ := (cut_eq_some_iff _ _ _ _).1 hcut
    obtain ⟨rfl, hafter⟩ := (cutLast_eq_some_iff _ _ _ _).1 hlast
    exact ⟨⟨inner, rfl⟩, before, after, by simp, hbefore, hafter⟩
  · rintro ⟨⟨inner, rfl⟩, h⟩
    exact between_of_around h

end Reply

namespace Model

variable {σ : Type}

/-! ## The plan that a reply shows -/

/-- That what the outermost brackets of a reply enclose, after a fence around it was removed, is an
array of these strings. -/
def Shows (reply : Text) (ids : List Text) : Prop :=
  ∃ span, Reply.Outermost '[' ']' span (Reply.unfence reply) ∧ Json.WritesArray span ids

theorem Shows.ne_nil {reply : Text} {ids : List Text} (h : Shows reply ids) : ids ≠ [] := by
  obtain ⟨_, _, harray⟩ := h
  exact harray.ne_nil

/-- A plan is read from the replies that show one, and from no others. -/
theorem readPlan?_eq_some_iff {reply : Text} {ids : List Text} :
    readPlan? reply = some ids ↔ Shows reply ids := by
  simp only [readPlan?, Reply.array?, Shows, ← Reply.between_eq_some_iff]
  cases Reply.between '[' ']' (Reply.unfence reply) with
  | none => simp
  | some span =>
    simp only [Option.some.injEq, exists_eq_left', ← Json.toList?_toText?_iff]
    split
    · next id more hread =>
      rw [hread, Option.some.injEq, Except.ok.injEq]
      refine ⟨fun h => ⟨h, h ▸ List.cons_ne_nil _ _⟩, And.left⟩
    · next hother =>
      refine iff_of_false (by simp) ?_
      rintro ⟨hread, hne⟩
      obtain ⟨id, more, rfl⟩ := List.exists_cons_of_ne_nil hne
      exact hother id more hread

/-! ## What a model is asked -/

/-- The same model, keeping a list of its prompts. -/
def recorded (model : Generator σ) : Generator (σ × List Prompt) := fun prompt =>
  Effect.ofTransition fun (s, prompts) =>
    let (reply, s) := (model prompt).from s
    (reply, (s, prompts ++ [prompt]))

/-- A plan is asked for once in the agentic mode and never in another. -/
theorem plan_recorded (model : Generator σ) (mode : Mode) (s : σ) (prompts : List Prompt) :
    (plan (recorded model) mode).from (s, prompts) =
      (((plan model mode).from s).1, ((plan model mode).from s).2,
        prompts ++ if mode = .agentic then [Prompt.plan mode] else []) := by
  by_cases h : mode = .agentic
  · rw [plan, plan, if_pos h, if_pos h, if_pos h]
    simp only [Effect.from, bind, ExceptT.bind, ExceptT.mk, StateT.bind, recorded,
      Effect.ofTransition]
    cases model (Prompt.plan mode) s with
    | mk reply s => cases reply <;> rfl
  · rw [plan, plan, if_neg h, if_neg h, if_neg h, List.append_nil]
    rfl

/-! ## What becomes of a plan -/

theorem from_plan_of_ne_agentic (model : Generator σ) {mode : Mode} (h : mode ≠ .agentic) (s : σ) :
    (plan model mode).from s = (.ok mode.defaultPlan, s) := by
  rw [plan, if_neg h]
  rfl

/-- In the agentic mode the plan fails if the model does, and is made of the reply otherwise. -/
theorem from_plan_agentic (model : Generator σ) (s : σ) :
    (plan model .agentic).from s =
      (((model (Prompt.plan .agentic)).from s).1.map fun reply =>
        (readPlan? reply).getD Mode.agentic.defaultPlan,
      ((model (Prompt.plan .agentic)).from s).2) := by
  rw [plan, if_pos rfl]
  simp only [Effect.from, bind, ExceptT.bind, ExceptT.mk, StateT.bind]
  cases model (Prompt.plan .agentic) s with
  | mk reply s' => cases reply <;> rfl

/-- **A reply never makes a plan fail, nor leaves it empty.** -/
theorem plan_total (model : Generator σ) (s : σ) :
    (∀ mode prompts, (plan (recorded model) mode).from (s, prompts) =
      (((plan model mode).from s).1, ((plan model mode).from s).2,
        prompts ++ if mode = .agentic then [Prompt.plan mode] else [])) ∧
    (∀ mode ≠ .agentic, (plan model mode).from s = (.ok mode.defaultPlan, s)) ∧
    (∀ e s', (model (Prompt.plan .agentic)).from s = (.error e, s') →
      (plan model .agentic).from s = (.error e, s')) ∧
    ∀ reply s', (model (Prompt.plan .agentic)).from s = (.ok reply, s') →
      ∃ steps, (plan model .agentic).from s = (.ok steps, s') ∧ steps ≠ [] ∧
        (∀ ids, Shows reply ids → steps = ids) ∧
        ((∀ ids, ¬ Shows reply ids) → steps = Mode.agentic.defaultPlan) := by
  refine ⟨fun mode prompts => plan_recorded model mode s prompts,
    fun mode h => from_plan_of_ne_agentic model h s, fun e s' h => ?_, fun reply s' h => ?_⟩
  · rw [from_plan_agentic, h]
    rfl
  refine ⟨(readPlan? reply).getD Mode.agentic.defaultPlan, by rw [from_plan_agentic, h]; rfl, ?_⟩
  cases hread : readPlan? reply with
  | none =>
    have hshows : ∀ ids, ¬ Shows reply ids := by
      intro ids hids
      rw [← readPlan?_eq_some_iff, hread] at hids
      cases hids
    exact ⟨by decide, fun ids hids => absurd hids (hshows ids), fun _ => rfl⟩
  | some steps =>
    have hsteps : Shows reply steps := readPlan?_eq_some_iff.1 hread
    refine ⟨hsteps.ne_nil, fun ids hids => ?_, fun hnone => absurd hsteps (hnone steps)⟩
    rw [← readPlan?_eq_some_iff, hread] at hids
    exact Option.some.inj hids

/-- A reply with a plan in running text: one identifier is written with an escape, one names no step
and one comes twice. -/
def proposal : Text := "My plan: [\"parse\", \"p\\u0061rse\" ,\n\"summarize\"]."

theorem shows_proposal : Shows proposal ["parse", "parse", "summarize"] := by
  have hnone : ∀ c ∈ ([] : Text), Json.isGap c = true := by simp
  have hblank : ∀ c ∈ [' '], Json.isGap c = true := by simp [Json.isGap]
  have hnewline : ∀ c ∈ ['\n'], Json.isGap c = true := by simp [Json.isGap]
  have hescape : Json.Writes "p\\u0061rse" "parse" :=
    .plain (by decide) (by decide) (by decide) <|
      .code (u := 0x61) (by decide) (by decide) (Json.writes_self (t := "rse") (by decide))
  have hlast : Json.WritesItems "\n\"summarize\"" ["summarize"] :=
    @Json.WritesItems.last _ _ "summarize" _ hnewline hnone (Json.writes_self (by decide))
  have hmore : Json.WritesItems " \"p\\u0061rse\" ,\n\"summarize\"" ["parse", "summarize"] :=
    @Json.WritesItems.more _ _ "p\\u0061rse" _ _ _ hblank hblank hescape hlast
  have hall : Json.WritesItems "\"parse\", \"p\\u0061rse\" ,\n\"summarize\"" _ :=
    @Json.WritesItems.more _ _ "parse" _ _ _ hnone hnone (Json.writes_self (by decide)) hmore
  exact ⟨_, ⟨⟨_, rfl⟩, "My plan: ", ".", by decide, by decide, by decide⟩,
    [], _, [], rfl, hnone, hnone, hall⟩

/-- A reply without brackets shows no plan. -/
theorem not_shows_of_not_mem {reply : Text} (h : '[' ∉ Reply.unfence reply) (ids : List Text) :
    ¬ Shows reply ids := by
  rintro ⟨_, ⟨⟨inner, rfl⟩, before, after, ht, -, -⟩, -⟩
  exact h (by rw [ht]; simp)

/-- The plan of a reply is taken over, prose gives way to the fixed plan, a failure is handed on,
and other modes do not need the model. -/
theorem plan_total_proposal :
    (plan (replying proposal) .agentic).from () = (.ok ["parse", "parse", "summarize"], ()) ∧
    (plan (replying "First parse, then explain.") .agentic).from () =
      (.ok Mode.agentic.defaultPlan, ()) ∧
    (plan (fun _ => throw (.request "down")) .agentic).from () = (.error (.request "down"), ()) ∧
    (plan (fun _ => throw (.request "down")) .tests).from () =
      (.ok ["parse", "static_checks", "generate_tests"], ()) := by
  refine ⟨?_, ?_, ?_, ?_⟩
  · obtain ⟨steps, hplan, -, hshown, -⟩ := (plan_total (replying proposal) ()).2.2.2 _ _ rfl
    rw [hplan, hshown _ shows_proposal]
  · obtain ⟨steps, hplan, -, -, hfixed⟩ :=
      (plan_total (replying "First parse, then explain.") ()).2.2.2 _ _ rfl
    rw [hplan, hfixed (not_shows_of_not_mem (by decide))]
  · exact (plan_total (fun _ => throw (.request "down")) ()).2.2.1 _ _ rfl
  · exact (plan_total (fun _ => throw (.request "down")) ()).2.1 .tests (by decide)

end Model
end RuleReview
