import RuleReview.Proofs.Knowledge.Reading
import RuleReview.Proofs.Run.Stretch
import RuleReview.Proofs.Run.Unknown
import RuleReview.Proofs.Template.Explain
import RuleReview.Review

/-!
# Reviews with templates

A review with templates asks no model.  Its notes, its background and its static checks are
assembled into a context that templates do not look at, so that they matter only if they cannot be
had: if the notes cannot be loaded, or if the documents in which some term is looked up cannot be
read.  What is returned is therefore written from the inputs alone.  An explanation is verified on
the way and, in two modes, would be rewritten if something was missing in it; but nothing ever is
(`Template.covers_explain`).

A trace is kept at the end.  Whether it can be kept depends on the files and on the name of the
run, not on what the run did.

## What is here

* `TraceStore.save_outcome` — what comes of keeping a trace, whatever the trace.
* `template_accepts_own_explanation` — the verdict of templates on an explanation by templates.
* `templateOutput`, `lookup` — what a review with templates returns, and what can fail in its steps.
* `lookup_eq_error_iff` — when and how it fails.
* `turns_template` — the steps of each mode come to that output.
* `ByTemplates`, `review_by_templates` — the same for whole reviews.
-/

set_option autoImplicit false

namespace RuleReview

open Run

/-! ## What comes of keeping a trace -/

/-- Whether a file can be written does not depend on what is written. -/
theorem FileTree.writeFile?_outcome (tree : FileTree) (folder name : Text)
    (bytes bytes' : List UInt8) :
    (tree.writeFile? folder name bytes).map (fun _ => ()) =
      (tree.writeFile? folder name bytes').map fun _ => () := by
  unfold FileTree.writeFile?
  cases pathFault? (joinPath folder name) with
  | some fault => rfl
  | none =>
    cases Place.follow? ⟨[], tree⟩ (if folder.isEmpty then [] else names folder) with
    | error fault => rfl
    | ok p =>
      simp only [bind, Except.bind, Place.add?]
      cases p.here.bars.adding <;> split <;> rfl

/-- What comes of keeping a trace does not depend on the trace. -/
theorem TraceStore.save_outcome (store : TraceStore) (trace trace' : Trace) (tree : FileTree) :
    (store.save trace tree).1 = (store.save trace' tree).1 := by
  unfold TraceStore.save
  split
  · rfl
  · cases tree.makeFolders store.folder with
    | mk made tree =>
      cases made with
      | error fault => rfl
      | ok _ =>
        have hsame := tree.writeFile?_outcome store.folder store.fileName
          (Utf8.encode (store.render trace)) (Utf8.encode (store.render trace'))
        cases hfile : tree.writeFile? store.folder store.fileName
            (Utf8.encode (store.render trace)) <;>
          cases hfile' : tree.writeFile? store.folder store.fileName
            (Utf8.encode (store.render trace')) <;>
          rw [hfile, hfile'] at hsame <;> cases hsame <;> simp only [hfile, hfile']

namespace Review

variable {σ : Type}

/-- A review keeps its traces whatever they say of steps that are not known. -/
theorem savesBlindly_collaborators (s : Settings) (analyst : Analyst σ) (store : TraceStore) :
    (collaborators s analyst store).SavesBlindly :=
  fun trace trace' w _ => store.save_outcome trace trace' w.files

/-! ## An explanation and its verdict -/

/-- **Templates accept the explanations that templates write**, of whatever rule and with whatever
background.  They accept no explanation that leaves something out. -/
theorem template_accepts_own_explanation (rs : Ruleset) (context : Text) (w : σ) :
    (do
      let explanation ← Analyst.template.explain rs context
      Analyst.template.verify rs explanation : Effect σ Verdict).from w =
        (.ok ⟨true, [], false⟩, w) ∧
    ∀ explanation, (Analyst.template.verify rs explanation).from w = (.ok ⟨true, [], false⟩, w) ↔
      Template.Covers rs explanation := by
  have hverify : ∀ explanation, (Analyst.template.verify rs explanation).from w =
      (.ok (Template.verify rs explanation), w) := fun _ => rfl
  refine ⟨?_, fun explanation => ?_⟩
  · have hown := (Template.verify_eq_accepted_iff rs _).2 (Template.covers_explain rs)
    change (Analyst.template.verify rs (Template.explain rs)).from w = _
    rw [hverify, hown]
  · rw [hverify, ← Template.verify_eq_accepted_iff, Prod.mk.injEq, Except.ok.injEq]
    exact and_iff_left rfl

/-! ## What a review comes to -/

/-- What a review with templates returns if nothing fails. -/
def templateOutput (mode : Mode) (inputs : List Text) : Text :=
  match mode with
  | .explain | .verify | .agentic =>
    match inputs with
    | [] => fallbackExplanation
    | text :: _ => Template.explain (Script.parse text)
  | .tests =>
    match inputs with
    | [] => TestCase.render [errorCase]
    | text :: _ => TestCase.render (Template.testCases (Script.parse text))
  | .diff =>
    match inputs with
    | before :: after :: _ => Template.compare (Script.parse before) (Script.parse after)
    | _ => diffUnavailable

/-- What comes of the lookup of background; some modes do without. -/
def lookup (s : Settings) (mode : Mode) (inputs : List Text) (files : FileTree) :
    Except Failure Unit :=
  match mode with
  | .explain | .verify | .agentic =>
    (Knowledge.retrieve s.retrieval.limits files s.retrieval.folder (inputs.headD [])).map
      fun _ => ()
  | .tests | .diff => .ok ()

/-- **Background is missed in the modes that explain, and only there**: exactly when it cannot be
had. -/
theorem lookup_eq_error_iff {s : Settings} {mode : Mode} {inputs : List Text} {files : FileTree}
    {e : Failure} :
    lookup s mode inputs files = .error e ↔
      (mode = .explain ∨ mode = .verify ∨ mode = .agentic) ∧
      Knowledge.Unavailable s.retrieval.limits files s.retrieval.folder (inputs.headD []) e := by
  rw [← Knowledge.retrieve_eq_error_iff]
  cases mode with
  | explain | verify | agentic =>
    rw [lookup]
    cases Knowledge.retrieve s.retrieval.limits files s.retrieval.folder (inputs.headD []) <;>
      simp [Except.map]
  | tests | diff => simp [lookup]

/-- The collaborators of a review with templates. -/
abbrev templates (s : Settings) (store : TraceStore) : Collaborators (World σ) :=
  collaborators s Analyst.template store

/-- The store that a review keeps its trace in. -/
abbrev storeOf (s : Settings) (clock : Clock) (inputs : List Text) : TraceStore :=
  .new s.trace.enabled s.trace.folder inputs clock

theorem templateOutput_ne_nil (mode : Mode) (inputs : List Text) :
    templateOutput mode inputs ≠ [] := by
  have hrender (tests : List TestCase) : TestCase.render tests ≠ [] := by
    cases tests with
    | nil => simp [TestCase.render, Json.pretty, Json.prettyAt]
    | cons test tests => simp [TestCase.render, Json.pretty, Json.prettyAt]
  unfold templateOutput
  cases mode with
  | explain | verify | agentic =>
    cases inputs with
    | nil => exact List.cons_ne_nil _ _
    | cons text more => exact Template.explain_ne_nil _
  | tests =>
    cases inputs with
    | nil => exact hrender _
    | cons text more => exact hrender _
  | diff =>
    rcases inputs with _ | ⟨before, _ | ⟨after, more⟩⟩ <;> exact List.cons_ne_nil _ _

/-! ## The steps of each mode -/

section Stretches

variable (s : Settings) (store : TraceStore) (inputs : List Text) (memory : Text) (w : World σ)

/-- If a turn is one of a rewriting step, it asks for nothing and says so. -/
def Skips (inputs : List Text) (t : Turn) : Prop :=
  t.step = .rewrite → t.exchange = none ∧ t.events = [.rewriteSkipped (some !inputs.isEmpty)]

theorem skips_of_map_step {ts : List Turn} {steps : List Step} (h : ts.map (·.step) = steps)
    (hno : .rewrite ∉ steps) : ∀ t ∈ ts, Skips inputs t := by
  intro t ht hstep
  rw [← h, ← hstep] at hno
  exact absurd (List.mem_map_of_mem (f := Turn.step) ht) hno

theorem completes_tests :
    ∃ ts st, Completes (templates s store) inputs memory
      Mode.tests.defaultSteps {} w ts st w ∧ st.explanation = templateOutput .tests inputs := by
  cases inputs with
  | nil => exact ⟨_, _, ⟨rfl, rfl⟩, rfl⟩
  | cons text more => exact ⟨_, _, ⟨rfl, rfl⟩, rfl⟩

theorem completes_diff :
    ∃ ts st, Completes (templates s store) inputs memory
      Mode.diff.defaultSteps {} w ts st w ∧ st.explanation = templateOutput .diff inputs := by
  rcases inputs with _ | ⟨before, _ | ⟨after, more⟩⟩ <;> exact ⟨_, _, ⟨rfl, rfl⟩, rfl⟩

theorem completes_explain {background : Text}
    (h : Knowledge.retrieve s.retrieval.limits w.files s.retrieval.folder (inputs.headD []) =
      .ok background) :
    ∃ ts st, Completes (templates s store) inputs memory
      Mode.explain.defaultSteps {} w ts st w ∧
      st.rulesets = (inputs.take 1).map Script.parse ∧
      st.explanation = templateOutput .explain inputs := by
  have hreply : ((templates s store).answer
      (.retrieve (inputs.headD []))).from w = (.ok background, w) :=
    congrArg (·, w) h
  cases inputs with
  | nil =>
    have hread : Completes (templates s store) [] memory
      [.parse, .staticChecks] {} w _ _ w := ⟨rfl, rfl⟩
    exact ⟨_, _, (hread.append (.of_ask rfl hreply)).append ⟨rfl, rfl⟩, rfl, rfl⟩
  | cons text more =>
    have hread : Completes (templates s store) (text :: more) memory
      [.parse, .staticChecks] {} w _ _ w := ⟨rfl, rfl⟩
    exact ⟨_, _, (hread.append (.of_ask rfl hreply)).append ⟨rfl, rfl⟩, rfl, rfl⟩

/-- An explanation that was checked is not rewritten: there is no rule, or nothing is missing. -/
theorem completes_check {st : State} (hrulesets : st.rulesets = (inputs.take 1).map Script.parse)
    (hexplanation : st.explanation = templateOutput .explain inputs) :
    ∃ ts st', Completes (templates s store) inputs memory
      [.verify, .rewrite] st w ts st' w ∧ st'.explanation = st.explanation ∧
      ∀ t ∈ ts, Skips inputs t := by
  cases inputs with
  | nil =>
    have hlatest : st.latest = none := by
      rw [State.latest, hrulesets]
      rfl
    let st' : State := { st with verdict := some ⟨false, [nothingToVerify], true⟩ }
    have hverify : st.act [] memory .verify =
        .done st' [.verified ⟨false, [nothingToVerify], true⟩] := by
      simp only [State.act, hlatest, st']
    have hrewrite : st'.act [] memory .rewrite = .done st' [.rewriteSkipped (some false)] := by
      have hlatest' : st'.latest = none := hlatest
      simp only [State.act, hlatest']
      rfl
    refine ⟨_, st', (Completes.of_done hverify).append (.of_done hrewrite), rfl, ?_⟩
    simp [Skips]
  | cons text more =>
    have hlatest : st.latest = some (Script.parse text) := by
      rw [State.latest, hrulesets]
      rfl
    have htext : st.explanation.isEmpty = false := by
      rw [hexplanation]
      exact List.isEmpty_eq_false_iff.2 (Template.explain_ne_nil _)
    have hverify : st.act (text :: more) memory .verify =
        .ask (.verify (Script.parse text) st.explanation) fun verdict =>
          ({ st with verdict := some verdict }, [.verified verdict]) := by
      simp only [State.act, hlatest, htext]
    have hverdict : Template.verify (Script.parse text) st.explanation = ⟨true, [], false⟩ := by
      rw [hexplanation]
      exact (Template.verify_eq_accepted_iff _ _).2 (Template.covers_explain _)
    have hreply : ((templates s store).answer
        (.verify (Script.parse text) st.explanation)).from w = (.ok ⟨true, [], false⟩, w) :=
      congrArg (fun verdict => (Except.ok verdict, w)) hverdict
    refine ⟨_, _, (Completes.of_ask hverify hreply).append (.of_done rfl), rfl, ?_⟩
    simp [Skips]

theorem completes_verify {background : Text}
    (h : Knowledge.retrieve s.retrieval.limits w.files s.retrieval.folder (inputs.headD []) =
      .ok background) :
    ∃ ts st, Completes (templates s store) inputs memory
      Mode.verify.defaultSteps {} w ts st w ∧
      st.explanation = templateOutput .explain inputs ∧ ∀ t ∈ ts, Skips inputs t := by
  obtain ⟨ts, st, hexplain, hrulesets, hexplanation⟩ := completes_explain s store inputs memory w h
  obtain ⟨later, st', hcheck, hkept, hskips⟩ :=
    completes_check s store inputs memory w hrulesets hexplanation
  refine ⟨_, _, hexplain.append hcheck, hkept.trans hexplanation, fun t ht => ?_⟩
  rcases List.mem_append.1 ht with ht | ht
  · exact skips_of_map_step inputs hexplain.map_step (by decide) t ht
  · exact hskips t ht

theorem map_output_of_completes {steps : List Step} {ts : List Turn} {st : State}
    {c : Collaborators (World σ)} {mode : Mode}
    (h : Completes c inputs memory steps {} w ts st w)
    (htext : st.explanation = templateOutput mode inputs) :
    (outcomeOf {} ts).map State.output = .ok (templateOutput mode inputs) := by
  have hne := List.isEmpty_eq_false_iff.2 (templateOutput_ne_nil mode inputs)
  rw [h.outcome, Except.map, State.output, htext, hne]
  rfl

/-- Steps that look up background come to what they come to with background, or to the failure of
the lookup. -/
theorem turns_of_lookup (rest : List Step)
    (hdone : ∀ background,
      Knowledge.retrieve s.retrieval.limits w.files s.retrieval.folder (inputs.headD []) =
        .ok background →
      ∃ ts st, Completes (templates s store) inputs memory
        ([.parse, .staticChecks] ++ .retrieveContext :: rest) {} w ts st w ∧
        st.explanation = templateOutput .explain inputs ∧ ∀ t ∈ ts, Skips inputs t) :
    ∃ ts, turns (templates s store) inputs memory
        ([.parse, .staticChecks] ++ .retrieveContext :: rest) {} w = (ts, w) ∧
      (outcomeOf {} ts).map State.output =
        (lookup s .explain inputs w.files).map (fun _ => templateOutput .explain inputs) ∧
      ∀ t ∈ ts, Skips inputs t := by
  cases h : Knowledge.retrieve s.retrieval.limits w.files s.retrieval.folder (inputs.headD []) with
  | ok background =>
    obtain ⟨ts, st, hcompletes, htext, hskips⟩ := hdone background h
    refine ⟨ts, hcompletes.turns_eq, ?_, hskips⟩
    rw [map_output_of_completes inputs memory w hcompletes htext, lookup, h]
    rfl
  | error e =>
    obtain ⟨ts, st, hread⟩ : ∃ ts st, Completes (templates s store) inputs
        memory [.parse, .staticChecks] {} w ts st w := by
      cases inputs with
      | nil => exact ⟨_, _, rfl, rfl⟩
      | cons text more => exact ⟨_, _, rfl, rfl⟩
    have hact : st.act inputs memory .retrieveContext = .ask (.retrieve (inputs.headD [])) _ := rfl
    have hfailed : ((templates s store).answer
        (.retrieve (inputs.headD []))).from w = (.error e, w) :=
      congrArg (·, w) h
    obtain ⟨hturns, houtcome⟩ := hread.turns_of_failed hact hfailed rest
    refine ⟨_, hturns, ?_, ?_⟩
    · rw [houtcome, lookup, h]
      rfl
    · have hsteps := congrArg (· ++ [Step.retrieveContext]) hread.map_step
      exact skips_of_map_step inputs (List.map_append.trans hsteps) (by decide)

/-- **The steps of a mode come to the output of templates**, unless the lookup of background fails.
-/
theorem turns_template (mode : Mode) :
    ∃ ts, turns (templates s store) inputs memory mode.defaultSteps {} w =
        (ts, w) ∧
      (outcomeOf {} ts).map State.output =
        (lookup s mode inputs w.files).map (fun _ => templateOutput mode inputs) ∧
      ∀ t ∈ ts, Skips inputs t := by
  cases mode with
  | explain =>
    refine turns_of_lookup s store inputs memory w [.explain] fun background h => ?_
    obtain ⟨ts, st, hcompletes, -, htext⟩ := completes_explain s store inputs memory w h
    exact ⟨ts, st, hcompletes, htext, skips_of_map_step inputs hcompletes.map_step (by decide)⟩
  | verify | agentic =>
    exact turns_of_lookup s store inputs memory w [.explain, .verify, .rewrite] fun background h =>
      completes_verify s store inputs memory w h
  | tests =>
    obtain ⟨ts, st, h, htext⟩ := completes_tests s store inputs memory w
    exact ⟨ts, h.turns_eq, map_output_of_completes inputs memory w h htext,
      skips_of_map_step inputs h.map_step (by decide)⟩
  | diff =>
    obtain ⟨ts, st, h, htext⟩ := completes_diff s store inputs memory w
    exact ⟨ts, h.turns_eq, map_output_of_completes inputs memory w h htext,
      skips_of_map_step inputs h.map_step (by decide)⟩

end Stretches

/-! ## Whole reviews -/

section Run

variable (s : Settings) (clock : Clock) (mode : Mode) (inputs : List Text) (w : World σ)

/-- How a review with templates goes until its trace is kept. -/
theorem runPlan_template (store : TraceStore) :
    (runPlan (templates s store) mode inputs w).1 = (do
        let _ ← Notes.load? w.files s.notes
        lookup s mode inputs w.files
        return templateOutput mode inputs) ∧
      (runPlan (templates s store) mode inputs w).2.2 = w ∧
      (∀ t ∈ turnsOf (templates s store) mode inputs w, Skips inputs t) ∧
      ∀ output, (runPlan (templates s store) mode inputs w).1 = .ok output →
        (turnsOf (templates s store) mode inputs w).map (·.step) = mode.defaultSteps := by
  cases hload : Notes.load? w.files s.notes with
  | error e =>
    have hnotes : (templates s store).notes.from w = (.error e, w) :=
      congrArg (fun loaded => (loaded.map Notes.render, w)) hload
    rw [runPlan_of_notes_error hnotes]
    refine ⟨rfl, rfl, ?_, ?_⟩
    · simp only [turnsOf, hnotes, List.not_mem_nil, false_implies, implies_true]
    · intro output hok
      cases hok
  | ok notes =>
    have hnotes : (templates s store).notes.from w = (.ok notes.render, w) :=
      congrArg (fun loaded => (loaded.map Notes.render, w)) hload
    have hplan : ((templates s store).plan mode).from w = (.ok mode.defaultPlan, w) := rfl
    have hsteps : mode.defaultPlan.map Step.ofId = mode.defaultSteps := by
      cases mode <;> rfl
    obtain ⟨ts, hturns, houtcome, hskips⟩ := turns_template s store inputs notes.render w mode
    have hts : turnsOf (templates s store) mode inputs w = ts := by
      simp only [turnsOf, hnotes, hplan, hsteps, hturns]
    rw [runPlan_of_plan hnotes hplan, hsteps, hturns, hts]
    refine ⟨?_, rfl, hskips, fun output hok => ?_⟩
    · rw [houtcome]
      cases lookup s mode inputs w.files <;> rfl
    · have hwhole := turns_cases (templates s store) inputs notes.render mode.defaultSteps {} w
      rw [hturns] at hwhole
      rcases hwhole with ⟨_, _, htaken, _⟩ | ⟨_, _, e, _, he, _⟩
      · exact htaken
      · rw [he] at hok
        cases hok

/-- A review keeps its trace in the files as they were before. -/
theorem run_eq_resultOf (trace : Trace) :
    (run s Analyst.template clock mode inputs w).1 =
      resultOf (runPlan (templates s (storeOf s clock inputs)) mode inputs w).1
        ((storeOf s clock inputs).save trace w.files).1 := by
  have hworld := (runPlan_template s mode inputs w (storeOf s clock inputs)).2.1
  rcases hrun : runPlan (templates s (storeOf s clock inputs)) mode inputs w with
    ⟨outcome, events, w'⟩
  obtain rfl : w = w' := by rw [← hworld, hrun]
  change (execute (templates s (storeOf s clock inputs)) mode inputs w).1.result = _
  rw [outcome_of_runPlan hrun]
  exact congrArg (resultOf outcome) (TraceStore.save_outcome _ _ trace w.files)

theorem run_template (trace : Trace) :
    (run s Analyst.template clock mode inputs w).1 = (do
      let _ ← Notes.load? w.files s.notes
      lookup s mode inputs w.files
      ((storeOf s clock inputs).save trace w.files).1
      return templateOutput mode inputs) := by
  rw [run_eq_resultOf s clock mode inputs w trace, (runPlan_template s mode inputs w _).1]
  cases Notes.load? w.files s.notes with
  | error e => rfl
  | ok notes =>
    cases lookup s mode inputs w.files with
    | error e => rfl
    | ok _ => exact resultOf_ok (templateOutput mode inputs) _

/-- What holds of every review with templates. -/
structure ByTemplates : Prop where
  /-- It fails if the notes, the background or the trace cannot be had, with the first of these
  failures.  Otherwise it returns the output of templates. -/
  result : ∀ trace, (run s Analyst.template clock mode inputs w).1 = (do
    let _ ← Notes.load? w.files s.notes
    lookup s mode inputs w.files
    ((storeOf s clock inputs).save trace w.files).1
    return templateOutput mode inputs)
  /-- The background cannot be had exactly in the modes that explain, if some term is looked up in a
  folder that is there but cannot be read with all of its files.  The failure names what is to
  blame. -/
  background : ∀ e, lookup s mode inputs w.files = .error e ↔
    (mode = .explain ∨ mode = .verify ∨ mode = .agentic) ∧
      Knowledge.Unavailable s.retrieval.limits w.files s.retrieval.folder (inputs.headD []) e
  /-- The output depends on nothing but the mode and the inputs. -/
  output : ∀ output, (run s Analyst.template clock mode inputs w).1 = .ok output →
    output = templateOutput mode inputs
  /-- Explaining, verifying and planning freely come to the same. -/
  agree : (run s Analyst.template clock .verify inputs w).1 =
      (run s Analyst.template clock .explain inputs w).1 ∧
    (run s Analyst.template clock .agentic inputs w).1 =
      (run s Analyst.template clock .explain inputs w).1
  /-- A rewriting step asks for nothing and says that it was skipped. -/
  skipped : ∀ t ∈ turnsOf (templates s (storeOf s clock inputs)) mode inputs w,
    t.step = .rewrite → t.asked? = none ∧ t.events = [.rewriteSkipped (some !inputs.isEmpty)]
  /-- There is one whenever an explanation is verified. -/
  reached : mode = .verify ∨ mode = .agentic →
    ∀ output, (run s Analyst.template clock mode inputs w).1 = .ok output →
      ∃ t ∈ turnsOf (templates s (storeOf s clock inputs)) mode inputs w, t.step = .rewrite
  /-- Nobody is ever asked to rewrite anything. -/
  unasked : ∀ x, .step x ∈ contactsOf (templates s (storeOf s clock inputs)) mode inputs w →
    ∀ rules explanation missing, x.call ≠ .rewrite rules explanation missing

/-- **A review with templates depends on the mode and the inputs alone**, as soon as the notes can
be loaded, the background can be looked up and the trace can be kept. -/
theorem review_by_templates : ByTemplates s clock mode inputs w := by
  obtain ⟨-, -, hskips, hsteps⟩ := runPlan_template s mode inputs w (storeOf s clock inputs)
  refine
    { result := run_template s clock mode inputs w
      background := fun _ => lookup_eq_error_iff
      output := fun output hok => ?output
      agree := ?agree
      skipped := fun t ht hstep => ?skipped
      reached := fun hmode output hok => ?reached
      unasked := fun x hx rules explanation missing hcall => ?unasked }
  case output =>
    rw [run_eq_resultOf s clock mode inputs w Trace.empty] at hok
    have hplan := eq_ok_of_resultOf hok
    rw [(runPlan_template s mode inputs w _).1] at hplan
    revert hplan
    cases Notes.load? w.files s.notes <;> cases lookup s mode inputs w.files <;>
      intro hplan <;> cases hplan
    rfl
  case agree =>
    simp only [run_template s clock _ inputs w Trace.empty]
    exact ⟨rfl, rfl⟩
  case skipped =>
    obtain ⟨hnone, hevents⟩ := hskips t ht hstep
    exact ⟨by rw [Turn.asked?, hnone]; rfl, hevents⟩
  case reached =>
    rw [run_eq_resultOf s clock mode inputs w Trace.empty] at hok
    have hall := hsteps output (eq_ok_of_resultOf hok)
    have hmem : Step.rewrite ∈ mode.defaultSteps := by
      rcases hmode with rfl | rfl <;> decide
    rw [← hall] at hmem
    exact List.mem_map.1 hmem
  case unasked =>
    obtain ⟨t, ht, hexchange⟩ := exists_turn_of_contact hx
    have hasked : t.asked? = some x.call := by
      rw [Turn.asked?, hexchange]
      rfl
    have hstep := step_eq_of_asked? ht hasked
    rw [hcall] at hstep
    rw [(hskips t ht hstep).1] at hexchange
    cases hexchange

-- One document that cannot be read ends a review that explains, and no other.
example :
    (run {} Analyst.template ⟨[], [], 0⟩ .explain ["if (score > 7) \x7b x = 1; \x7d"]
      ⟨.folder [("kb", .folder [("a.md", .sealed ⟨13, "Permission denied"⟩)])], ()⟩).1 =
      .error (.file "kb/a.md" (.refused ⟨13, "Permission denied"⟩)) := by
  decide +kernel
example :
    (run {} Analyst.template ⟨[], [], 0⟩ .diff ["if (score > 7) \x7b x = 1; \x7d"]
      ⟨.folder [("kb", .folder [("a.md", .sealed ⟨13, "Permission denied"⟩)])], ()⟩).1 =
      .ok diffUnavailable := by
  decide +kernel

end Run

end Review
end RuleReview
