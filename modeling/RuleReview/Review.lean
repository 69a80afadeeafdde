import RuleReview.Check.Report
import RuleReview.Model.Chat
import RuleReview.Notes
import RuleReview.Run.Execute
import RuleReview.Settings
import RuleReview.Template

/-!
# Reviewing rules

A review is a run whose collaborators are those that the settings describe.  The roles of an analyst
are played by fixed templates or by a language model; the static checks, the background, the notes
and the traces are the same for both.

## What is here

* `Review.World` — what a review reads and changes.
* `Review.Analyst` — the roles that templates or a model can play; `Analyst.template`,
  `Analyst.model`.
* `Review.collaborators`, `Review.run` — the review itself.
-/

set_option autoImplicit false

namespace RuleReview
namespace Review

open Run (Collaborators)

/-- What a review reads and changes: files, and whatever the analyst depends on. -/
structure World (σ : Type) where
  /-- The files. -/
  files : FileTree
  /-- What the analyst depends on. -/
  beyond : σ

variable {σ : Type}

/-- The roles that templates or a language model can play. -/
structure Analyst (σ : Type) where
  /-- Plan the steps. -/
  plan : Mode → Effect σ (List Text)
  /-- Explain a rule, given background. -/
  explain : Ruleset → Text → Effect σ Text
  /-- Judge an explanation. -/
  verify : Ruleset → Text → Effect σ Verdict
  /-- Write another explanation. -/
  rewrite : Ruleset → Text → List Text → Effect σ Text
  /-- Compare two rules. -/
  compare : Ruleset → Ruleset → Effect σ Text
  /-- Design test cases. -/
  tests : Ruleset → Effect σ (List TestCase)

/-- The analyst that fills templates.  It never fails. -/
def Analyst.template : Analyst σ where
  plan mode := pure mode.defaultPlan
  explain rules _ := pure (Template.explain rules)
  verify rules explanation := pure (Template.verify rules explanation)
  rewrite _ explanation missing := pure (Template.rewrite explanation missing)
  compare before after := pure (Template.compare before after)
  tests rules := pure (Template.testCases rules)

/-- The analyst that asks a language model. -/
def Analyst.model (generator : Generator σ) : Analyst σ where
  plan := Model.plan generator
  explain := Model.explain generator
  verify := Model.verify generator
  rewrite := Model.rewrite generator
  compare := Model.compare generator
  tests := Model.tests generator

/-- An effect of the analyst as an effect on the world. -/
def beyond {α : Type} (e : Effect σ α) : Effect (World σ) α :=
  .ofTransition fun w =>
    let (outcome, s) := e.from w.beyond
    (outcome, { w with beyond := s })

/-- A look at the files. -/
def look {α : Type} (f : FileTree → Except Failure α) : Effect (World σ) α :=
  .ofTransition fun w => (f w.files, w)

/-- A change of the files. -/
def change (f : FileTree → Except Failure Unit × FileTree) : Effect (World σ) Unit :=
  .ofTransition fun w =>
    let (outcome, files) := f w.files
    (outcome, { w with files })

/-- The collaborators of a review. -/
def collaborators (s : Settings) (analyst : Analyst σ) (store : TraceStore) :
    Collaborators (World σ) where
  notes := look fun files => (Notes.load? files s.notes).map Notes.render
  plan mode := beyond (analyst.plan mode)
  check rules := pure (Check.analyze rules).issues
  retrieve query := look fun files =>
    Knowledge.retrieve s.retrieval.limits files s.retrieval.folder query
  explain rules context := beyond (analyst.explain rules context)
  verify rules explanation := beyond (analyst.verify rules explanation)
  rewrite rules explanation missing := beyond (analyst.rewrite rules explanation missing)
  compare before after := beyond (analyst.compare before after)
  tests rules := beyond (analyst.tests rules)
  save trace := change (store.save trace)

/-- Review rules in a mode. -/
def run (s : Settings) (analyst : Analyst σ) (clock : Clock) (mode : Mode) (inputs : List Text)
    (w : World σ) : Except Failure Text × World σ :=
  let store := TraceStore.new s.trace.enabled s.trace.folder inputs clock
  let (outcome, w) := Run.execute (collaborators s analyst store) mode inputs w
  (outcome.result, w)

end Review
end RuleReview
