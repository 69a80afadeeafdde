import RuleReview.Proofs.Json.Nesting

/-!
# A tree has the tokens it was put together from

The tokens of a tree are put together to the tree (`ofTokens?_tokens`).  No other tokens are: what
has been read at any point accounts for all tokens so far, in their order (`Partial.tokens`), and
each token is added behind them (`tokens_step`).  So a text is JSON exactly if its tokens are those
of a tree, and it is known from its tokens which tree it has.

## What is here

* `Frame.tokens`, `Partial.tokens` — the tokens that were read.
* `tokens_step`, `tokens_readOn` — one more token, and more of them.
* `ofTokens?_eq_some_iff` — the tree of a sequence of tokens.
-/

set_option autoImplicit false

namespace RuleReview
namespace Json

/-! ## The tokens that were read -/

/-- The tokens of items or fields of a container, a comma behind each. -/
def doneTokens {α : Type} (tokens : α → List Token) (done : List α) : List Token :=
  done.flatMap fun part => tokens part ++ [.comma]

/-- The tokens of an open container, up to where its next value begins. -/
def Frame.tokens : Frame → List Token
  | .array done => .beginArray :: doneTokens Tree.tokens done.reverse
  | .object done key =>
    .beginObject :: (doneTokens Tree.fieldTokens done.reverse ++ [.string key, .colon])

/-- The tokens of the open containers, the outermost first. -/
def stackTokens (stack : List Frame) : List Token := stack.reverse.flatMap Frame.tokens

/-- The tokens that were read so far. -/
def Partial.tokens : Partial → List Token
  | value stack => stackTokens stack
  | firstItem stack => stackTokens stack ++ [.beginArray]
  | firstKey stack => stackTokens stack ++ [.beginObject]
  | key stack done => stackTokens stack ++ .beginObject :: doneTokens Tree.fieldTokens done.reverse
  | colon stack done k =>
    stackTokens stack ++ .beginObject :: (doneTokens Tree.fieldTokens done.reverse ++ [.string k])
  | complete stack v => stackTokens stack ++ v.tokens

theorem stackTokens_cons (frame : Frame) (stack : List Frame) :
    stackTokens (frame :: stack) = stackTokens stack ++ frame.tokens := by
  rw [stackTokens, List.reverse_cons, List.flatMap_append, List.flatMap_singleton, stackTokens]

/-- Whether commas are counted to what is behind them or before them, the tokens are the same. -/
theorem tokens_append_more {α : Type} {tokens : α → List Token} {more : List α → List Token}
    (hnil : more [] = [])
    (hcons : ∀ part parts, more (part :: parts) = .comma :: (tokens part ++ more parts))
    (first : α) (parts : List α) (last : α) :
    tokens first ++ more (parts ++ [last]) = doneTokens tokens (first :: parts) ++ tokens last := by
  induction parts generalizing first with
  | nil => simp [doneTokens, hnil, hcons]
  | cons part parts ih =>
    rw [List.cons_append, hcons, ih, doneTokens, doneTokens, List.flatMap_cons]
    simp

/-- An array is complete with its last item. -/
theorem tokens_array_concat (items : List Tree) (last : Tree) :
    (Tree.array (items ++ [last])).tokens =
      .beginArray :: (doneTokens Tree.tokens items ++ (last.tokens ++ [.endArray])) := by
  cases items with
  | nil => simp [Tree.tokens, Tree.moreItems, doneTokens]
  | cons first items =>
    have hmore : first.tokens ++ Tree.moreItems (items ++ [last]) = _ :=
      tokens_append_more rfl (fun _ _ => rfl) first items last
    rw [List.cons_append, Tree.tokens, ← List.append_assoc, hmore, List.append_assoc]

/-- An object is complete with its last field. -/
theorem tokens_object_concat (fields : List (List StringPart × Tree))
    (last : List StringPart × Tree) :
    (Tree.object (fields ++ [last])).tokens =
      .beginObject :: (doneTokens Tree.fieldTokens fields ++
        (Tree.fieldTokens last ++ [.endObject])) := by
  cases fields with
  | nil => simp [Tree.tokens, Tree.moreFields, doneTokens]
  | cons first fields =>
    have hmore : Tree.fieldTokens first ++ Tree.moreFields (fields ++ [last]) = _ :=
      tokens_append_more rfl (fun _ _ => rfl) first fields last
    rw [List.cons_append, Tree.tokens, ← List.append_assoc, hmore, List.append_assoc]

/-! ## One token after the other -/

section Step

variable {p q : Partial} {t : Token} {stack : List Frame}

theorem tokens_begin (h : Partial.begin? stack t = some q) :
    q.tokens = stackTokens stack ++ [t] := by
  cases t <;> cases h <;> simp [Partial.tokens, Tree.tokens]

/-- A token is added behind those that were read. -/
theorem tokens_step (h : p.step t = some q) : q.tokens = p.tokens ++ [t] := by
  unfold Partial.step at h
  split at h
  case h_1 stack t => exact tokens_begin h
  case h_3 stack t _ =>
    rw [tokens_begin h, stackTokens_cons]
    rfl
  case h_8 stack done v =>
    cases h
    simp [Partial.tokens, stackTokens_cons, Frame.tokens, doneTokens]
  case h_9 done stack v =>
    cases h
    rw [Partial.tokens, List.reverse_cons, tokens_array_concat, Partial.tokens, stackTokens_cons,
      Frame.tokens]
    simp
  case h_10 stack done k v =>
    cases h
    simp [Partial.tokens, stackTokens_cons, Frame.tokens, doneTokens, Tree.fieldTokens]
  case h_11 done k stack v =>
    cases h
    rw [Partial.tokens, List.reverse_cons, tokens_object_concat, Partial.tokens, stackTokens_cons,
      Frame.tokens, Tree.fieldTokens]
    simp
  case h_12 => cases h
  -- within a field nothing is complete yet
  all_goals
    cases h
    simp [Partial.tokens, stackTokens_cons, Frame.tokens, Tree.tokens, doneTokens]

theorem tokens_readOn {ts : List Token} (h : readOn p ts = some q) : q.tokens = p.tokens ++ ts := by
  induction ts generalizing p with
  | nil =>
    cases h
    rw [List.append_nil]
  | cons t ts ih =>
    rw [readOn, List.foldlM_cons, Option.bind_eq_bind, Option.bind_eq_some_iff] at h
    obtain ⟨r, hstep, hrest⟩ := h
    rw [ih hrest, tokens_step hstep, List.append_assoc, List.singleton_append]

/-- **A sequence of tokens is put together to a tree exactly if it is the tokens of that tree.** -/
theorem ofTokens?_eq_some_iff {ts : List Token} {tree : Tree} :
    Tree.ofTokens? ts = some tree ↔ ts = tree.tokens := by
  constructor
  · intro h
    rw [Tree.ofTokens?, Option.bind_eq_bind, Option.bind_eq_some_iff] at h
    obtain ⟨last, hread, hlast⟩ := h
    have htokens : last.tokens = [] ++ ts := tokens_readOn hread
    unfold Partial.finish? at hlast
    split at hlast <;> cases hlast
    exact htokens.symm
  · rintro rfl
    exact ofTokens?_tokens tree

end Step

end Json
end RuleReview
