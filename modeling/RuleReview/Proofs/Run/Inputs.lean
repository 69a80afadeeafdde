import RuleReview.Proofs.Run.Course
import RuleReview.Proofs.Run.Guards

/-!
# Which inputs a run has read

The reading steps of a plan read the inputs one after the other, each once, until none is left.
Other steps come in any order and number in between, and work with what was read by then: the
comparison with the first two inputs, all others with the last one.  So a count of reading steps
says what is in the state, what the trace tells and what each request is about.

## What is here

* `cursor` — how many inputs were read after some turns; `HasRead` — what that means for the state
  and for the trace.
* `ReadTurn`, `CompareTurn` — how a reading and a comparing step go; `Call.IsAbout` — the inputs
  that a request is about.
* `inputs_read_in_order` — this holds of every turn of every run; then a run that goes on reading
  after the first two inputs.
-/

set_option autoImplicit false

namespace RuleReview
namespace Run

variable {σ : Type}

/-! ## Counting reading steps -/

/-- The number of reading steps among turns. -/
def readings (past : List Turn) : Nat := past.countP (·.step = .parse)

/-- The number of inputs read after some turns, which is where the next input stands. -/
def cursor (inputs : List Text) (past : List Turn) : Nat := min (readings past) inputs.length

/-- The index that an event tells was read. -/
def Event.readIndex? : Event → Option Nat
  | .parsed index _ _ => some index
  | _ => none

/-- The indices that turns tell were read, in the order of the turns. -/
def readBy (past : List Turn) : List Nat := (past.flatMap (·.events)).filterMap Event.readIndex?

/-- What a run has read after some turns. -/
structure HasRead (inputs : List Text) (past : List Turn) (s : State) : Prop where
  /-- Its rulesets are those of the first inputs, in their order. -/
  rulesets : s.rulesets = (inputs.take (cursor inputs past)).map Script.parse
  /-- The next input to read is the one after these. -/
  next : s.next = cursor inputs past
  /-- It told of each of these inputs once, in their order. -/
  indices : readBy past = List.range (cursor inputs past)

section Count

variable {inputs : List Text} {past : List Turn} {t : Turn}

theorem parsedBy_eq_take (inputs : List Text) (past : List Turn) :
    parsedBy inputs past = (inputs.take (cursor inputs past)).map Script.parse := by
  rw [parsedBy, List.take_eq_take_min, cursor, readings]

theorem length_parsedBy (inputs : List Text) (past : List Turn) :
    (parsedBy inputs past).length = cursor inputs past := by
  rw [parsedBy, List.length_map, List.length_take, cursor, readings]

theorem readings_append_of_eq (h : t.step = .parse) :
    readings (past ++ [t]) = readings past + 1 := by
  simp [readings, h]

theorem cursor_append_of_ne (h : t.step ≠ .parse) :
    cursor inputs (past ++ [t]) = cursor inputs past := by
  simp [cursor, readings, h]

theorem readBy_append (past : List Turn) (t : Turn) :
    readBy (past ++ [t]) = readBy past ++ t.events.filterMap Event.readIndex? := by
  simp [readBy]

/-- The ruleset that was read last is that of the input before the next. -/
theorem getLast?_parsedBy_eq_some_iff {rules : Ruleset} :
    (parsedBy inputs past).getLast? = some rules ↔
      0 < cursor inputs past ∧ inputs[cursor inputs past - 1]?.map Script.parse = some rules := by
  rw [List.getLast?_eq_getElem?, length_parsedBy, parsedBy_eq_take, List.getElem?_map]
  rcases Nat.eq_zero_or_pos (cursor inputs past) with hzero | hpos
  · rw [hzero]
    simp
  · rw [List.getElem?_take_of_lt (Nat.sub_one_lt_of_lt hpos)]
    exact (and_iff_right hpos).symm

/-- Rulesets of which there are two are those of the first two inputs. -/
theorem inputs_of_parsedBy {before after : Ruleset} {rest : List Ruleset}
    (h : parsedBy inputs past = before :: after :: rest) :
    2 ≤ cursor inputs past ∧ ∃ first second others, inputs = first :: second :: others ∧
      before = Script.parse first ∧ after = Script.parse second := by
  have hlength := congrArg List.length h
  rw [length_parsedBy, List.length_cons, List.length_cons] at hlength
  have hle : cursor inputs past ≤ inputs.length := Nat.min_le_right _ _
  rcases inputs with _ | ⟨first, _ | ⟨second, others⟩⟩
  · rw [List.length_nil] at hle
    omega
  · rw [List.length_singleton] at hle
    omega
  · rw [parsedBy_eq_take, hlength, List.take_succ_cons, List.take_succ_cons, List.map_cons,
      List.map_cons, List.cons.injEq, List.cons.injEq] at h
    exact ⟨by omega, first, second, others, rfl, h.1.symm, h.2.1.symm⟩

end Count

/-! ## How the steps go -/

/-- How a reading step goes after other turns. -/
structure ReadTurn (inputs : List Text) (past : List Turn) (t : Turn) : Prop where
  /-- It asks for nothing. -/
  silent : t.asked? = none
  /-- As many reading steps as went before, so many inputs are passed over; the next one is read. -/
  reads : ∀ text, inputs[readings past]? = some text →
    t.after = { t.before with
        rulesets := t.before.rulesets ++ [Script.parse text], next := readings past + 1 } ∧
      told [t] = [⟨"parse", .object [("branches", .nat (Script.parse text).branches.length),
        ("index", .nat (readings past)), ("outputs", .texts (Script.parse text).outputs.names)]⟩]
  /-- When none is left, nothing is read and nothing changes. -/
  surplus : inputs.length ≤ readings past → t.after = t.before ∧
    told [t] = [⟨"parse_skipped", .object [("idx", .nat inputs.length),
      ("reason", .string "no unconsumed input")]⟩]

/-- How a comparing step goes after other turns. -/
structure CompareTurn (inputs : List Text) (past : List Turn) (t : Turn) : Prop where
  /-- It asks if two inputs were read. -/
  asks_iff : t.asked?.isSome ↔ 2 ≤ cursor inputs past
  /-- It asks about the first two, however many were read. -/
  request : ∀ call, t.asked? = some call → ∃ first second others,
    inputs = first :: second :: others ∧ call = .compare (Script.parse first) (Script.parse second)
  /-- Otherwise it writes a fixed text, and tells how many inputs were read. -/
  alone : t.asked? = none → t.after = { t.before with explanation := diffUnavailable } ∧
    told [t] = [⟨"diff_fallback", .object [("got", .nat (cursor inputs past)),
      ("reason", .string "fewer than two parsed rules")]⟩]

/-- What a request is about, when `read` inputs were read: the first two inputs, or the last one
that was read. -/
def Call.IsAbout (inputs : List Text) (read : Nat) : Call → Prop
  | .compare before after => 2 ≤ read ∧ ∃ first second others,
    inputs = first :: second :: others ∧ before = Script.parse first ∧ after = Script.parse second
  | .check rules | .explain rules _ | .verify rules _ | .rewrite rules _ _ | .tests rules =>
    0 < read ∧ inputs[read - 1]?.map Script.parse = some rules
  | .retrieve _ => True

section Act

variable {inputs : List Text} {past : List Turn} {s : State}

/-- A reading step reads the next input, if there is one. -/
theorem act_parse_cases (h : Follows inputs past s) (memory : Text) :
    (∃ text, inputs[readings past]? = some text ∧
        s.act inputs memory .parse =
          .done { s with
              rulesets := s.rulesets ++ [Script.parse text], next := readings past + 1 }
            [.parsed (readings past) (Script.parse text).branches.length
              (Script.parse text).outputs]) ∨
      inputs.length ≤ readings past ∧
        s.act inputs memory .parse = .done s [.parseSkipped inputs.length] := by
  have hcursor : s.next = cursor inputs past := by rw [h.next, h.rulesets, length_parsedBy]
  have hnext : inputs[s.next]? = inputs[readings past]? := by
    rw [h.next, h.rulesets, getElem?_length_parsedBy, readings]
  simp only [State.act]
  split
  · next hnone =>
    have hle : inputs.length ≤ readings past := List.getElem?_eq_none_iff.1 (hnext ▸ hnone)
    have hall : s.next = inputs.length := by rw [hcursor, cursor, Nat.min_eq_right hle]
    exact .inr ⟨hle, by rw [hall]⟩
  · next text hsome =>
    have hlt : readings past < inputs.length :=
      (List.getElem?_eq_some_iff.1 (hnext ▸ hsome)).1
    have hcount : s.next = readings past := by
      rw [hcursor, cursor, Nat.min_eq_left (Nat.le_of_lt hlt)]
    exact .inl ⟨text, hnext ▸ hsome, by rw [hcount]⟩

/-- A comparing step asks about the first two rulesets, or has fewer than two. -/
theorem act_diff_cases (h : Follows inputs past s) (memory : Text) :
    (∃ before after rest, parsedBy inputs past = before :: after :: rest ∧
        s.act inputs memory .diff = .ask (.compare before after) fun text =>
          ({ s with explanation := text }, [.compared text.length])) ∨
      cursor inputs past < 2 ∧
        s.act inputs memory .diff =
          .done { s with explanation := diffUnavailable }
            [.compareFellBack (cursor inputs past)] := by
  rw [← length_parsedBy, ← h.rulesets]
  simp only [State.act]
  split
  · next before after rest hread => exact .inl ⟨before, after, rest, hread, rfl⟩
  · next hfew =>
    refine .inr ⟨?_, rfl⟩
    rcases hread : s.rulesets with _ | ⟨before, _ | ⟨after, rest⟩⟩
    · exact Nat.zero_lt_two
    · exact Nat.one_lt_two
    · exact absurd hread (hfew before after rest)

/-- Every request is about the inputs that were read. -/
theorem isAbout_of_call? (h : Follows inputs past s) {memory : Text} {step : Step} {call : Call}
    (hcall : (s.act inputs memory step).call? = some call) :
    call.IsAbout inputs (cursor inputs past) := by
  have hlatest : ∀ rules, s.latest = some rules →
      0 < cursor inputs past ∧
        inputs[cursor inputs past - 1]?.map Script.parse = some rules := by
    intro rules hrules
    rw [h.latest] at hrules
    exact getLast?_parsedBy_eq_some_iff.1 hrules
  cases step with
  | staticChecks | explain | verify | rewrite | generateTests =>
    simp only [State.act] at hcall
    split at hcall <;> cases hcall
    exact hlatest _ (by assumption)
  | diff =>
    rcases act_diff_cases h memory with ⟨before, after, rest, hread, hact⟩ | ⟨_, hact⟩
    · rw [hact] at hcall
      obtain rfl := Option.some.inj hcall
      exact inputs_of_parsedBy hread
    · rw [hact] at hcall
      cases hcall
  | retrieveContext => cases hcall; trivial
  | parse =>
    simp only [State.act] at hcall
    split at hcall <;> cases hcall
  | unknown id => cases hcall

end Act

section Turns

variable {c : Collaborators σ} {inputs : List Text} {past : List Turn} {s : State}

theorem turn_parse (h : Follows inputs past s) (memory : Text) (w : σ) :
    ReadTurn inputs past (turn c inputs memory .parse s w).1 := by
  rcases act_parse_cases h memory with ⟨text, hsome, hact⟩ | ⟨hle, hact⟩
  · rw [turn_of_done hact]
    refine ⟨rfl, fun text' hsome' => ?_, fun hle => ?_⟩
    · obtain rfl := Option.some.inj (hsome.symm.trans hsome')
      exact ⟨rfl, rfl⟩
    · rw [List.getElem?_eq_none hle] at hsome
      cases hsome
  · rw [turn_of_done hact]
    refine ⟨rfl, fun text hsome => ?_, fun _ => ⟨rfl, rfl⟩⟩
    rw [List.getElem?_eq_none hle] at hsome
    cases hsome

theorem turn_diff (h : Follows inputs past s) (memory : Text) (w : σ) :
    CompareTurn inputs past (turn c inputs memory .diff s w).1 := by
  rcases act_diff_cases h memory with ⟨before, after, rest, hread, hact⟩ | ⟨hfew, hact⟩
  · have hasked : (turn c inputs memory .diff s w).1.asked? = some (.compare before after) := by
      rw [asked?_turn, hact]
      rfl
    obtain ⟨htwo, first, second, others, hinputs, hbefore, hafter⟩ := inputs_of_parsedBy hread
    refine ⟨?_, ?_, ?_⟩ <;> rw [hasked]
    · exact iff_of_true rfl htwo
    · intro call hsame
      obtain rfl := Option.some.inj hsame
      exact ⟨first, second, others, hinputs, by rw [hbefore, hafter]⟩
    · intro hnone
      cases hnone
  · rw [turn_of_done hact]
    refine ⟨iff_of_false Bool.false_ne_true (Nat.not_le.2 hfew), ?_, fun _ => ⟨rfl, rfl⟩⟩
    intro call hsome
    cases hsome

/-- Only a reading step tells that an input was read. -/
theorem Tells.readIndex? {t : Turn} (h : Tells inputs past t) (hstep : t.step ≠ .parse) :
    t.events.filterMap Event.readIndex? = [] := by
  cases h with
  | @once event _ hevents htells =>
    rw [hevents]
    cases event with
    | parsed index branches outputs => exact absurd (Option.some.inj htells).symm hstep
    | _ => rfl
  | twice _ _ hevents => rw [hevents]; rfl

/-- **A turn reads at most the next input**, and tells of it. -/
theorem readBy_append_turn (h : Follows inputs past s)
    (hindices : readBy past = List.range (cursor inputs past)) (memory : Text) (step : Step)
    (w : σ) :
    readBy (past ++ [(turn c inputs memory step s w).1]) =
      List.range (cursor inputs (past ++ [(turn c inputs memory step s w).1])) := by
  rw [readBy_append, hindices]
  by_cases hstep : step = .parse
  · subst hstep
    have hcount : readings (past ++ [(turn c inputs memory .parse s w).1]) = readings past + 1 :=
      readings_append_of_eq (turn_step c inputs memory .parse s w)
    rcases act_parse_cases h memory with ⟨text, hsome, hact⟩ | ⟨hle, hact⟩
    · have hlt : readings past < inputs.length := (List.getElem?_eq_some_iff.1 hsome).1
      rw [cursor, cursor, hcount, Nat.min_eq_left hlt, Nat.min_eq_left (Nat.le_of_lt hlt),
        turn_of_done hact, List.range_succ]
      rfl
    · rw [cursor, cursor, hcount, Nat.min_eq_right hle, Nat.min_eq_right (Nat.le_succ_of_le hle),
        turn_of_done hact]
      exact List.append_nil _
  · have hne : (turn c inputs memory step s w).1.step ≠ .parse := by rwa [turn_step]
    have hsilent : (turn c inputs memory step s w).1.events.filterMap Event.readIndex? = [] := by
      cases hfail : (turn c inputs memory step s w).1.failure? with
      | some e => rw [events_of_failed c inputs memory hfail, List.filterMap_nil]
      | none =>
        have htells := turn_of_all (P := Tells inputs past) (act_tells h memory step) hfail
        exact htells.readIndex? hne
    rw [hsilent, List.append_nil, cursor_append_of_ne hne]

theorem Follows.hasRead (h : Follows inputs past s)
    (hindices : readBy past = List.range (cursor inputs past)) : HasRead inputs past s where
  rulesets := by rw [h.rulesets, parsedBy_eq_take]
  next := by rw [h.next, h.rulesets, length_parsedBy]
  indices := hindices

/-- What a run has read after a turn, whether the turn failed or not. -/
theorem hasRead_append_turn (h : Follows inputs past s)
    (hindices : readBy past = List.range (cursor inputs past)) (memory : Text) (step : Step)
    (w : σ) :
    HasRead inputs (past ++ [(turn c inputs memory step s w).1])
      (turn c inputs memory step s w).1.after := by
  have hlater := readBy_append_turn (c := c) h hindices memory step w
  cases hfail : (turn c inputs memory step s w).1.failure? with
  | none => exact (turn_follows h hfail).hasRead hlater
  | some e =>
    have hne : (turn c inputs memory step s w).1.step ≠ .parse := by
      rw [turn_step]
      rintro rfl
      rcases act_parse_cases h memory with ⟨_, _, hact⟩ | ⟨_, hact⟩ <;>
        rw [turn_of_done hact] at hfail <;> cases hfail
    have hread := h.hasRead hindices
    rw [after_of_failed c inputs memory hfail]
    refine ⟨?_, ?_, hlater⟩ <;> rw [cursor_append_of_ne hne]
    · exact hread.rulesets
    · exact hread.next

end Turns

/-- **A run reads its inputs in order, and its requests are about what it has read.**  Before and
after each turn the rulesets are those of the first inputs, one for each reading step as long as
there are inputs, and the next input to read is the one after these. -/
theorem inputs_read_in_order (c : Collaborators σ) (mode : Mode) (inputs : List Text) (w : σ) :
    Attested c mode inputs w (turnsOf c mode inputs w) ∧
      ∀ past t future, turnsOf c mode inputs w = past ++ t :: future →
        HasRead inputs past t.before ∧ HasRead inputs (past ++ [t]) t.after ∧
        (t.step = .parse → ReadTurn inputs past t) ∧
        (t.step = .diff → CompareTurn inputs past t) ∧
        ∀ call, t.asked? = some call →
          call.step = t.step ∧ call.IsAbout inputs (cursor inputs past) := by
  refine ⟨turnsOf_attested c mode inputs w, fun past t future hsplit => ?_⟩
  have hstart : readBy [] = List.range (cursor inputs []) := by
    rw [cursor, readings, List.countP_nil, Nat.zero_min]
    rfl
  obtain ⟨⟨hfollows, hindices⟩, memory, w', hturn⟩ := before_of_turnsOf
    (P := fun past s => Follows inputs past s ∧ readBy past = List.range (cursor inputs past))
    ⟨follows_nil inputs, hstart⟩
    (fun memory past s step w h hok =>
      ⟨turn_follows h.1 hok, readBy_append_turn h.1 h.2 memory step w⟩)
    hsplit
  have hbefore : HasRead inputs past t.before := hfollows.hasRead hindices
  have hafter : HasRead inputs (past ++ [t]) t.after := by
    rw [hturn]
    exact hasRead_append_turn hfollows hindices memory t.step w'
  refine ⟨hbefore, hafter, fun hstep => ?_, fun hstep => ?_, fun call hcall => ?_⟩
  · rw [hturn, hstep]
    exact turn_parse hfollows memory w'
  · rw [hturn, hstep]
    exact turn_diff hfollows memory w'
  · rw [hturn, asked?_turn] at hcall
    exact ⟨step_of_call? hcall, isAbout_of_call? hfollows hcall⟩

/-- A comparing step after the third input: it asks about the first two all the same. -/
theorem first_two_compared_after_third :
    ∃ past t future,
      turnsOf { hardToPlease with plan := fun _ => pure ["parse", "parse", "parse", "diff"] }
          .agentic ["else", "if (a)", "if (b)"] () = past ++ t :: future ∧
        t.asked? = some (.compare (Script.parse "else") (Script.parse "if (a)")) ∧
        HasRead ["else", "if (a)", "if (b)"] past t.before ∧
        CompareTurn ["else", "if (a)", "if (b)"] past t := by
  obtain ⟨past, t, future, hsplit, hstep, hasked⟩ : ∃ past t future,
      turnsOf { hardToPlease with plan := fun _ => pure ["parse", "parse", "parse", "diff"] }
          .agentic ["else", "if (a)", "if (b)"] () = past ++ t :: future ∧ t.step = .diff ∧
        t.asked? = some (.compare (Script.parse "else") (Script.parse "if (a)")) :=
    ⟨[_, _, _], _, [], rfl, rfl, rfl⟩
  obtain ⟨hread, _, _, hcompare, _⟩ := (inputs_read_in_order _ _ _ _).2 past t future hsplit
  exact ⟨past, t, future, hsplit, hasked, hread, hcompare hstep⟩

end Run
end RuleReview
