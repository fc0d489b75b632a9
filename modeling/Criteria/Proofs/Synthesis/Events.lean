import Criteria.Proofs.Formula.Outline
import Criteria.Proofs.Synthesis.Meaning
import Criteria.Proofs.Synthesis.Optimism
import Mathlib.Data.List.TakeWhile

/-!
# The log of a synthesis

The log follows the table up to the first criterion with an offence: one line for each criterion
that takes part, one for each that is passed over for want of a target, none for any other.  A last
line tells the outcome, if there is one (`Filter.events_account`).

The lines of the criteria say enough to write the formula down without it: a reader who keeps the
text so far and the last connective has to add parentheses only where the connective changes
(`Line.replay?`).  The invariant of that reader is that the text is the written form of what has
been joined, and the connective the one at its root (`foldl_replayStep`).
-/

namespace Criteria

/-- A report as the log shows it. -/
structure Line where
  level : String
  message : String
  details : List (String × String)

/-- The line of a report. -/
def Event.line (e : Event) : Line :=
  ⟨e.level, e.message, e.details⟩

namespace Line

/-- The last line of the log; a fault has none. -/
def ofOutcome? : Except Fault (Option Formula) → Option Line
  | .error _ => none
  | .ok (some p) => some ⟨"DEBUG", "synthesized predicate", [("predicate", p.text)]⟩
  | .ok none => some ⟨"DEBUG", "no field contributed, nothing to filter", []⟩

/-! ## Reading the log back -/

/-- The connective and the leaf that a line reports, in words. -/
def part? (l : Line) : Option (String × String) :=
  if l.message = "folding" then do
    let logic ← l.details.lookup "logic"
    let leaf ← l.details.lookup "predicate"
    return (logic, leaf)
  else none

/-- Takes one more leaf to the connective and the text so far, the text in parentheses if the
connective before was another one. -/
def replayStep : Option (Option String × String) → String × String →
    Option (Option String × String)
  | none, (_, leaf) => some (none, leaf)
  | some (last, sofar), (logic, leaf) =>
    let operand := if last = none ∨ last = some logic then sofar else "(" ++ sofar ++ ")"
    some (some logic, operand ++ (if logic = "and" then " AND " else " OR ") ++ leaf)

/-- The text that the leaves of a log come to. -/
def replay? (lines : List Line) : Option String :=
  ((lines.filterMap part?).foldl replayStep none).map Prod.snd

/-- One more leaf is written after what has been joined. -/
theorem replayStep_join (p : Formula) (logic : Logic) (a : Atom) :
    replayStep (some (p.connective?.map Logic.name, p.text)) (logic.name, a.text) =
      some ((p.join logic (.leaf a)).connective?.map Logic.name,
        (p.join logic (.leaf a)).text) := by
  have hleaf : Formula.enclose logic (Formula.leaf a).connective? (Formula.leaf a).text
      = a.text := by
    simp [Formula.enclose, Formula.connective?, Formula.text]
  rw [Formula.connective?_join, Formula.text_join, hleaf]
  cases logic <;> rcases p.connective? with _ | _ | _ <;>
    simp [replayStep, Formula.enclose, Logic.name, Outline.between]

/-- The reader of the log holds the written form of what has been joined. -/
theorem foldl_replayStep (parts : List (Logic × Atom)) :
    (parts.map fun part => (part.1.name, part.2.text)).foldl replayStep none =
      (Formula.ofLeaves? parts).map fun p => (p.connective?.map Logic.name, p.text) := by
  induction parts using List.reverseRecOn with
  | nil => rfl
  | append_singleton parts part ih =>
    rw [List.map_append, List.foldl_append, ih, Formula.ofLeaves?_concat]
    cases Formula.ofLeaves? parts with
    | none => rfl
    | some p => exact replayStep_join p part.1 part.2

end Line

/-! ## One criterion -/

namespace Scanned

/-- What the log says of a criterion, if anything. -/
def line? (schema : Schema) (options : Options) (s : Scanned) : Option Line :=
  if s.contributes schema then
    (s.leaf? schema).map fun part =>
      ⟨"TRACE", "folding", [("field", s.criterion.name), ("logic", s.criterion.rules.logic.name),
        ("predicate", part.2.text)]⟩
  else if s.criterion.isUntargeted schema && options.optimistic then
    some ⟨"DEBUG", "model field not found, skipping",
      [("field", s.criterion.name), ("model_field", s.criterion.target)]⟩
  else none

variable {schema : Schema} {options : Options} {s : Scanned} {step : Step}

/-- What a step reports is what the log says of its criterion. -/
theorem map_line_event? (h : s.step schema options = .ok step) :
    step.event?.map Event.line = s.line? schema options := by
  rcases step_eq_ok_cases h with ⟨hcontributes, atom, hleaf, rfl⟩ |
    ⟨hskip, htarget, hoptimistic, rfl⟩ | ⟨hcontributes, htargeted, rfl⟩
  · rw [line?, if_pos hcontributes, hleaf]
    rfl
  · have hcontributes : s.contributes schema = false := by simp [contributes, htarget]
    have huntargeted : s.criterion.isUntargeted schema = true := by
      simp [Criterion.isUntargeted, hskip, htarget]
    simp only [line?, hcontributes, huntargeted, hoptimistic]
    rfl
  · have huntargeted : s.criterion.isUntargeted schema = false := by
      unfold Criterion.isUntargeted
      rcases htargeted with hskip | hsome
      · rw [hskip]
        rfl
      · rw [Option.isNone_eq_false_iff.2 hsome, Bool.and_false]
    simp only [line?, hcontributes, huntargeted]
    rfl

/-- The log of a step gives back the leaf that it joins. -/
theorem part?_event (step : Step) :
    (step.event?.map Event.line).bind Line.part? =
      step.leaf?.map fun part => (part.1.name, part.2.text) := by
  cases step <;> rfl

end Scanned

/-! ## A whole run -/

namespace Step

variable {schema : Schema} {options : Options}

/-- A run reports on the criteria before the first with an offence. -/
theorem lines_run (rows : List Scanned) :
    ((run schema options rows).1.filterMap event?).map Event.line =
      (rows.takeWhile fun s => ¬ s.Offends schema options).filterMap
        (Scanned.line? schema options) := by
  induction rows with
  | nil => rfl
  | cons s rows ih =>
    by_cases hoffends : s.Offends schema options
    · obtain ⟨fault, hoffence⟩ := id hoffends
      rw [List.takeWhile_cons_of_neg (by simpa using hoffends)]
      simp only [run, Scanned.step_eq_error_iff.2 hoffence]
      rfl
    · obtain ⟨step, hstep⟩ := Scanned.step_eq_ok_of_not_offends hoffends
      rw [List.takeWhile_cons_of_pos (by simpa using hoffends)]
      simp only [run, hstep, List.filterMap_cons, ← Scanned.map_line_event? hstep]
      cases step.event? with
      | none => exact ih
      | some e => exact congrArg (e.line :: ·) ih

/-- The lines of a run give back the leaves that it joins. -/
theorem parts_run (steps : List Step) :
    ((steps.filterMap event?).map Event.line).filterMap Line.part? =
      (steps.filterMap leaf?).map fun part => (part.1.name, part.2.text) := by
  rw [List.filterMap_map, List.filterMap_filterMap, List.map_filterMap]
  congr 1
  funext step
  rw [← Scanned.part?_event, Option.bind_map]

end Step

namespace Filter

variable {schema : Schema} {options : Options} {f : Filter}

/-- The outcome adds nothing to what the log says of the leaves. -/
theorem parts_events (schema : Schema) (options : Options) (f : Filter) :
    ((f.events schema options).map Event.line).filterMap Line.part? =
      ((Step.run schema options f.scan).1.filterMap Step.leaf?).map fun part =>
        (part.1.name, part.2.text) := by
  unfold events
  rw [List.map_append, List.filterMap_append, Step.parts_run]
  rcases f.synthesize schema options with _ | _ | p
  · exact List.append_nil _
  · exact List.append_nil _
  · exact List.append_nil _

/-- The lines of the leaves come to the text of the formula. -/
theorem replay?_events {result : Option Formula}
    (h : f.synthesize schema options = .ok result) :
    Line.replay? ((f.events schema options).map Event.line) = result.map Formula.text := by
  have hresult : result =
      Formula.ofLeaves? ((Step.run schema options f.scan).1.filterMap Step.leaf?) := by
    rw [synthesize_eq_of_run] at h
    split at h
    · cases h
    · exact (Except.ok.inj h).symm
  unfold Line.replay?
  rw [parts_events, Line.foldl_replayStep, Option.map_map, hresult]
  rfl

/-- **The log is an exact account of a synthesis.**  It has a line for each criterion before the
first with an offence that takes part or is passed over, in their order, and a last line that tells
the outcome if there is one.  A criterion that takes part there has a leaf.  The text of the
formula is the one that the lines of the leaves come to. -/
theorem events_account (schema : Schema) (options : Options) (f : Filter) :
    (f.events schema options).map Event.line =
        (f.scan.takeWhile fun s => ¬ s.Offends schema options).filterMap
            (Scanned.line? schema options)
          ++ (Line.ofOutcome? (f.synthesize schema options)).toList ∧
      (∀ s ∈ f.scan.takeWhile fun s => ¬ s.Offends schema options,
        s.contributes schema = true → (s.leaf? schema).isSome = true) ∧
      ∀ result, f.synthesize schema options = .ok result →
        Line.replay? ((f.events schema options).map Event.line) = result.map Formula.text := by
  refine ⟨?_, ?_, fun result => replay?_events⟩
  · unfold events
    rw [List.map_append, Step.lines_run]
    rcases f.synthesize schema options with _ | _ | p
    · rfl
    · rfl
    · rfl
  · intro s hs hcontributes
    have hfree : ¬ s.Offends schema options := by simpa using List.mem_takeWhile_imp hs
    exact Scanned.isSome_leaf? hfree hcontributes

end Filter

-- The parentheses follow the changes of the connective.
example :
    Line.replay?
      [⟨"TRACE", "folding", [("field", "x"), ("logic", "or"), ("predicate", "a")]⟩,
        ⟨"TRACE", "folding", [("field", "y"), ("logic", "and"), ("predicate", "b")]⟩,
        ⟨"DEBUG", "model field not found, skipping", [("field", "z"), ("model_field", "z")]⟩,
        ⟨"TRACE", "folding", [("field", "u"), ("logic", "or"), ("predicate", "c")]⟩,
        ⟨"TRACE", "folding", [("field", "v"), ("logic", "or"), ("predicate", "d")]⟩,
        ⟨"TRACE", "folding", [("field", "w"), ("logic", "and"), ("predicate", "e")]⟩] =
      some "((a AND b) OR c OR d) AND e" := by
  decide

end Criteria
