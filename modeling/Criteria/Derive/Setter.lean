import Criteria.Criterion
import Criteria.Derive.Directive

/-!
# Setters

The rules of a generated row are a chain of setters on the default rules: one setter for
every rule that the field's directive sets, in a fixed order.
-/

namespace Criteria.Derive

/-- A setter of one rule. -/
inductive Setter where
  | target (name : String)
  | case (choice : Case)
  | textMatch (choice : TextMatch)
  | dateOp (choice : DateOp)
  | logic (choice : Logic)
  | skipSynthesis (skip : Bool)
  | ignoreIfEmpty (ignore : Bool)
deriving DecidableEq, Repr

/-- The rules with one of them set. -/
def Setter.apply (rules : Rules) : Setter → Rules
  | target name => { rules with target := some name }
  | case choice => { rules with case := choice }
  | textMatch choice => { rules with textMatch := choice }
  | dateOp choice => { rules with dateOp := choice }
  | logic choice => { rules with logic := choice }
  | skipSynthesis skip => { rules with skipSynthesis := skip }
  | ignoreIfEmpty ignore => { rules with ignoreIfEmpty := ignore }

/-- The setters for the rules that a directive sets. -/
def FilterDirective.setters (a : FilterDirective) : List Setter :=
  (a.target.map Setter.target).toList ++ (a.case.map Setter.case).toList
    ++ (a.textMatch.map Setter.textMatch).toList ++ (a.dateOp.map Setter.dateOp).toList
    ++ (a.logic.map Setter.logic).toList
    ++ (if a.skipSynthesis then [Setter.skipSynthesis true] else [])
    ++ (a.ignoreIfEmpty.map Setter.ignoreIfEmpty).toList

/-- The rules that a chain of setters makes of the default ones. -/
def Setter.chain (setters : List Setter) : Rules :=
  setters.foldl Setter.apply {}

end Criteria.Derive
