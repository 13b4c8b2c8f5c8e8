import ResourceMoves.Fault
import ResourceMoves.Plan.Json

/-!
# Analysis of a plan

From a plan to a matching: the entries are checked, the candidates taken and matched.
-/

namespace ResourceMoves

namespace Plan

/-- The plan that a text spells to a reader of JSON. -/
def read (json : Json.Reader) (text : String) : Except Fault Plan :=
  match read? json text with
  | some p => .ok p
  | none   => .error (.planUnreadable "not a plan in JSON")

/-- The candidates of a plan, or the first entry that has a defect. -/
def extract (p : Plan) : Except Fault Candidates :=
  match p.defect? with
  | some (address, defect) =>
      .error (.planEntry (if defect = .noAddress then "" else address) defect)
  | none => .ok p.candidates

/-- The matching of a plan's candidates under ignore rules. -/
def analyse (watch : Matching.Watch) (rules : List Ignore.Rule) (p : Plan) :
    Except Fault Matching := do
  (Matching.checkpoint watch .start).mapError Fault.ofRefusal
  let candidates ← p.extract
  (Matching.solve watch (Matching.judgeBy rules) candidates.deletes candidates.creates).mapError
    Fault.ofRefusal

end Plan

/-- The warning about a rule that ignored nothing. -/
def Ignore.Rule.unusedWarning (r : Ignore.Rule) : String :=
  "Ignore rule " ++ Text.quoted r.text ++ " did not match any difference"

end ResourceMoves
