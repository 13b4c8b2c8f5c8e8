import ResourceMoves.Report.Basic
import ResourceMoves.Text.Grid

/-!
# Reports of a matching

The matches as a table, then every comparison under the created resource that it is about, the
best first, then the candidates without a match.  In JSON the comparisons stand in the order in
which they were made.
-/

namespace ResourceMoves

open ResourceMoves.Attribute (Difference)
open ResourceMoves.Matching (Comparison)
open ResourceMoves.Plan (Candidate)

namespace Matching.Comparison

/-- How many of the differences are ignored. -/
def ignoredCount (c : Comparison) : Nat := c.differences.length - c.score

/-- A match as JSON. -/
def matchJson (c : Comparison) : Json.Value :=
  .object [("resource_type", .string c.create.type), ("from", .string c.delete.address),
    ("to", .string c.create.address), ("score", .nat c.score)]

/-- A comparison as JSON. -/
def toJson (c : Comparison) : Json.Value :=
  .object [("delete", .string c.delete.address), ("create", .string c.create.address),
    ("score", .nat c.score), ("differences", .array (c.differences.map Difference.toJson))]

end Matching.Comparison

namespace Report

/-- A matching as JSON. -/
def matchingJson (m : Matching) : Json.Value :=
  .object [("fingerprint", .string (Move.fingerprint m.moves)),
    ("matches", .array (m.found.map Comparison.matchJson)),
    ("unmatched_deletes", .strings (m.unmatchedDeletes.map (·.address))),
    ("unmatched_creates", .strings (m.unmatchedCreates.map (·.address))),
    ("comparisons", .array (m.comparisons.map Comparison.toJson))]

/-- The table of the matches. -/
def matchTable (found : List Comparison) : String :=
  let header := ["#", "Type", "From", "To", "Ignored"]
  Text.grid header.length <| header :: found.zipIdx.map fun (c, i) =>
    [Number.text (i + 1), c.create.type, c.delete.address, c.create.address,
      Number.text c.ignoredCount]

/-- The sign of a comparison: a match, another without differences that count, or any other. -/
def comparisonSign (r : Report) (m : Matching) (c : Comparison) : String :=
  if m.isMatch c then r.paint .green "✓"
  else if c.score = 0 then r.paint .yellow "="
  else r.paint .red "✗"

/-- A difference on a line. -/
def differenceLine (r : Report) (d : Difference) : String :=
  let line := d.display
  "       " ++ (if d.ignored then r.paint .dimmed line else line) ++ "\n"

/-- A comparison: what was deleted, the score, and the differences. -/
def comparisonText (r : Report) (m : Matching) (c : Comparison) : String :=
  "   " ++ r.comparisonSign m c ++ " " ++ c.delete.address ++ ": " ++ Number.text c.score ++
    " differences\n" ++ String.join (c.differences.map r.differenceLine)

/-- The comparisons of one created resource under its address and type. -/
def createSection (r : Report) (m : Matching) (address : String) : String :=
  let type := (m.comparisons.find? fun c => c.create.address == address).elim "" (·.create.type)
  "\n" ++ r.paint .bold address ++ " (" ++ type ++ ")\n" ++
    String.join ((m.comparisonsOf address).map (r.comparisonText m))

/-- The candidates of one side without a match, if there are any. -/
def unmatchedText (title : String) (candidates : List Candidate) : String :=
  if candidates.isEmpty then ""
  else "\n" ++ title ++ ":\n" ++
    String.join (candidates.map fun c => "   - " ++ c.address ++ "\n")

/-- The numbers of matches and of candidates without one. -/
def summaryText (r : Report) (m : Matching) : String :=
  "\nSummary: " ++ r.paint .green (Number.text m.found.length) ++ " matched, " ++
    r.paint .red (Number.text m.unmatchedDeletes.length) ++ " deletes and " ++
    r.paint .yellow (Number.text m.unmatchedCreates.length) ++ " creates left unmatched\n"

/-- A matching as text. -/
def matchingText (r : Report) (m : Matching) : String :=
  "\n" ++ r.paint .bold "Analysis" ++ "\n\n" ++
    (if m.found.isEmpty then "   No matches.\n" else matchTable m.found ++ "\n") ++
    String.join (m.comparedCreates.map (r.createSection m)) ++
    unmatchedText "Unmatched deletes" m.unmatchedDeletes ++
    unmatchedText "Unmatched creates" m.unmatchedCreates ++ r.summaryText m

/-- A matching in the form of the report. -/
def matching (r : Report) (m : Matching) : String :=
  match r.form with
  | .json => (matchingJson m).pretty
  | .text => r.matchingText m

end Report

end ResourceMoves
