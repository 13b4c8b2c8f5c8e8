import ResourceMoves.Json.Value

/-!
# JSON documents

What a JSON text says before it is given a value.  Some texts obey the grammar and yet denote
nothing: a string with half of a surrogate pair, a number beyond the doubles.  Such leaves are
`none` here, and a document that holds one has no value (`Document.value?`); a reader who skips
that part never notices.  A document also keeps the order of entries and keys given twice.
-/

namespace ResourceMoves.Json

/-- A JSON text, taken apart. -/
inductive Document
  | null
  | bool (b : Bool)
  | number (n : Option Number)
  | string (s : Option String)
  | array (items : List Document)
  | object (entries : List (Option String × Document))

/-- How many arrays and objects a value may have around its innermost part. -/
def depthLimit : Nat := 127

namespace Document

/-- The value of a document with at most `depth` arrays and objects around any part.  Of several
entries with one key the last counts. -/
def value? : (depth : Nat) → Document → Option Value
  | _, .null       => some .null
  | _, .bool b     => some (.bool b)
  | _, .number n   => n.map .number
  | _, .string s   => s.map .string
  | 0, .array _    => none
  | 0, .object _   => none
  | depth + 1, .array items =>
      (items.mapM fun d => value? depth d).map .array
  | depth + 1, .object entries =>
      (entries.mapM fun (e : Option String × Document) => do
          return (← e.1, ← value? depth e.2)).map fun es => .object (Keyed.ofEntries es)

mutual

/-- The document that denotes a value. -/
def ofValue : Value → Document
  | .null           => .null
  | .bool b         => .bool b
  | .number n       => .number (some n)
  | .string s       => .string (some s)
  | .array items    => .array (ofItems items)
  | .object entries => .object (ofEntries entries)

/-- The documents of an array's items. -/
def ofItems : List Value → List Document
  | []      => []
  | v :: vs => ofValue v :: ofItems vs

/-- The documents of an object's entries. -/
def ofEntries : List (String × Value) → List (Option String × Document)
  | []           => []
  | (k, v) :: es => (some k, ofValue v) :: ofEntries es

end

/-- The text of a string. -/
def text? : Document → Option String
  | .string s => s
  | _         => none

/-- The items of an array. -/
def items? : Document → Option (List Document)
  | .array items => some items
  | _            => none

/-- The one part of an object with the given key, if there is one; `none` outside means that the key
is given twice. -/
def part? (entries : List (String × Document)) (name : String) : Option (Option Document) :=
  match entries.filter fun e => e.1 == name with
  | []       => some none
  | [(_, d)] => some (some d)
  | _        => none

/-- The parts of a record with the given field names.  The record is an object, which may have other
fields too and names no field of its own twice, or an array of its fields in order, which may end
early. -/
def fields? (names : List String) : Document → Option (List (Option Document))
  | .object entries => do
      let entries ← entries.mapM fun e => e.1.map (·, e.2)
      names.mapM (part? entries)
  | .array items =>
      if items.length ≤ names.length then
        some (items.map some ++ List.replicate (names.length - items.length) none)
      else none
  | _ => none

/-- A part that may be missing or null. -/
def optional? {α : Type} (read : Document → Option α) : Option Document → Option (Option α)
  | none       => some none
  | some .null => some none
  | some d     => (read d).map some

/-- A part that stands for `default` when it is missing. -/
def defaulting? {α : Type} (default : α) (read : Document → Option α) : Option Document → Option α
  | none   => some default
  | some d => read d

end Document

end ResourceMoves.Json
