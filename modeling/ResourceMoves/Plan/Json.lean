import ResourceMoves.Json.Reader
import ResourceMoves.Plan.Basic

/-!
# Plans and JSON

A plan is a record of records.  Each may be an object, whose other fields are skipped, or an array
of its fields in order.  A field that is missing has a default, except the change and its actions;
null stands for a missing field only where a field may be absent.  Attributes may be nested as
deep as JSON values may, counted from the plan.
-/

namespace ResourceMoves.Plan

open ResourceMoves.Json (Value)

/-- The fields of a plan, in order. -/
def planFields : List String := ["format_version", "terraform_version", "resource_changes"]

/-- The fields of an entry, in order. -/
def entryFields : List String :=
  ["address", "mode", "type", "name", "provider_name", "deposed", "change"]

/-- The fields of a change, in order. -/
def changeFields : List String := ["actions", "before", "after", "after_unknown"]

/-- How deep an attribute may be nested: it stands inside a plan, a list of entries, an entry and a
change. -/
def attributeDepth : Nat := Json.depthLimit - 4

/-- An action: its name, or an object with its name as the only key and null for value. -/
def Action.ofJson? : Json.Document → Option Action
  | .string s                      => s.map .ofName
  | .object [(some name, .null)]   => some (.ofName name)
  | _                              => none

/-- A change. -/
def Change.ofJson? (d : Json.Document) : Option Change := do
  match ← d.fields? changeFields with
  | [actions, before, after, unknown] =>
      let actions ← (← (← actions).items?).mapM Action.ofJson?
      let before ← Json.Document.optional? (·.value? attributeDepth) before
      let after ← Json.Document.optional? (·.value? attributeDepth) after
      let unknown ← Json.Document.optional? (·.value? attributeDepth) unknown
      return { actions, before, after, unknown }
  | _ => none

/-- An entry. -/
def Entry.ofJson? (d : Json.Document) : Option Entry := do
  match ← d.fields? entryFields with
  | [address, mode, type, name, provider, deposed, change] =>
      let address ← Json.Document.defaulting? "" Json.Document.text? address
      let mode ← Json.Document.optional? Json.Document.text? mode
      let type ← Json.Document.defaulting? "" Json.Document.text? type
      let name ← Json.Document.optional? Json.Document.text? name
      let provider ← Json.Document.defaulting? "" Json.Document.text? provider
      let deposed ← Json.Document.optional? Json.Document.text? deposed
      let change ← Change.ofJson? (← change)
      return { address, mode, type, name, provider, deposed, change }
  | _ => none

/-- A plan. -/
def ofJson? (d : Json.Document) : Option Plan := do
  match ← d.fields? planFields with
  | [formatVersion, plannerVersion, entries] =>
      let formatVersion ← Json.Document.optional? Json.Document.text? formatVersion
      let plannerVersion ← Json.Document.optional? Json.Document.text? plannerVersion
      let entries ← Json.Document.defaulting? [] Json.Document.items? entries
      let entries ← entries.mapM Entry.ofJson?
      return { formatVersion, plannerVersion, entries }
  | _ => none

/-- The plan that a text spells to a reader of JSON. -/
def read? (json : Json.Reader) (s : String) : Option Plan := do
  ofJson? (← json (s.toList.map some))

/-- The plan that a JSON text spells. -/
def ofText? (s : String) : Option Plan := read? Json.Document.read? s

/-- A change as JSON. -/
def Change.toJson (c : Change) : Value :=
  .object [("actions", .strings (c.actions.map Action.name)), ("before", .orNull c.before),
    ("after", .orNull c.after), ("after_unknown", .orNull c.unknown)]

/-- An entry as JSON; the key of a deposed object is left out when there is none. -/
def Entry.toJson (e : Entry) : Value :=
  let deposed := match e.deposed with
    | some key => [("deposed", Value.string key)]
    | none     => []
  .object <|
    [("address", .string e.address), ("mode", .stringOrNull e.mode), ("type", .string e.type),
      ("name", .stringOrNull e.name), ("provider_name", .string e.provider)] ++ deposed ++
    [("change", e.change.toJson)]

/-- A plan as JSON. -/
def toJson (p : Plan) : Value :=
  .object [("format_version", .stringOrNull p.formatVersion),
    ("terraform_version", .stringOrNull p.plannerVersion),
    ("resource_changes", .array (p.entries.map Entry.toJson))]

end ResourceMoves.Plan
