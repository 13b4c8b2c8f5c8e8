import ResourceMoves.Host.Environment
import ResourceMoves.Json.Reader
import ResourceMoves.Yaml.Record

/-!
# Readers

How a run reads the formats of what it is given: JSON, which plans are in and planners reply with,
the YAML of configurations, and files of variables.  A run takes any readers.  The standard ones are
those of this library, of which the one for YAML knows no anchors, aliases, tags and directives.
-/

namespace ResourceMoves

/-- A reader of files of variables: the environment with the variables that a text sets, and whether
all of the text could be read. -/
abbrev Environment.Reader := Environment → String → Environment × Bool

/-- The readers of a run. -/
structure Readers where
  json         : Json.Reader
  yaml         : Yaml.Reader
  variableFile : Environment.Reader

/-- The readers of this library. -/
def Readers.standard : Readers := ⟨Json.Document.read?, Yaml.Record.ofText?, Environment.load⟩

end ResourceMoves
