import ResourceMoves.Yaml.Token

/-!
# YAML records

Documents that hold a flat record: a mapping from keys to scalars and to sequences of scalars, in
block style or in brackets.  A document may be empty too; every other document is refused, and so is
one with an anchor, an alias, a tag or a directive, whatever it holds.
-/

namespace ResourceMoves.Yaml

/-- What a field of a record holds. -/
inductive Node
  | scalar (s : Scalar)
  | sequence (items : List Scalar)
  deriving DecidableEq

/-- The fields of a record in their order. -/
abbrev Record := List (String × Node)

/-- A reader of YAML: the record that a text spells, if it spells one. -/
abbrev Reader := String → Option Record

/-- One more item in front of those that were read. -/
def consItem {α : Type} (a : α) (read : Option (List α × List Token)) :
    Option (List α × List Token) :=
  read.map fun (items, rest) => (a :: items, rest)

/-- The items that were read as what a field holds. -/
def asSequence (read : Option (List Scalar × List Token)) : Option (Node × List Token) :=
  read.map fun (items, rest) => (.sequence items, rest)

/-- The items of a block sequence, to its end. -/
def blockItems? : List Token → Option (List Scalar × List Token)
  | .blockEnd :: rest          => some ([], rest)
  | .dash :: .scalar s :: rest => consItem s (blockItems? rest)
  | .dash :: .blockEnd :: rest => some ([.nothing], rest)
  | .dash :: r@(.dash :: _)    => consItem .nothing (blockItems? r)
  | _                          => none

/-- A value that is not there ends here: at the next sign of its block mapping. -/
def valueEnds : List Token → Bool
  | .key :: _      => true
  | .value :: _    => true
  | .blockEnd :: _ => true
  | _              => false

/-- The items of a block sequence in the column of the mapping around it, whose next sign ends the
sequence. -/
def alignedItems? : List Token → Option (List Scalar × List Token)
  | .dash :: .scalar s :: rest => consItem s (alignedItems? rest)
  | .dash :: r@(.dash :: _)    => consItem .nothing (alignedItems? r)
  | .dash :: rest              => if valueEnds rest then some ([.nothing], rest) else none
  | rest                       => some ([], rest)

/-- The items of a sequence in brackets, after the opening bracket or a comma. -/
def bracketItems? : List Token → Option (List Scalar × List Token)
  | .bracketClose :: rest              => some ([], rest)
  | .scalar s :: .comma :: rest        => consItem s (bracketItems? rest)
  | .scalar s :: .bracketClose :: rest => some ([s], rest)
  | _                                  => none

/-- The value of a field of a block mapping, after its colon. -/
def blockValue? : List Token → Option (Node × List Token)
  | .scalar s :: rest      => some (.scalar s, rest)
  | .sequenceBegin :: rest => asSequence (blockItems? rest)
  | .bracketOpen :: rest   => asSequence (bracketItems? rest)
  | r@(.dash :: _)         => asSequence (alignedItems? r)
  | rest                   => if valueEnds rest then some (.scalar .nothing, rest) else none

/-- The fields of a block mapping, to its end.  Each takes a token or more. -/
def blockFields? : (fuel : Nat) → List Token → Option (Record × List Token)
  | _, .blockEnd :: rest => some ([], rest)
  | fuel + 1, .key :: .scalar k :: .value :: rest => do
      let (node, rest) ← blockValue? rest
      consItem (k.text, node) (blockFields? fuel rest)
  | fuel + 1, .key :: .scalar k :: rest =>
      consItem (k.text, .scalar .nothing) (blockFields? fuel rest)
  | _, _ => none

/-- The value of a field in braces, after its colon. -/
def braceValue? : List Token → Option (Node × List Token)
  | .scalar s :: rest    => some (.scalar s, rest)
  | .bracketOpen :: rest => asSequence (bracketItems? rest)
  | r@(.comma :: _)      => some (.scalar .nothing, r)
  | r@(.braceClose :: _) => some (.scalar .nothing, r)
  | _                    => none

/-- The fields in braces, after the opening brace or a comma.  A key without a colon has no value.
-/
def braceFields? : (fuel : Nat) → List Token → Option (Record × List Token)
  | 0, _ => none
  | fuel + 1, ts => do
      let (k, node, rest) ← match ts with
        | .key :: .scalar k :: .value :: rest => do
            let (node, rest) ← braceValue? rest
            some (k, node, rest)
        | .key :: .scalar k :: rest => some (k, Node.scalar .nothing, rest)
        | .scalar k :: rest         => some (k, Node.scalar .nothing, rest)
        | .braceClose :: rest       => return ([], rest)
        | _                         => none
      match rest with
      | .comma :: rest      => consItem (k.text, node) (braceFields? fuel rest)
      | .braceClose :: rest => some ([(k.text, node)], rest)
      | _                   => none

/-- The record of a document without its markers; nothing at all is an empty one. -/
def root? (ts : List Token) : Option (Record × List Token) :=
  match ts with
  | .mappingBegin :: rest => blockFields? rest.length rest
  | .braceOpen :: rest    => braceFields? rest.length rest
  | []                    => some ([], [])
  | .documentEnd :: _     => some ([], ts)
  | _                     => none

/-- The record of a text with at most one document.  Only a marker of its begin can stand before a
marker of its end. -/
def Record.ofText? : Reader := fun s => do
  let (record, rest) ← match ← tokens? s.toList with
    | .documentBegin :: ts => root? ts
    | .documentEnd :: _    => none
    | ts                   => root? ts
  if rest.all (· = .documentEnd) then return record else none

end ResourceMoves.Yaml
