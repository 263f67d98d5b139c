import PredictorSweep.Yaml.Compose
import PredictorSweep.Number.Binary
import PredictorSweep.Text.Quoted
import PredictorSweep.Text.Bytes
/-!
# Decoding nodes into typed values

A document is decoded into typed settings field by field. A node that cannot become the type
asked for leaves the target as it was and records a type error, "line N: cannot unmarshal TAG
`TEXT` into TYPE" (the text cut to seven bytes and `...` when longer than ten; no text for a
sequence or a mapping); decoding goes on, and the errors are reported together at the end. Null
leaves a value as it was and clears a list.

Text takes any scalar's text. An integer takes an integer, or a float no greater than `2^63`,
truncated. A float takes an integer or a float. A boolean takes a boolean, or one of the words
`y`, `yes`, `on` and `n`, `no`, `off` in their spellings. A list takes a sequence, keeping the
items that decode. A record takes a mapping: unknown keys are ignored, a key given twice in one
mapping is an error for the whole mapping, and a `<<` key merges in the mappings it names.

An alias decodes as the node it names; following an alias into itself fails outright.

Main definitions:

- `Decoding`, `Decoder`;
- `Decoder.text`, `Decoder.integer`, `Decoder.real`, `Decoder.flag`, `Decoder.list`,
  `Decoder.record`;
- `Decoder.isolated`, `Decoder.runOn`.
-/

namespace PredictorSweep.Yaml

/-- The state of decoding: the document, the type errors so far, and the aliases being
followed. -/
structure Decoding where
  /-- The document. -/
  doc : Document
  /-- The type errors so far. -/
  errors : Array String := #[]
  /-- The numbers of the aliases being followed. -/
  following : List Nat := []

/-- Decoding: a value and the state after it, or a failure with its message that stops
decoding. -/
abbrev Decoder := StateT Decoding (Except String)

/-- The text of a scalar as a type error shows it: cut to seven bytes and `...` when longer
than ten bytes. -/
def shownText (s : String) : String :=
  if s.utf8ByteSize > 10 then Text.bytePrefix s 7 ++ "..." else s

/-- The message of several type errors. -/
def unmarshalErrors (errors : Array String) : String :=
  "yaml: unmarshal errors:\n  " ++ String.intercalate "\n  " errors.toList

/-- The words a boolean takes besides booleans. -/
def trueWords : List String := ["y", "Y", "yes", "Yes", "YES", "on", "On", "ON"]

/-- The words a boolean takes as false besides booleans. -/
def falseWords : List String := ["n", "N", "no", "No", "NO", "off", "Off", "OFF"]

/-- The integer a float becomes: truncated toward zero when below `2^63` in size, otherwise the
least 64-bit integer. -/
def truncateFloat (x : Float) : Int :=
  match Number.shape x with
  | .finite neg m e =>
    let magnitude : Nat := if e ≥ 0 then m * Nat.pow 2 e.toNat else m / Nat.pow 2 (-e).toNat
    let v : Int := if neg then -(magnitude : Int) else magnitude
    if -Int.pow 2 63 ≤ v && v < Int.pow 2 63 then v else -Int.pow 2 63
  | _ => -Int.pow 2 63

namespace Decoder

/-- Records an error. -/
def note (msg : String) : Decoder Unit :=
  modify fun s => { s with errors := s.errors.push msg }

/-- Records a type error for a node that cannot become `target`. -/
def typeError (n : Node) (target : String) : Decoder Unit :=
  let tag := n.tag
  let shown := if tag == "!!seq" || tag == "!!map" then "" else " `" ++ shownText n.keyText ++ "`"
  note ("line " ++ toString n.line ++ ": cannot unmarshal " ++ tag ++ shown ++ " into " ++ target)

/-- Decodes the node an alias names with `k`, or the node itself. An alias met again while it
is being followed fails. -/
def followAlias {α : Type} (n : Node) (k : Node → Decoder α) : Decoder α :=
  match n with
  | .ref name slot id _ => do
    let s ← get
    if s.following.contains id then
      throw ("yaml: anchor '" ++ name ++ "' value contains itself")
    else
      set { s with following := id :: s.following }
      let r ← k (s.doc.target slot)
      modify fun s => { s with following := s.following.erase id }
      pure r
  | _ => k n

/-- The tag and value of a scalar: a scalar tagged `!!str` keeps its text; others resolve
under their tag, a text that does not fit its tag failing. -/
def resolved (text tag : String) : Decoder (String × Resolved) :=
  if tag == "!!str" then pure ("!!str", .str text)
  else match resolve tag text with
    | .ok r => pure r
    | .error m => throw ("yaml: " ++ m)

/-- Checks that no key of a mapping is given twice, recording an error for each repeat. -/
def distinctKeys (entries : List (Node × Node)) : Decoder Bool := do
  let keys := entries.map (·.1)
  let repeats := (keys.zipIdx.flatMap fun (k, i) =>
    (keys.drop (i + 1)).filterMap fun k' =>
      if k.sameKey k' then
        some ("line " ++ toString k'.line ++ ": mapping key " ++ Text.quote k'.keyText ++
          " already defined at line " ++ toString k.line)
      else none)
  for r in repeats do note r
  pure repeats.isEmpty

/-- Decodes a node as text. Null leaves the target as it was. -/
def text (n : Node) : Decoder (Option String) :=
  followAlias n fun n => match n with
    | .scalar t tag _ _ => do
      let (_, v) ← resolved t tag
      match v with
      | .null => pure none
      | _ => pure (some t)
    | .mapping entries .. => do
      if (← distinctKeys entries) then typeError n "string"
      pure none
    | _ => do
      typeError n "string"
      pure none

/-- Decodes a node as an integer of the named type. -/
def integer (target : String) (n : Node) : Decoder (Option Int) :=
  followAlias n fun n => match n with
    | .scalar t tag _ _ => do
      let (_, v) ← resolved t tag
      match v with
      | .null => pure none
      | .int i => pure (some i)
      | .float x =>
        if x ≤ 9223372036854775807.0 then pure (some (truncateFloat x))
        else do typeError n target; pure none
      | _ => do typeError n target; pure none
    | .mapping entries .. => do
      if (← distinctKeys entries) then typeError n target
      pure none
    | _ => do
      typeError n target
      pure none

/-- Decodes a node as a float. -/
def real (n : Node) : Decoder (Option Float) :=
  followAlias n fun n => match n with
    | .scalar t tag _ _ => do
      let (_, v) ← resolved t tag
      match v with
      | .null => pure none
      | .int i => pure (some (Float.ofInt i))
      | .uint u => pure (some (Float.ofNat u))
      | .float x => pure (some x)
      | _ => do typeError n "float64"; pure none
    | .mapping entries .. => do
      if (← distinctKeys entries) then typeError n "float64"
      pure none
    | _ => do
      typeError n "float64"
      pure none

/-- Decodes a node as a boolean. -/
def flag (n : Node) : Decoder (Option Bool) :=
  followAlias n fun n => match n with
    | .scalar t tag _ _ => do
      let (_, v) ← resolved t tag
      match v with
      | .null => pure none
      | .bool b => pure (some b)
      | .str s =>
        if trueWords.contains s then pure (some true)
        else if falseWords.contains s then pure (some false)
        else do typeError n "bool"; pure none
      | _ => do typeError n "bool"; pure none
    | .mapping entries .. => do
      if (← distinctKeys entries) then typeError n "bool"
      pure none
    | _ => do
      typeError n "bool"
      pure none

/-- Decodes a node as a list: `some none` for null, which clears the list, `some (some xs)` for
a sequence with the items that decode, `none` to leave the list as it was. -/
def list {α : Type} (target : String) (item : Node → Decoder (Option α)) (n : Node) :
    Decoder (Option (Option (List α))) :=
  followAlias n fun n => match n with
    | .scalar t tag _ _ => do
      let (_, v) ← resolved t tag
      match v with
      | .null => pure (some none)
      | _ => do typeError n target; pure none
    | .sequence items .. => do
      let decoded ← items.mapM item
      pure (some (some decoded.reduceOption))
    | .mapping entries .. => do
      if (← distinctKeys entries) then typeError n target
      pure none
    | .ref .. => pure none

/-- Whether a key is the merge key `<<`. -/
def isMergeKey : Node → Bool
  | .scalar "<<" tag _ _ => tag == "!!merge"
  | _ => false

/-- The failure for a merge key whose value is not mappings. -/
def mergeFailure : String := "yaml: map merge requires map or sequence of maps as the value"

/-- Whether a node is a mapping, or an alias of one. -/
def namesMapping (doc : Document) : Node → Bool
  | .mapping .. => true
  | .ref _ slot _ _ => match doc.target slot with
    | .mapping .. => true
    | _ => false
  | _ => false

/-- Decodes a node as a record of type `target` with the named fields, starting from `init`;
`setField` decodes a field's value into the record. -/
def record {σ : Type} (target : String) (fields : List String)
    (setField : String → Node → σ → Decoder σ) : Nat → Node → σ → Decoder σ
  | 0, _, init => pure init
  | fuel + 1, n, init =>
    followAlias n fun n => match n with
      | .scalar t tag _ _ => do
        let (_, v) ← resolved t tag
        match v with
        | .null => pure init
        | _ => do typeError n target; pure init
      | .mapping entries .. => do
        if !(← distinctKeys entries) then return init
        let mut acc := init
        let mut seen : List String := []
        for (k, v) in entries do
          if isMergeKey k then
            let doc := (← get).doc
            match v with
            | .sequence items .. =>
              for m in items.reverse do
                if !namesMapping doc m then throw mergeFailure
                acc ← record target fields setField fuel m acc
            | _ =>
              if !namesMapping doc v then throw mergeFailure
              acc ← record target fields setField fuel v acc
          else
            match ← text k with
            | none => pure ()
            | some name =>
              if fields.contains name then
                if seen.contains name then
                  note ("line " ++ toString k.line ++ ": field " ++ name ++
                    " already set in type " ++ target)
                else
                  seen := name :: seen
                  acc ← setField name v acc
        pure acc
      | _ => do
        typeError n target
        pure init

/-- Runs a decoder on its own, with no errors and no aliases followed, as a node decoded apart
from the rest is; its type errors become its failure. The outer state is kept. -/
def isolated {α : Type} (d : Decoder α) : Decoder (Except String α) := fun s =>
  match d.run { doc := s.doc } with
  | .ok (a, s') =>
    if s'.errors.isEmpty then .ok (.ok a, s) else .ok (.error (unmarshalErrors s'.errors), s)
  | .error m => .ok (.error m, s)

/-- Runs a decoder on a document; its type errors, if any, become its failure. -/
def runOn {α : Type} (doc : Document) (d : Decoder α) : Except String α :=
  match d.run { doc } with
  | .ok (a, s) => if s.errors.isEmpty then .ok a else .error (unmarshalErrors s.errors)
  | .error m => .error m

/-- Fuel for decoding a document: merges through aliases nest at most once per alias and node. -/
def fuelFor (doc : Document) : Nat := (doc.weight + 2) * (doc.aliases + 1)

end Decoder

end PredictorSweep.Yaml
