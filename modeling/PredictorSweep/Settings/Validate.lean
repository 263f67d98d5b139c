import PredictorSweep.Settings.Basic
import PredictorSweep.Predictor.Spec
import PredictorSweep.Number.Format
/-!
# Checking settings

Settings are checked by a struct-tag checker, a library of its own: each field carries tags that
name the rules its value must keep, and the checker, handed the fields in the order of the file,
reports the rules they break. The settings give it their fields and tags, register two rules of
their own (a table size, a table-backed family), and word each report.

What a tag asks of a value is what the checker documents (`Tag.holds`): `required` a value that is
not the zero of its kind (a list that is given, even empty); `gte`, `gt` and `min` a bound on a
number, or on the length of a text or a list; `unique` no repeats; `excludesall` none of some
characters; `oneof` one of some names; `required_if` a value when a field beside it holds a given
one. `omitempty` lets a zero value skip the tags after it, and `dive` asks the tags after it of
each item of a list (`passes`). A checker keeps these rules (`Validator.Lawful`) when it reports
nothing exactly for fields whose tags all hold. The program's checker (`Validator.standard`)
reports, field by field, the first rule a value breaks, and for a list it dives into, each item's
first.

- The simulator's four paths are required; the skipped instructions are at least zero and the
  measured ones above zero.
- The benchmarks and the sizes are required, at least one, and distinct. Each benchmark is required
  and holds no `/`; each size is a power of two from 8.
- The families, when given, are distinct and each a table-backed family.
- Concurrency, launch rate and output cap are at least zero.
- The trace and metric exporters and the log level, when given, are among their known names;
  the trace collector's endpoint is required when traces go there.

Main definitions:

- `FieldValue`, `Tag`, `TaggedField`, `FieldError`: what a checker is handed and what it reports;
- `Tag.holds`, `passes`, `Validator`, `Validator.Lawful`, `Validator.standard`;
- `Settings.fields`, `describe`, `Settings.problems`: the settings' fields, the wording of a
  report, and the messages of the broken rules, in order.
-/

namespace PredictorSweep

/-- A field's value as the checker sees it: a text, an integer, a float, or a list of texts or of
integers, which may be absent. -/
inductive FieldValue where
  | text (s : String)
  | int (n : Int)
  | real (x : Float)
  | texts (items : Option (List String))
  | ints (items : Option (List Int))
  deriving Inhabited

/-- Whether a list holds some value twice. -/
def hasRepeat {α : Type} [BEq α] : List α → Bool
  | [] => false
  | x :: rest => rest.contains x || hasRepeat rest

namespace FieldValue

/-- Whether a value is the zero of its kind: empty text, zero, or an absent list. -/
def isZero : FieldValue → Bool
  | text s => s.isEmpty
  | int n => n == 0
  | real x => x == 0
  | texts items => items.isNone
  | ints items => items.isNone

/-- The items of a list, each as a value of its own. -/
def items : FieldValue → List FieldValue
  | texts (some xs) => xs.map text
  | ints (some ns) => ns.map int
  | _ => []

/-- Whether a value is at least a bound: a number by its value, a text or a list by its length. -/
def atLeast (n : Nat) : FieldValue → Bool
  | text s => n ≤ s.length
  | int m => n ≤ m
  | real x => Float.ofNat n ≤ x
  | texts items => n ≤ (items.getD []).length
  | ints items => n ≤ (items.getD []).length

/-- Whether a value is above a bound: a number by its value, a text or a list by its length. -/
def above (n : Nat) : FieldValue → Bool
  | text s => n < s.length
  | int m => n < m
  | real x => Float.ofNat n < x
  | texts items => n < (items.getD []).length
  | ints items => n < (items.getD []).length

/-- Whether a list holds some item twice. -/
def repeats : FieldValue → Bool
  | texts items => hasRepeat (items.getD [])
  | ints items => hasRepeat (items.getD [])
  | _ => false

/-- Whether a value holds none of some characters: only text holds characters. -/
def excludes (cs : String) : FieldValue → Bool
  | text s => !s.toList.any (cs.toList.contains ·)
  | _ => true

/-- The value as a report writes it: a text as it is, a number in its shortest form, a list
between brackets, spaced. -/
def display : FieldValue → String
  | text s => s
  | int n => toString n
  | real x => Number.general x
  | texts items => "[" ++ " ".intercalate (items.getD []) ++ "]"
  | ints items => "[" ++ " ".intercalate ((items.getD []).map toString) ++ "]"

end FieldValue

/-- A rule of a field's tag. -/
inductive Tag where
  | required
  | omitEmpty
  | dive
  | unique
  | gte (n : Nat)
  | gt (n : Nat)
  | min (n : Nat)
  | excludesAll (chars : String)
  | oneOf (names : List String)
  | requiredIf (field : String) (value : String)
  | custom (name : String)
  deriving DecidableEq, Repr

namespace Tag

/-- The tag's name, as a report gives it. -/
def name : Tag → String
  | required => "required"
  | omitEmpty => "omitempty"
  | dive => "dive"
  | unique => "unique"
  | gte _ => "gte"
  | gt _ => "gt"
  | min _ => "min"
  | excludesAll _ => "excludesall"
  | oneOf _ => "oneof"
  | requiredIf _ _ => "required_if"
  | custom n => n

/-- The tag's parameter, as written after `=`. -/
def param : Tag → String
  | gte n | gt n | min n => toString n
  | excludesAll cs => cs
  | oneOf names => " ".intercalate names
  | requiredIf f v => f ++ " " ++ v
  | _ => ""

/-- Whether a value keeps a rule, as the checker documents it; `rules` gives the rules registered
by name, and `others` the values of the fields beside this one, by name. -/
def holds (rules : String → FieldValue → Bool) (others : String → Option FieldValue) :
    Tag → FieldValue → Bool
  | required, v => !v.isZero
  | unique, v => !v.repeats
  | gte n, v | min n, v => v.atLeast n
  | gt n, v => v.above n
  | excludesAll cs, v => v.excludes cs
  | oneOf names, v => names.contains v.display
  | requiredIf f x, v =>
    match others f with
    | some w => w.display != x || !v.isZero
    | none => true
  | custom n, v => rules n v
  | omitEmpty, _ | dive, _ => true

end Tag

/-- What a field's tags ask of its value: each rule in order, where `omitempty` lets a zero value
skip the rest and `dive` asks the rules after it of each item. -/
def passes (rules : String → FieldValue → Bool) (others : String → Option FieldValue) :
    List Tag → FieldValue → Bool
  | [], _ => true
  | .omitEmpty :: ts, v => v.isZero || passes rules others ts v
  | .dive :: ts, v => v.items.all (passes rules others ts)
  | t :: ts, v => t.holds rules others v && passes rules others ts v

/-- A field of a struct as the checker is handed it. -/
structure TaggedField where
  /-- The path of the struct holding it. -/
  parent : String
  /-- Its name. -/
  name : String
  /-- Its tags. -/
  tags : List Tag
  /-- Its value. -/
  value : FieldValue

/-- The path of a field. -/
def TaggedField.path (f : TaggedField) : String := f.parent ++ "." ++ f.name

/-- The values of the fields beside a field, by name. -/
def TaggedField.others (fields : List TaggedField) (f : TaggedField) (n : String) :
    Option FieldValue :=
  (fields.find? fun g => g.parent == f.parent && g.name == n).map (·.value)

/-- A broken rule as the checker reports it: the path of the field or of the item, the rule, and
the value. -/
structure FieldError where
  /-- The path of the field, and of the item in a list. -/
  path : String
  /-- The rule broken. -/
  tag : Tag
  /-- The value. -/
  value : FieldValue

/-- A struct-tag checker: handed the rules registered with it and a struct's fields in order, it
reports the rules they break. -/
structure Validator where
  /-- The broken rules of the fields. -/
  check : (String → FieldValue → Bool) → List TaggedField → List FieldError

/-- A checker keeps its documented rules: it reports nothing exactly when every field's tags hold
of its value. -/
def Validator.Lawful (v : Validator) : Prop :=
  ∀ rules fields, v.check rules fields = [] ↔
    ∀ f ∈ fields, passes rules (f.others fields) f.tags f.value = true

/-- The broken rules of one field, as the program's checker reports them: the first rule the value
breaks, or for a list it dives into, each item's first, under the item's path. -/
def report (rules : String → FieldValue → Bool) (others : String → Option FieldValue)
    (path : String) : List Tag → FieldValue → List FieldError
  | [], _ => []
  | .omitEmpty :: ts, v => if v.isZero then [] else report rules others path ts v
  | .dive :: ts, v => v.items.zipIdx.flatMap fun (x, i) =>
      report rules others (path ++ "[" ++ toString i ++ "]") ts x
  | t :: ts, v =>
    if t.holds rules others v then report rules others path ts v else [⟨path, t, v⟩]

/-- The program's checker: field by field, each field's broken rules. -/
def Validator.standard : Validator where
  check rules fields := fields.flatMap fun f => report rules (f.others fields) f.path f.tags f.value

/-- The rules the settings register with the checker: `tablesize`, a power of two from the least
table size, and `sizedfamily`, a table-backed family. -/
def customRules : String → FieldValue → Bool
  | "tablesize", .int n => (validateSize n).isOk
  | "sizedfamily", .text f => Family.nameSized f
  | _, _ => true

/-- A broken rule, worded for the settings' user. -/
def describe (e : FieldError) : String :=
  match e.tag with
  | .required => e.path ++ " is required"
  | .custom "tablesize" =>
    e.path ++ ": " ++ e.value.display ++ " is not a power of two >= " ++ toString minSize
  | .custom "sizedfamily" =>
    e.path ++ ": " ++ Text.quote e.value.display ++ " is not a table-backed predictor family"
  | .unique => e.path ++ " must not contain duplicates"
  | .oneOf _ => e.path ++ ": " ++ e.value.display ++ " must be one of [" ++ e.tag.param ++ "]"
  | t => e.path ++ " failed " ++ t.name ++ "=" ++ t.param ++ " (value " ++ e.value.display ++ ")"

namespace Settings

/-- The settings' fields with their tags, in the order of the file; fields without tags are left
out, as the checker asks nothing of them. -/
def fields (s : Settings) : List TaggedField :=
  [⟨"Simulator", "Driver", [.required], .text s.simulator.driver⟩,
   ⟨"Simulator", "BenchDB", [.required], .text s.simulator.benchDb⟩,
   ⟨"Simulator", "Binary", [.required], .text s.simulator.binary⟩,
   ⟨"Simulator", "ResultsDir", [.required], .text s.simulator.resultsDir⟩,
   ⟨"Simulator", "FastForward", [.gte 0], .int s.simulator.fastForward⟩,
   ⟨"Simulator", "MaxInst", [.gt 0], .int s.simulator.maxInst⟩,
   ⟨"Sweep", "Benchmarks", [.required, .min 1, .unique, .dive, .required, .excludesAll "/"],
     .texts s.sweep.benchmarks⟩,
   ⟨"Sweep", "Sizes", [.required, .min 1, .unique, .dive, .custom "tablesize"],
     .ints s.sweep.sizes⟩,
   ⟨"Sweep", "Families", [.unique, .dive, .custom "sizedfamily"], .texts s.sweep.families⟩,
   ⟨"Execution", "Concurrency", [.gte 0], .int s.execution.concurrency⟩,
   ⟨"Execution", "LaunchRate", [.gte 0], .real s.execution.launchRate⟩,
   ⟨"Execution", "MaxOutputBytes", [.gte 0], .int s.execution.maxOutputBytes⟩,
   ⟨"Telemetry", "Traces", [.omitEmpty, .oneOf ["none", "stdout", "otlp"]],
     .text s.telemetry.traces⟩,
   ⟨"Telemetry", "Metrics", [.omitEmpty, .oneOf ["none", "stdout", "prometheus"]],
     .text s.telemetry.metrics⟩,
   ⟨"Telemetry", "OTLPEndpoint", [.requiredIf "Traces" "otlp"], .text s.telemetry.otlpEndpoint⟩,
   ⟨"Logging", "Level", [.omitEmpty, .oneOf ["debug", "info", "warn", "error"]],
     .text s.logging.level⟩]

/-- The messages of the rules the settings break, as a checker reports them. -/
def problemsBy (v : Validator) (s : Settings) : List String :=
  (v.check customRules s.fields).map describe

/-- The messages of the broken rules, in order, as the program's checker reports them. -/
def problems (s : Settings) : List String := s.problemsBy Validator.standard

end Settings

end PredictorSweep
