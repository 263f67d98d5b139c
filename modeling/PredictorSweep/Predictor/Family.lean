import PredictorSweep.Failure
import PredictorSweep.Text.Quoted
/-!
# Predictor families

The branch predictors a sweep can configure in the simulator. Two families are static and have
no table (`nottaken`, `taken`); five are table-backed and take a table size (`bimod`, `gshare`,
`gselect` and the two combined predictors). Families are named by fixed texts; any other text
names no family, and has the order `-1`.

Main definitions:

- `Family`, `Family.all`, `Family.name`, `Family.ofName?`;
- `Family.sized`, `Family.usesHistory`, `Family.xorFlag`, `Family.selector`;
- `Family.orderOf`: the listing position of a family name, `-1` for other texts;
- `Family.namesByLength`: the names, longest first, ties in listing order;
- `Family.parse`: a name to its family, or the error that names the text.
-/

namespace PredictorSweep

/-- The predictor families, in listing order. -/
inductive Family where
  /-- Always predicts not taken. -/
  | notTaken
  /-- Always predicts taken. -/
  | taken
  /-- A table of two-bit counters indexed by address. -/
  | bimod
  /-- A two-level predictor indexing by history xor address. -/
  | gshare
  /-- A two-level predictor indexing by history and address bits. -/
  | gselect
  /-- A bimodal and a gshare predictor with a chooser. -/
  | combBimodGshare
  /-- A bimodal and a gselect predictor with a chooser. -/
  | combBimodGselect
  deriving DecidableEq, Repr

namespace Family

/-- Every family, in listing order. -/
def all : List Family :=
  [notTaken, taken, bimod, gshare, gselect, combBimodGshare, combBimodGselect]

/-- The fixed name of a family. -/
def name : Family → String
  | notTaken => "nottaken"
  | taken => "taken"
  | bimod => "bimod"
  | gshare => "gshare"
  | gselect => "gselect"
  | combBimodGshare => "comb_bimod_gshare"
  | combBimodGselect => "comb_bimod_gselect"

/-- The family a text names exactly, if any. -/
def ofName? (s : String) : Option Family :=
  all.find? (·.name == s)

/-- The families without a table. -/
def sizeless : List Family := [notTaken, taken]

/-- The table-backed families, in listing order. -/
def sizedFamilies : List Family := [bimod, gshare, gselect, combBimodGshare, combBimodGselect]

/-- A family is sized when it is backed by a table. -/
def sized : Family → Bool
  | notTaken | taken => false
  | _ => true

/-- The families that keep a global branch history. -/
def usesHistory : Family → Bool
  | gshare | gselect | combBimodGshare | combBimodGselect => true
  | _ => false

/-- The simulator's xor flag: `1` for the gshare variants, `0` otherwise. -/
def xorFlag : Family → Nat
  | gshare | combBimodGshare => 1
  | _ => 0

/-- The simulator's predictor selector for a family. -/
def selector : Family → String
  | gshare | gselect => "2lev"
  | combBimodGshare | combBimodGselect => "comb"
  | f => f.name

/-- The listing position of a family. -/
def index (f : Family) : Nat :=
  all.idxOf f

/-- The listing position of a family name, or `-1` for a text that names no family. -/
def orderOf (s : String) : Int :=
  match ofName? s with
  | some f => f.index
  | none => -1

/-- Whether a text names a table-backed family. -/
def nameSized (s : String) : Bool :=
  match ofName? s with
  | some f => f.sized
  | none => false

/-- Whether a text names a family that keeps a history. -/
def nameUsesHistory (s : String) : Bool :=
  match ofName? s with
  | some f => f.usesHistory
  | none => false

/-- The selector for a family name; a text that names no family selects itself. -/
def nameSelector (s : String) : String :=
  match ofName? s with
  | some f => f.selector
  | none => s

/-- The xor flag for a family name; `0` for a text that names no family. -/
def nameXorFlag (s : String) : Nat :=
  match ofName? s with
  | some f => f.xorFlag
  | none => 0

/-- Inserts a name after every name at least as long, keeping earlier ties first. -/
def insertByLength (s : String) : List String → List String
  | [] => [s]
  | t :: rest => if t.length < s.length then s :: t :: rest else t :: insertByLength s rest

/-- The family names, longest first; names of equal length keep their listing order. -/
def namesByLength : List String :=
  (all.map name).foldl (fun acc s => insertByLength s acc) []

/-- The error for a text that names no supported family. -/
structure Unsupported where
  /-- The text given as a family name. -/
  name : String
  deriving Repr

/-- The view of an unsupported family name. -/
def Unsupported.toFailure (e : Unsupported) : Failure :=
  { message := "unsupported predictor family: " ++ Text.quote e.name,
    classes := [.unsupportedFamily] }

/-- The family a text names, or the error that quotes the text. -/
def parse (s : String) : Except Unsupported Family :=
  match ofName? s with
  | some f => .ok f
  | none => .error ⟨s⟩

end Family

end PredictorSweep
