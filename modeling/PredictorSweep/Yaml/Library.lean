import PredictorSweep.Yaml.Compose
import PredictorSweep.Yaml.Write
/-!
# The YAML library

Settings files and reports go through a YAML library: it reads the first document of a text into
nodes, and it writes a value as a block-style document with an indentation step. The program asks
nothing else of it, so these two operations are all that `Yaml.Library` holds, and what is proved
of loading and writing settings holds of every library. What a library promises in return, that
it reads back what it wrote, is stated where it is needed, of the text written.

The library the program is built with reads with `Document.read` and writes with `Value.render`.

Main definitions:

- `Yaml.Library`;
- `Yaml.Library.standard`: the program's library.
-/

namespace PredictorSweep.Yaml

/-- A YAML library: a reader of a text's first document and a writer of values. -/
class Library where
  /-- The first document of a text, or none when the text holds none. -/
  read : String → Except ReadError (Option Document)
  /-- A value written as a block-style document with an indentation step. -/
  write : Nat → Value → String

/-- The library the program is built with. -/
instance Library.standard : Library where
  read := Document.read
  write := Value.render

end PredictorSweep.Yaml
