/-!
# White space

The white space characters of the Unicode character database: the ASCII tab, line feed,
vertical tab, form feed, carriage return and space, the next-line control U+0085, the no-break
space U+00A0, and the separators of the general categories Zs, Zl and Zp above Latin-1. A
benchmark name made only of these counts as blank.

Main definitions:

- `isSpace`: membership in that set;
- `trim`: a text without its leading and trailing white space;
- `isBlank`: a text that trims to nothing.
-/

namespace PredictorSweep.Text

/-- The white space characters: ASCII blanks, U+0085, U+00A0 and the Unicode separators. -/
def isSpace (c : Char) : Bool :=
  let n := c.toNat
  (0x09 ≤ n && n ≤ 0x0D) || n == 0x20 || n == 0x85 || n == 0xA0 || n == 0x1680 ||
    (0x2000 ≤ n && n ≤ 0x200A) || n == 0x2028 || n == 0x2029 || n == 0x202F ||
    n == 0x205F || n == 0x3000

/-- A text without its leading and trailing white space. -/
def trim (s : String) : String :=
  String.ofList (((s.toList.dropWhile isSpace).reverse.dropWhile isSpace).reverse)

/-- A text is blank when it holds white space only. -/
def isBlank (s : String) : Bool :=
  s.toList.all isSpace

end PredictorSweep.Text
