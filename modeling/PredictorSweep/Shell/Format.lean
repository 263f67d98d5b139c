import PredictorSweep.Shell.Arith
import PredictorSweep.Number.Format
import PredictorSweep.Number.Reading
/-!
# The `echo` and `printf` texts

`echo` writes its arguments separated by blanks and ended by a newline (none after a first
argument `-n`), reading backslash escapes in them: `\a \b \f \n \r \t \v \\`, an octal number
`\0nnn` or `\nnn`, and `\c`, which ends all output at once.

`printf` writes its format, reading the same escapes (but not `\c`) and conversions: `%%`, `%s`,
`%b` (the argument with `echo`'s escapes), `%c` (its first character), `%d %i` (a signed
number), `%u %o %x %X` (unsigned, in bases 10, 8 and 16), and `%f %e %g`, each with the flags
`- + space 0 #`, a width and a precision (either may be `*`, taken from the arguments). A missing
argument is empty, or zero for a number; an argument that is not a number counts as zero and
makes a complaint. The format is used again while arguments remain and the last pass used some.

Main definitions:

- `Format.escapes`: a text with `echo`'s escapes read, and whether `\c` ended it;
- `Format.echo`, `Format.printf`.
-/

namespace PredictorSweep.Shell.Format

/-- Whether a character is an octal digit. -/
def isOctal (c : Char) : Bool := '0' ≤ c && c ≤ '7'

/-- Reads up to `n` octal digits: the value and the characters after them. -/
def octal : Nat → List Char → Nat → Nat × List Char
  | 0, cs, v => (v, cs)
  | _ + 1, [], v => (v, [])
  | n + 1, c :: cs, v => if isOctal c then octal n cs (v * 8 + (c.toNat - 48)) else (v, c :: cs)

/-- The character of a one-letter escape. -/
def letterEscape : Char → Option Char
  | '\\' => some '\\' | 'a' => some '\x07' | 'b' => some '\x08' | 'f' => some '\x0c'
  | 'n' => some '\n' | 'r' => some '\r' | 't' => some '\t' | 'v' => some '\x0b'
  | _ => none

/-- Reads the escape after a backslash in a format: a letter, up to three octal digits, or
nothing known, which leaves the backslash as it is. -/
def formatEscape (cs : List Char) : Char × List Char :=
  match cs with
  | c :: rest =>
    match letterEscape c with
    | some e => (e, rest)
    | none =>
      if isOctal c then
        let (v, rest) := octal 3 cs 0
        (Char.ofNat (v % 256), rest)
      else ('\\', cs)
  | [] => ('\\', [])

/-- A text with `echo`'s escapes read: the text, and whether `\c` ended it. -/
def escapesFuel : Nat → List Char → List Char → String × Bool
  | 0, _, acc => (String.ofList acc.reverse, false)
  | _ + 1, [], acc => (String.ofList acc.reverse, false)
  | n + 1, c :: cs, acc =>
    if c != '\\' then escapesFuel n cs (c :: acc)
    else match cs with
      | 'c' :: _ => (String.ofList acc.reverse, true)
      | '0' :: d :: rest =>
        if isOctal d then
          let (e, rest) := formatEscape (d :: rest)
          escapesFuel n rest (e :: acc)
        else
          let (e, rest) := formatEscape ('0' :: d :: rest)
          escapesFuel n rest (e :: acc)
      | _ =>
        let (e, rest) := formatEscape cs
        escapesFuel n rest (e :: acc)

/-- A text with `echo`'s escapes read, and whether `\c` ended it. -/
def escapes (s : String) : String × Bool := escapesFuel (s.length + 1) s.toList []

/-- What `echo` writes for its arguments. -/
def echo (args : List String) : String :=
  let (args, newline) := match args with
    | "-n" :: rest => (rest, false)
    | _ => (args, true)
  let rec go : List String → String
    | [] => if newline then "\n" else ""
    | [a] =>
      let (t, stop) := escapes a
      if stop then t else t ++ (if newline then "\n" else "")
    | a :: rest =>
      let (t, stop) := escapes a
      if stop then t else t ++ " " ++ go rest
  go args

/-- A conversion's flags, width and precision. -/
structure Spec where
  /-- Pad on the right. -/
  left : Bool := false
  /-- Always write a sign. -/
  plus : Bool := false
  /-- Write a blank where a plus sign would go. -/
  space : Bool := false
  /-- Pad numbers with zeros. -/
  zero : Bool := false
  /-- The alternate form. -/
  alt : Bool := false
  /-- The least width. -/
  width : Nat := 0
  /-- The precision. -/
  precision : Option Nat := none
  deriving Inhabited

/-- Pads a text to the spec's width, with blanks on the left unless `left` holds. -/
def pad (sp : Spec) (s : String) : String :=
  let n := sp.width - s.length
  if sp.left then s ++ String.ofList (List.replicate n ' ')
  else String.ofList (List.replicate n ' ') ++ s

/-- Writes a number's sign and digits under a spec: at least `precision` digits, the sign,
and zeros or blanks up to the width. -/
def padNumber (sp : Spec) (neg : Bool) (prefix_ : String) (digits : String) : String :=
  let digits := match sp.precision with
    | some p => String.ofList (List.replicate (p - digits.length) '0') ++ digits
    | none => digits
  let sign := if neg then "-" else if sp.plus then "+" else if sp.space then " " else ""
  let body := sign ++ prefix_ ++ digits
  if sp.zero && !sp.left && sp.precision.isNone then
    sign ++ prefix_ ++ String.ofList (List.replicate (sp.width - body.length) '0') ++ digits
  else pad sp body

/-- The digits of a number in a base, lower case. -/
def baseDigits (n : Nat) (base : Nat) (upper : Bool) : String :=
  let ds := Nat.toDigits base n
  String.ofList (if upper then ds.map Char.toUpper else ds)

/-- Reads an argument as a signed number: decimal, octal after `0`, hexadecimal after `0x`, or
the code of the character after a quote. Gives the value and whether the text was a number. -/
def numberArg (s : String) : Int × Bool :=
  match s.toList with
  | [] => (0, true)
  | '\'' :: c :: _ | '"' :: c :: _ => (c.toNat, true)
  | cs =>
    let cs := cs.dropWhile (fun c => c == ' ' || c == '\t')
    let (neg, body) := match cs with
      | '-' :: r => (true, r)
      | '+' :: r => (false, r)
      | r => (false, r)
    match Arith.numberValue (String.ofList body) with
    | some v => (if neg then -v else v, true)
    | none =>
      let lead := body.takeWhile Char.isDigit
      let v : Int := (String.ofList lead).toNat?.getD 0
      (if neg then -v else v, false)

/-- The state of a `printf` run: the text so far, the arguments left, whether any argument was
used in this pass, the complaints, and whether `\c` ended the output. -/
structure Run where
  /-- The text written so far. -/
  out : String := ""
  /-- The arguments not yet used. -/
  args : List String
  /-- Whether this pass of the format used an argument. -/
  used : Bool := false
  /-- Complaints about arguments that are not numbers. -/
  complaints : List String := []
  /-- Whether `\c` ended the output. -/
  stopped : Bool := false
  deriving Inhabited

namespace Run

/-- Takes the next argument, or the empty text. -/
def next (r : Run) : String × Run :=
  match r.args with
  | a :: rest => (a, { r with args := rest, used := true })
  | [] => ("", r)

/-- Takes the next argument as a number, complaining when it is not one. -/
def nextNumber (r : Run) : Int × Run :=
  let (a, r) := r.next
  let (v, ok) := numberArg a
  (v, if ok then r else { r with complaints := r.complaints ++ [a ++ ": expected numeric value"] })

end Run

/-- Reads a decimal number's digits at the start of a list. -/
def readNumber (cs : List Char) : Nat × List Char :=
  let ds := cs.takeWhile Char.isDigit
  ((String.ofList ds).toNat?.getD 0, cs.drop ds.length)

/-- Reads a conversion's flags. -/
def readFlags : Nat → List Char → Spec → Spec × List Char
  | 0, cs, sp => (sp, cs)
  | n + 1, cs, sp =>
    match cs with
    | '-' :: r => readFlags n r { sp with left := true }
    | '+' :: r => readFlags n r { sp with plus := true }
    | ' ' :: r => readFlags n r { sp with space := true }
    | '0' :: r => readFlags n r { sp with zero := true }
    | '#' :: r => readFlags n r { sp with alt := true }
    | _ => (sp, cs)

/-- Writes one conversion of kind `c` under a spec, taking its argument. -/
def convert (c : Char) (sp : Spec) (r : Run) : Run :=
  match c with
  | 's' =>
    let (a, r) := r.next
    let a := match sp.precision with | some p => String.ofList (a.toList.take p) | none => a
    { r with out := r.out ++ pad sp a }
  | 'b' =>
    let (a, r) := r.next
    let (t, stop) := escapes a
    let t := match sp.precision with | some p => String.ofList (t.toList.take p) | none => t
    { r with out := r.out ++ pad sp t, stopped := stop }
  | 'c' =>
    let (a, r) := r.next
    { r with out := r.out ++ pad sp (String.ofList (a.toList.take 1)) }
  | 'd' | 'i' =>
    let (v, r) := r.nextNumber
    { r with out := r.out ++ padNumber sp (v < 0) "" (toString v.natAbs) }
  | 'u' | 'o' | 'x' | 'X' =>
    let (v, r) := r.nextNumber
    let n := (if v < 0 then v + Int.pow 2 64 else v).toNat
    let (base, pre) := match c with
      | 'o' => (8, if sp.alt && n != 0 then "0" else "")
      | 'x' => (16, if sp.alt && n != 0 then "0x" else "")
      | 'X' => (16, if sp.alt && n != 0 then "0X" else "")
      | _ => (10, "")
    let text := padNumber { sp with plus := false, space := false } false pre
      (baseDigits n base (c == 'X'))
    { r with out := r.out ++ text }
  | _ =>
    let (a, r) := r.next
    let x : Float := match (numberArg a) with
      | (v, true) => Float.ofInt v
      | _ => match Number.readFloat a with
        | .ok v => v
        | .error _ => 0
    let p := sp.precision.getD 6
    let text := if c == 'f' || c == 'F' then Number.fixed x.abs p else Number.general x.abs
    { r with out := r.out ++ padNumber { sp with precision := none } (x < 0) "" text }

/-- Writes the format once over the run's arguments. -/
def pass : Nat → List Char → Run → Run
  | 0, _, r => r
  | _ + 1, [], r => r
  | n + 1, c :: cs, r =>
    if r.stopped then r
    else if c == '\\' then
      let (e, rest) := formatEscape cs
      pass n rest { r with out := r.out.push e }
    else if c != '%' then pass n cs { r with out := r.out.push c }
    else match cs with
      | '%' :: rest => pass n rest { r with out := r.out.push '%' }
      | _ =>
        let (sp, cs) := readFlags 5 cs {}
        let (width, cs, r) := match cs with
          | '*' :: rest =>
            let (v, r) := r.nextNumber
            (v, rest, r)
          | _ =>
            let (w, rest) := readNumber cs
            ((w : Int), rest, r)
        let sp := if width < 0 then { sp with left := true, width := width.natAbs }
          else { sp with width := width.toNat }
        let (prec, cs, r) := match cs with
          | '.' :: '*' :: rest =>
            let (v, r) := r.nextNumber
            (some v.toNat, rest, r)
          | '.' :: rest =>
            let (p, rest) := readNumber rest
            (some p, rest, r)
          | _ => (none, cs, r)
        let sp := { sp with precision := prec }
        match cs with
        | k :: rest => pass n rest (convert k sp r)
        | [] => r

/-- What `printf` writes for a format and its arguments, and its complaints. -/
def printf (format : String) (args : List String) : String × List String :=
  let fmt := format.toList
  let rec loop : Nat → Run → Run
    | 0, r => r
    | n + 1, r =>
      let r := pass (fmt.length + 1) fmt { r with used := false }
      if r.stopped || r.args.isEmpty || !r.used then r else loop n r
  let r := loop (args.length + 1) { args }
  (r.out, r.complaints)

end PredictorSweep.Shell.Format
