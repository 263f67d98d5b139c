import PredictorSweep.Text.Width
/-!
# Styled text and bordered tables

Text written in the rich console style carries no colour here, since the output is not a
terminal, but it keeps the shape styling gives it: tabs become four spaces, a carriage return
before a line feed is dropped, and the lines of a text of several lines are padded on the right
to the widest.

A bordered table has rounded corners. Each column is as wide as its widest cell (the widest line
of it, tabs taking no room when measured) plus one space on either side. Every row has as many
cells as the widest row or the header. A header row, when there is one, is followed by a rule.
A cell's text is wrapped to its column and padded; a header keeps its first line, and a data row
is as tall as its tallest cell.

Main definitions:

- `styled`: text in the rich style;
- `wrapLine`: a line wrapped to a width;
- `grid`: a bordered table.
-/

namespace PredictorSweep.Console

open Text

/-- A text with each carriage return before a line feed dropped. -/
def dropReturns (s : String) : String := "\n".intercalate (s.splitOn "\r\n")

/-- A line padded on the right with spaces to a width. -/
def padRight (w : Nat) (s : String) : String :=
  s ++ String.ofList (List.replicate (w - textWidth s) ' ')

/-- Text in the rich style: tabs as spaces, and the lines of a text of several lines padded to the
widest. -/
def styled (s : String) : String :=
  let s := expandTabs (dropReturns s)
  let lines := s.splitOn "\n"
  if lines.length ≤ 1 then s
  else
    let w := lines.foldl (fun m l => max m (textWidth l)) 0
    "\n".intercalate (lines.map (padRight w))

/-- Splits a line into runs of spaces and runs of other characters. -/
def runs (cs : List Char) : List (List Char) :=
  (cs.foldl (fun (acc : List (List Char)) c =>
    match acc with
    | (d :: r) :: rest => if (d == ' ') == (c == ' ') then (c :: d :: r) :: rest else [c] :: acc
    | _ => [c] :: acc) []).reverse.map List.reverse

/-- A word cut into pieces no wider than `w` columns. -/
def cutWord (w : Nat) (cs : List Char) : List (List Char) :=
  let (done, cur, _) := cs.foldl (fun (acc : List (List Char) × List Char × Nat) c =>
    let (done, cur, used) := acc
    let cw := charWidth c
    if used + cw > w && !cur.isEmpty then (done ++ [cur], [c], cw)
    else (done, cur ++ [c], used + cw)) ([], [], 0)
  if cur.isEmpty then done else done ++ [cur]

/-- A line wrapped to `w` columns: words move to the next line when they do not fit, spaces at a
break are dropped, and a word wider than a line is cut. A width of zero leaves the line as it is. -/
def wrapLine (w : Nat) (line : String) : List String :=
  if w == 0 || textWidth line ≤ w then [line]
  else
    let width (cs : List Char) := cs.foldl (fun n c => n + charWidth c) 0
    let (lines, cur) := (runs line.toList).foldl (fun (acc : List (List Char) × List Char) r =>
      let (lines, cur) := acc
      if r.head? == some ' ' then
        if width cur + width r ≤ w then (lines, cur ++ r) else (lines ++ [cur], [])
      else if width cur + width r ≤ w then (lines, cur ++ r)
      else
        let pieces := cutWord w r
        let start := if cur.all (· == ' ') then lines else lines ++ [cur]
        match pieces.reverse with
        | last :: before => (start ++ before.reverse, last)
        | [] => (start, [])) ([], [])
    (lines ++ [cur]).map fun cs => String.ofList ((cs.reverse.dropWhile (· == ' ')).reverse)

/-- The lines a cell's text takes in a column of content width `w`, as measured for its row's
height: tabs take no room here. -/
def measuredHeight (w : Nat) (text : String) : Nat :=
  if w == 0 then 1
  else ((dropReturns text).splitOn "\n").foldl (fun n l => n + (wrapLine w l).length) 0

/-- A cell shown in a column `w` columns wide (padding included) and `h` lines tall. -/
def cellLines (w h : Nat) (text : String) : List String :=
  let lines := ((expandTabs (dropReturns text)).splitOn "\n").flatMap (wrapLine (w - 2))
  let shown := lines.map fun l => padRight w (" " ++ l ++ " ")
  let cut := shown.map fun l => String.ofList (cutWord w l.toList |>.headD [])
  (cut.take h) ++ List.replicate (h - cut.length) (String.ofList (List.replicate w ' '))

/-- The widest line of a cell, tabs taking no room. -/
def cellWidth (text : String) : Nat :=
  ((dropReturns text).splitOn "\n").foldl (fun m l => max m (textWidth l)) 0

/-- A border line: the left corner, each column's rule, the joints and the right corner. -/
def rule (left joint right : String) (widths : List Nat) : String :=
  left ++ joint.intercalate (widths.map fun w => String.join (List.replicate w "─")) ++ right

/-- A row of cells, each `h` lines tall, between borders. -/
def rowLines (widths : List Nat) (h : Nat) (cells : List String) : List String :=
  let blocks := (widths.zip cells).map fun (w, c) => cellLines w h c
  (List.range h).map fun i =>
    "│" ++ "│".intercalate (blocks.map fun b => b.getD i "") ++ "│"

/-- A bordered table with rounded corners; empty when it has neither header nor rows. -/
def grid (headers : List String) (rows : List (List String)) : String :=
  if headers.isEmpty && rows.isEmpty then ""
  else
    let columns := rows.foldl (fun m r => max m r.length) 0
    let headers := if headers.isEmpty then headers
      else headers ++ List.replicate (columns - headers.length) ""
    let rows := rows.map fun r => r ++ List.replicate (columns - r.length) ""
    let all := if headers.isEmpty then rows else headers :: rows
    let count := all.foldl (fun m r => max m r.length) 0
    let widths := (List.range count).map fun c =>
      all.foldl (fun m r => max m (cellWidth (r.getD c ""))) 0 + 2
    let head := if headers.isEmpty then []
      else rowLines widths 1 headers ++ [rule "├" "┼" "┤" widths]
    let body := rows.flatMap fun r =>
      let h := (widths.zip r).foldl (fun m (w, c) => max m (measuredHeight (w - 2) c)) 1
      rowLines widths h r
    "\n".intercalate ([rule "╭" "┬" "╮" widths] ++ head ++ body ++ [rule "╰" "┴" "╯" widths])

end PredictorSweep.Console
