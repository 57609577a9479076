/-!
# The metrics table

The metrics are shown as a two-column table drawn with box characters: a header row `Metric`,
`Value` set off by a double rule, then one row per metric with dotted rules between rows.
Each column is as wide as its widest cell with one space on each side, and cells are aligned
left. The table has no line feed after its last line.
-/

namespace FieldSelection.Cli

/-- `s` padded with spaces on the right to `w` characters. -/
def padRight (s : String) (w : Nat) : String :=
  s ++ String.ofList (List.replicate (w - s.length) ' ')

/-- A rule line: the left corner, each column's run of `fill`, joined by `cross`, and the right
corner. -/
def ruleLine (left fill cross right : Char) (widths : List Nat) : String :=
  String.singleton left ++
    (String.singleton cross).intercalate
      (widths.map fun w => String.ofList (List.replicate (w + 2) fill)) ++
    String.singleton right

/-- A row of cells, each padded to its column's width. -/
def rowLine (widths : List Nat) (cells : List String) : String :=
  "│ " ++ " ┆ ".intercalate ((cells.zip widths).map fun (c, w) => padRight c w) ++ " │"

/-- The table of `rows` under the header `Metric`, `Value`. -/
def metricsTable (rows : List (String × Nat)) : String :=
  let cells := rows.map fun (k, v) => [k, toString v]
  let widthOf := fun (i : Nat) (h : String) =>
    cells.foldl (fun w r => max w ((r[i]?.getD "").length)) h.length
  let widths := [widthOf 0 "Metric", widthOf 1 "Value"]
  let body := cells.map (rowLine widths)
  let between := ruleLine '├' '╌' '┼' '┤' widths
  "\n".intercalate ([ruleLine '┌' '─' '┬' '┐' widths, rowLine widths ["Metric", "Value"],
    ruleLine '╞' '═' '╪' '╡' widths] ++ List.intersperse between body ++
    [ruleLine '└' '─' '┴' '┘' widths])

end FieldSelection.Cli
