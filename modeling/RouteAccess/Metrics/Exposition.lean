/-
RouteAccess/Metrics/Exposition.lean

Metrics as lines of text: two comments about each metric, then a line for each
of its samples, with the name, the labels in braces, and the value.
-/
import RouteAccess.Metrics.Basic

namespace RouteAccess

namespace Sample

/-! ### Numbers -/

/-- Characters without the zeros and points at their end. -/
def trimZeros (cs : List Char) : List Char :=
  (cs.reverse.dropWhile fun c => c = '0' || c = '.').reverse

/-- A power of ten as it is written: at least two digits. -/
def powerText (n : Nat) : List Char :=
  if n < 10 then '0' :: Nat.toDigits 10 n else Nat.toDigits 10 n

/-- A positive number with more than six digits before the point, in scientific
notation; every other number as it is. -/
def scaled (positive : Bool) (cs : List Char) : List Char :=
  let whole := cs.takeWhile (· ≠ '.')
  match whole, cs.drop whole.length with
  | first :: more, '.' :: places =>
    if positive && 6 < whole.length then
      trimZeros (first :: '.' :: more ++ places) ++ ['e', '+'] ++ powerText more.length
    else cs
  | _, _ => cs

/-- The text of a value. -/
def valueText : Binary64 → String
  | .infinite false => "+Inf"
  | .infinite true => "-Inf"
  | .nan => "NaN"
  | x => String.ofList (scaled (!x.isNegative) x.text.toList)

/-! ### Lines -/

/-- A character inside a label value. -/
def escapeChar (c : Char) : List Char :=
  if c = '\\' then ['\\', '\\']
  else if c = '\n' then ['\\', 'n']
  else if c = '"' then ['\\', '"']
  else [c]

/-- A label with its value. -/
def labelText (label : String × String) : String :=
  label.1 ++ "=\"" ++ String.ofList (label.2.toList.flatMap escapeChar) ++ "\""

/-- The labels in braces, if there are any. -/
def labelsText (labels : List (String × String)) : String :=
  if labels = [] then ""
  else "\x7b" ++ String.intercalate "," (labels.map labelText) ++ "\x7d"

/-- The line of a sample. -/
def line (s : Sample) : String :=
  s.name ++ labelsText s.labels ++ " " ++ valueText s.value

end Sample

namespace Metric

/-- The name under which a metric is announced. -/
def announced (m : Metric) : String :=
  match m.kind with
  | .info => m.name ++ "_info"
  | _ => m.name

/-- The word for the kind under which a metric is announced. -/
def kindWord (m : Metric) : String :=
  match m.kind with
  | .info => "gauge"
  | .counter => "counter"
  | .histogram => "histogram"

/-- The comments about a metric. -/
def comments (m : Metric) : List String :=
  ["# HELP " ++ m.announced ++ " " ++ m.about, "# TYPE " ++ m.announced ++ " " ++ m.kindWord]

end Metric

namespace Metrics

/-- The lines of all metrics, with the comments about them. -/
def exposition (m : Metrics) : List String :=
  Metric.all.flatMap fun metric => metric.comments ++ (m.samplesOf metric).map Sample.line

end Metrics

end RouteAccess
