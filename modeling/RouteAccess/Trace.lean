/-
RouteAccess/Trace.lean

Spans of a distributed trace.  A span has an identifier of its own and that of
its trace; the identifier zero stands for none, and only a span that is being
recorded is referred to.
-/
import RouteAccess.Text.CharClass

namespace RouteAccess

/-- The span in which something happens. -/
structure TraceSpan where
  trace : Nat
  span : Nat
  recording : Bool
deriving DecidableEq, Repr

namespace TraceSpan

/-- An identifier as hexadecimal digits, at least `width` of them. -/
def hexText (width n : Nat) : String :=
  let digits := Nat.toDigits 16 n
  String.ofList (List.replicate (width - digits.length) '0' ++ digits)

/-- The identifier of the trace, as it is referred to. -/
def traceText? (s : TraceSpan) : Option String :=
  if s.recording && s.trace != 0 then some (hexText 32 s.trace) else none

/-- The identifier of the span, as it is referred to. -/
def spanText? (s : TraceSpan) : Option String :=
  if s.recording && s.span != 0 then some (hexText 16 s.span) else none

end TraceSpan

end RouteAccess
