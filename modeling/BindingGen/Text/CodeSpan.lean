/-!
# Spans of code points

Character classes and case mappings beyond ASCII are lists of spans. A span is an arithmetic
progression of code points, since upper and lower case letters often alternate.
-/

namespace BindingGen.Text

structure CodeSpan where
  first : Nat
  last : Nat
  step : Nat

def CodeSpan.contains (span : CodeSpan) (code : Nat) : Bool :=
  span.first ≤ code && code ≤ span.last && (code - span.first) % span.step == 0

def CodeSpan.anyContains (spans : List CodeSpan) (code : Nat) : Bool :=
  spans.any (·.contains code)

end BindingGen.Text
