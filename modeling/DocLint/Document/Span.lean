/-!
# Spans

Every node lies at a span of its source text (`Position`): lines and columns count from one, columns count
characters, and the end is the place of the last character. What was not read from a text lies at the
start.
-/

namespace DocLint

/-- The stretch of the source text from which a node was read (`Position`). -/
structure Span where
  /-- The line of the first character. -/
  startLine : Nat
  /-- The column of the first character. -/
  startColumn : Nat
  /-- The line of the last character. -/
  endLine : Nat
  /-- The column of the last character. -/
  endColumn : Nat
  deriving DecidableEq, Repr

/-- The span of whatever has no place in a text (`Position::start`). -/
def Span.start : Span := ⟨1, 1, 1, 1⟩

end DocLint
