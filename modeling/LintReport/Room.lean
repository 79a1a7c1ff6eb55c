import LintReport.Json.Reader

/-!
# Room for nesting

Whoever reads a document goes down into what is nested in it, on a stack of which a part is in use
where the reading begins. So it is no rule of a format how deep its documents may be nested: it is
given from outside, for each place where documents are read.
-/

namespace LintReport

/-- How deep documents may be nested at the places where they are read. For TOML this is counted in
the units of `Toml.value`. -/
structure Room where
  report : Nat := Json.usualDepth
  sourceMap : Nat := Json.usualDepth
  toml : Nat := 989
  yaml : Nat := 490

end LintReport
