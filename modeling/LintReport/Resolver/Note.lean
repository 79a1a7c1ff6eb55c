import LintReport.Text.Basic

/-!
# Notes

What the resolver has to say about its work. Notes are for the log; no answer depends on them.
-/

namespace LintReport

inductive Note where
  | generatedMissing
  | generatedUnreadable
  | noDirective
  | inlineUnreadable
  | mapUnreadable
  | mapMissing
  | mapLoaded
  | mapMalformed
  | noMapping
  deriving DecidableEq

/-- The wording of a note, with a place for each of the things that it speaks of. -/
def Note.wording : Note → Text
  | generatedMissing => "Generated file %s does not exist"
  | generatedUnreadable => "Could not read %s: %s"
  | noDirective => "No sourceMappingURL in %s"
  | inlineUnreadable => "Inline source map of %s is unreadable: %s"
  | mapUnreadable => "Could not read source map %s: %s"
  | mapMissing => "Source map %s of %s does not exist"
  | mapLoaded => "Loaded source map for %s"
  | mapMalformed => "Ignoring malformed source map for %s: %s"
  | noMapping => "No mapping for %s:%s:%s, keeping generated position"

def Note.level : Text := "DEBUG"

end LintReport
