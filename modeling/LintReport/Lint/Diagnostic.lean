import LintReport.Value.Integer
import LintReport.Value.Shown

/-!
# Diagnostics

A diagnostic is one finding of a linter. Of the fields that a linter writes the message is required;
line, column and rule are taken as they are.
-/

namespace LintReport

/-- One finding. A fatal one is an error whatever its severity. -/
structure Diagnostic where
  message : Text
  severity : Int
  line : Value
  column : Value
  rule : Value
  fatal : Bool

/-- Why a value is no report of a linter. -/
inductive Lint.Fault where
  | reportNotAList
  | fileNotAnObject
  | noFilePath
  | messagesNotAList
  | messageNotAnObject
  | noMessage
  | severity (fault : Value.IntegerFault)
  | numberTooLong
  deriving DecidableEq

namespace Diagnostic

def errorSeverity : Int := 2

def isError (d : Diagnostic) : Bool :=
  d.fatal || d.severity = errorSeverity

/-- The rule that a message names, under either of two keys. The first key counts if it is there,
also with null. -/
def ruleOf (entries : List (Value × Value)) : Value :=
  (Value.named? "ruleId" entries).getD (Value.namedD entries "rule_id")

def ofFields (entries : List (Value × Value)) (message : Value) : Except Lint.Fault Diagnostic :=
  match message.text? with
  | none => .error .numberTooLong
  | some message =>
    match ((Value.namedD entries "severity").orElse (.int 0)).toInt with
    | .error fault => .error (.severity fault)
    | .ok severity =>
      .ok {
        message
        severity
        line := Value.namedD entries "line"
        column := Value.namedD entries "column"
        rule := ruleOf entries
        fatal := (Value.namedD entries "fatal").truthy }

def ofValue : Value → Except Lint.Fault Diagnostic
  | .map entries =>
    match Value.named? "message" entries with
    | none => .error .noMessage
    | some message => ofFields entries message
  | _ => .error .messageNotAnObject

/-- The diagnostics that values describe, up to the first that describes none. -/
def ofValues : List Value → Except Lint.Fault (List Diagnostic)
  | [] => .ok []
  | v :: rest =>
    match ofValue v with
    | .error fault => .error fault
    | .ok d => (ofValues rest).map (d :: ·)

end Diagnostic

end LintReport
