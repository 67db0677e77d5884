/-
Module: NginxFleet.Report
Layer: Report
Purpose: Errors and log lines as they are reported to a user. A report ends after the words for an
  answer that cannot be read, since the details depend on the reader of the answer.
Main exports: reported, LogEntry.report, OperatorError.report
-/
import NginxFleet.Log
import NginxFleet.Reconcile.Error
import NginxFleet.Text.Cut

namespace NginxFleet

/-- A text as it is reported. -/
def reported (text : String) : String :=
  Text.cutAfter ClientError.unreadableText text

/-- A log line as it is reported. -/
def LogEntry.report (entry : LogEntry) : String :=
  reported entry.text

/-- The sentence for an error as it is reported. -/
def OperatorError.report (error : OperatorError) : String :=
  reported error.message

end NginxFleet
