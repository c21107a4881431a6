import Driftwatch.Report.Page
import Driftwatch.Report.Text

/-!
# Reports

A report is made of a scan and its changes and comes in three formats. The structured format holds
both as they are stored.

## Main definitions

* `ReportFormat.render`: the report in a format.
-/

namespace Driftwatch

/-- The report with everything in it, as a structured value. -/
def reportJson (snapshot : Snapshot) (changes : Changes) : Json :=
  .obj [("snapshot", toJson snapshot), ("changes", toJson changes)]

/-- The report in a format. -/
def ReportFormat.render (format : ReportFormat) (snapshot : Snapshot) (changes : Changes) :
    String :=
  match format with
  | text => textReport snapshot changes
  | json => (reportJson snapshot changes).pretty
  | html => (pageReport snapshot changes).render

end Driftwatch
