import RecordStore.Proofs.Registry
import RecordStore.Proofs.Sql.Template

namespace RecordStore

/-!
# Statements for a count in figures

A book that is asked for a statement with a count in figures gives a text that is scanned back into
the template of the statement, with the places from the first to the last. Only the greatest count
is reckoned wrongly: its text is about no keys at all.
-/

variable {l : Layout} {d : Dialect} {s : Statement} {count : UInt64}

namespace Layout

end Layout

namespace Statement

end Statement

/-! ## Texts -/

end RecordStore
