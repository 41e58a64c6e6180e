import Std.Data.TreeMap

/-!
Tables: names bound to values. What is listed of a table is listed in the order of its names.
-/

namespace CommandLine

/-- Names bound to values. -/
abbrev Table (α : Type) := Std.TreeMap String α

end CommandLine
