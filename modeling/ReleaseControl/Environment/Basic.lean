import ReleaseControl.Assoc

/-! # The environment

The variables a process runs with: texts under names. A name is looked up with `Assoc.get?`, so the
first of two entries counts. -/

namespace ReleaseControl

abbrev Environment := List (String × String)

end ReleaseControl
