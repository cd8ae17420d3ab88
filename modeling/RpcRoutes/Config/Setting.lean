/-!
# Settings as written

A configuration is written in a format that has more kinds of values than settings need. A
`Setting` keeps of a written value what reading settings looks at.

* `SettingForm` holds the decisions in which formats differ.
-/

namespace RpcRoutes

/-- A written value, as far as settings need it. -/
inductive Setting where
  | text (s : String)
  | list (items : List Setting)
  /-- A section with its members in order. -/
  | section (members : List (String × Setting))
  | moment
  | null
  | other
  deriving Repr, Inhabited

/-- How a format writes what settings allow in several ways. -/
structure SettingForm where
  /-- Whether a list of fields may have more items than there are fields. -/
  spareItems : Bool
  /-- Whether a value carries nothing, so that it may follow the name of a choice. -/
  isVoid : Setting → Bool

namespace SettingForm

/-- Spare items are ignored, and an empty list or section carries nothing. -/
def lenient : SettingForm where
  spareItems := true
  isVoid
    | .list [] => true
    | .section [] => true
    | _ => false

/-- Spare items are refused, and only null carries nothing. -/
def strict : SettingForm where
  spareItems := false
  isVoid
    | .null => true
    | _ => false

end SettingForm

end RpcRoutes
