import DroidRoots.Role

/-! What is noted in the log while an analysis runs. -/

namespace DroidRoots

inductive Notice
  | ruleDisabled (base : Text) (role : Role)
  | assumedPlain (name : Text)
  | signaturesSkipped (count : Nat)
  | hierarchyUnavailable (path : Text)
  deriving DecidableEq, Repr

namespace Notice

def isWarning : Notice → Bool
  | assumedPlain _ | hierarchyUnavailable _ => true
  | ruleDisabled _ _ | signaturesSkipped _ => false

def weight (notice : Notice) : Nat := if notice.isWarning then 30 else 10

def text : Notice → Text
  | ruleDisabled base role =>
    "Base type " ++ base ++ " not in hierarchy; " ++ role.title ++ " rule disabled"
  | assumedPlain name => "No class hierarchy, assuming " ++ name ++ " is a plain class"
  | signaturesSkipped count =>
    "Skipped " ++ Text.ofNat count ++ " call graph methods with unparseable signatures"
  | hierarchyUnavailable path => "Class hierarchy unavailable at " ++ path

def line (notice : Notice) : Text :=
  Text.of (if notice.isWarning then "WARNING " else "DEBUG ") ++ notice.text

end Notice

end DroidRoots
