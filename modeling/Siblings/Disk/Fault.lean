import Siblings.Text.Basic

/-!
# Faults of a disk

Why a disk refuses to read or write, and the wording of each refusal.
-/

namespace Siblings

/-- **Why a disk refuses.** -/
inductive Fault where
  /-- There is nothing at the path. -/
  | missing
  /-- There is something at the path already. -/
  | occupied
  /-- The path goes through a file. -/
  | notDirectory
  /-- There is a directory at the path. -/
  | isDirectory
  /-- Any other refusal, by its number and wording. -/
  | other (code : Nat) (wording : Text)
  deriving DecidableEq, Repr

namespace Fault

/-- The wording and number of a fault. -/
def describe : Fault → Text × Nat
  | missing => ("No such file or directory".toList, 2)
  | occupied => ("File exists".toList, 17)
  | notDirectory => ("Not a directory".toList, 20)
  | isDirectory => ("Is a directory".toList, 21)
  | other code wording => (wording, code)

/-- The wording of a fault, with its number. -/
def message (fault : Fault) : Text :=
  fault.describe.1 ++ " (os error ".toList ++ Text.ofNat fault.describe.2 ++ [')']

end Fault

end Siblings
