/-!
# Case runs

Case mappings change long stretches of an alphabet in step: every character
of a run, or every second one, moves by the same distance.
-/

namespace PageFilters.Text

/-- The code points `first`, `first + step`, …, `last`; the image of `first` is
`image`, and the others keep their distance from it. -/
structure CaseRun where
  first : Nat
  last : Nat
  step : Nat
  image : Nat
  deriving Repr, DecidableEq

/-- The image of a code point under a run that holds it. -/
def CaseRun.imageOf? (run : CaseRun) (point : Nat) : Option Nat :=
  if run.first ≤ point && point ≤ run.last && (point - run.first) % run.step == 0 then
    some (run.image + (point - run.first))
  else
    none

theorem CaseRun.image_le {run : CaseRun} {point image : Nat}
    (holds : run.imageOf? point = some image) : run.image ≤ image := by
  unfold CaseRun.imageOf? at holds
  split at holds
  · cases holds
    exact Nat.le_add_right _ _
  · contradiction

/-- The image under the first run that holds the code point. -/
def caseImage? (runs : Array CaseRun) (point : Nat) : Option Nat :=
  runs.findSome? (·.imageOf? point)

end PageFilters.Text
