import XdotViewer.Decimal.Literal
import XdotViewer.Text.Blank
import XdotViewer.Text.Fields

/-! # Versions

A version is a list of numbers with points between them. A part that is no number counts as zero,
and so does a part that is not there.
-/

namespace XdotViewer.Version

def parts (text : List Char) : List Nat :=
  (fields '.' (trim text)).map fun part => (readWord? (trim part)).getD 0

/-- Compares part by part; what one list lacks counts as zero. -/
def compareParts : List Nat → List Nat → Ordering
  | as, [] => if as.all (· == 0) then .eq else .gt
  | [], bs => if bs.all (· == 0) then .eq else .lt
  | a :: as, b :: bs => (compare a b).then (compareParts as bs)

def compareTexts (a b : String) : Ordering :=
  compareParts (parts a.toList) (parts b.toList)

/-- The newest version of the drawing language that is understood. -/
def newest : String := "1.2"

/-- The version of a document that names none. -/
def assumed : String := "1.0"

/-- Comparing the other way round swaps the answer. -/
theorem compareParts_swap (a b : List Nat) : (compareParts a b).swap = compareParts b a := by
  induction a generalizing b with
  | nil =>
    cases b with
    | nil => rfl
    | cons b bs => simp only [compareParts]; split <;> rfl
  | cons a as ih =>
    cases b with
    | nil => simp only [compareParts]; split <;> rfl
    | cons b bs => rw [compareParts, compareParts, Ordering.swap_then, ih, Nat.compare_swap]

end XdotViewer.Version
