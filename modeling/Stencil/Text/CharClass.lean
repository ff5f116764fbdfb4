/-! # Character classes — sets of code points given by their boundaries

    A class is written as the ascending list of the code points at which
    membership changes: the first number starts the first run, the second ends
    it, and so on.  `inClass` decides membership by the parity of the boundaries
    already passed. -/

namespace Stencil.Text

/-- Whether a code point lies in the class with the given boundaries. -/
def inClass : List Nat → Nat → Bool
  | [], _ => false
  | bound :: bounds, code => decide (bound ≤ code) && !inClass bounds code

/-- A code point between the first two boundaries is inside the class. -/
theorem inClass_of_between {first second code : Nat} (bounds : List Nat)
    (h : first ≤ code) (h' : code < second) :
    inClass (first :: second :: bounds) code = true := by
  simp [inClass, h, Nat.not_le.mpr h']

end Stencil.Text
