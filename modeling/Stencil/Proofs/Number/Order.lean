import Stencil.Proofs.Number.Rounding

/-! # The order of numbers — moments compare as their ranks do

    Numbers are compared by their places between the infinities, so being at most
    another is transitive, also through what is not a number, which is at most
    nothing.  The greater of two numbers is one of them, and of two moments both are
    at most that one. -/

namespace Stencil.Binary64

theorem Rank.le_trans {a b c : Rank} (h : a.le b) (h' : b.le c) : a.le c := by
  cases a with
  | lowest => rfl
  | highest =>
      cases b with
      | highest => exact h'
      | lowest => cases h
      | «at» m => cases h
  | «at» k =>
      cases b with
      | lowest => cases h
      | highest =>
          cases c with
          | highest => rfl
          | lowest => cases h'
          | «at» n => cases h'
      | «at» m =>
          cases c with
          | highest => rfl
          | lowest => cases h'
          | «at» n =>
              have hkm := of_decide_eq_true h
              have hmn := of_decide_eq_true h'
              exact decide_eq_true (Int.le_trans hkm hmn)

theorem Rank.le_total (a b : Rank) : a.le b ∨ b.le a := by
  cases a with
  | lowest => exact .inl rfl
  | highest =>
      cases b with
      | lowest => exact .inr rfl
      | highest => exact .inl rfl
      | «at» n => exact .inr rfl
  | «at» m =>
      cases b with
      | lowest => exact .inr rfl
      | highest => exact .inl rfl
      | «at» n =>
          rcases Int.le_total m n with h | h
          · exact .inl (decide_eq_true h)
          · exact .inr (decide_eq_true h)

/-- Being at most another is transitive. -/
theorem le_trans {x y z : Binary64} (h : x.le y) (h' : y.le z) : x.le z := by
  rw [le] at h h' ⊢
  cases hx : x.rank? with
  | none =>
      rw [hx] at h
      cases h
  | some a =>
      cases hy : y.rank? with
      | none =>
          rw [hx, hy] at h
          cases h
      | some b =>
          cases hz : z.rank? with
          | none =>
              rw [hy, hz] at h'
              cases h'
          | some c =>
              rw [hx, hy] at h
              rw [hy, hz] at h'
              exact Rank.le_trans h h'

/-- Of two numbers in the order one is at most the other. -/
theorem le_total {x y : Binary64} (hx : x.le x) (hy : y.le y) : x.le y ∨ y.le x := by
  rw [le] at hx hy
  rw [le, le]
  cases hrank : x.rank? with
  | none =>
      rw [hrank] at hx
      cases hx
  | some a =>
      cases hrank' : y.rank? with
      | none =>
          rw [hrank'] at hy
          cases hy
      | some b => exact Rank.le_total a b

/-- The greater of two numbers is one of them. -/
theorem largest_eq_or (x y : Binary64) : x.largest y = x ∨ x.largest y = y := by
  rw [largest]
  split
  · exact .inr rfl
  · exact .inl rfl

theorem IsCanonical.largest {x y : Binary64} (hx : x.IsCanonical) (hy : y.IsCanonical) :
    (x.largest y).IsCanonical := by
  rcases largest_eq_or x y with h | h
  · rw [h]
    exact hx
  · rw [h]
    exact hy

/-- What a clock can show: a number of canonical form that is in the order. -/
structure IsMoment (x : Binary64) : Prop where
  canonical : x.IsCanonical
  ordered : x.le x = true

/-- Two moments are at most the greater of them. -/
theorem IsMoment.le_largest {x y : Binary64} (hx : x.IsMoment) (hy : y.IsMoment) :
    x.le (x.largest y) = true ∧ y.le (x.largest y) = true := by
  rw [largest]
  split
  case isTrue h =>
    rw [Bool.and_eq_true] at h
    exact ⟨h.1, hy.ordered⟩
  case isFalse h =>
    refine ⟨hx.ordered, ?_⟩
    rcases le_total hx.ordered hy.ordered with hle | hle
    · simpa [hle] using h
    · exact hle

end Stencil.Binary64
