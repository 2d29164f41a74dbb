import ConvexQP.Proofs.Scan.StepLength

/-!
The order of floating-point numbers. Two numbers that are none of them undefined compare one way or
the other, so a number that was raised to a floor is at least the floor; an undefined one compares
with nothing and passes every floor as it is.
-/
namespace ConvexQP
namespace Floating
open Float.Model (UnpackedFloat)

theorem compare_swap (left right : UnpackedFloat) :
    right.compare left = (left.compare right).map Ordering.swap := by
  rcases left with (_ | _) | _ | _ | ⟨_ | _, mantissa, exponent, _⟩ <;>
    rcases right with (_ | _) | _ | _ | ⟨_ | _, other, power, _⟩ <;>
    simp [UnpackedFloat.compare, Ordering.swap_then, ← Std.OrientedOrd.eq_swap] <;> rfl

theorem compare_isSome (left right : UnpackedFloat) :
    (left.compare right).isSome = (!left.isNaN && !right.isNaN) := by
  rcases left with (_ | _) | _ | _ | ⟨_ | _, _, _, _⟩ <;>
    rcases right with (_ | _) | _ | _ | ⟨_ | _, _, _, _⟩ <;> rfl

theorem le_iff (left right : Float) : left ≤ right ↔
    (left.toModel.unpack.compare right.toModel.unpack).any (·.isLE) = true := by
  change decide (left.toModel ≤ right.toModel) = true ↔ _
  rw [decide_eq_true_iff]
  rfl

theorem compare_isSome_iff (left right : Float) :
    (left.toModel.unpack.compare right.toModel.unpack).isSome = true ↔
      left.isNaN = false ∧ right.isNaN = false := by
  rw [compare_isSome, Bool.and_eq_true, Bool.not_eq_true', Bool.not_eq_true']
  rfl

/-- Of two numbers the one that is not below the other is above or level. -/
theorem le_of_not_lt (left right : Float) (first : left.isNaN = false)
    (second : right.isNaN = false) (above : ¬ left < right) : right ≤ left := by
  obtain ⟨order, compared⟩ :=
    Option.isSome_iff_exists.mp ((compare_isSome_iff left right).mpr ⟨first, second⟩)
  rw [lt_iff, compared] at above
  rw [le_iff, compare_swap, compared]
  cases order with
  | lt => exact absurd rfl above
  | eq | gt => rfl

theorem defined_of_le (left right : Float) (below : left ≤ right) :
    left.isNaN = false ∧ right.isNaN = false := by
  rw [le_iff] at below
  obtain ⟨order, compared, _⟩ := (Option.any_eq_true ..).mp below
  exact (compare_isSome_iff left right).mp (Option.isSome_iff_exists.mpr ⟨order, compared⟩)

theorem defined_of_lt (left right : Float) (below : left < right) :
    left.isNaN = false ∧ right.isNaN = false :=
  defined_of_le left right (le_of_lt left right below)

theorem not_lt_of_le (left right : Float) (below : left ≤ right) : ¬ right < left := by
  rw [le_iff] at below
  rw [lt_iff, compare_swap]
  obtain ⟨order, compared, least⟩ := (Option.any_eq_true ..).mp below
  rw [compared]
  cases order with
  | lt | eq => exact fun above => nomatch above
  | gt => cases least

/-- An undefined number is not raised. -/
theorem larger_of_isNaN (value floor : Float) (undefined : value.isNaN = true) :
    larger value floor = value := by
  apply if_neg
  intro below
  rw [(defined_of_lt value floor below).1] at undefined
  cases undefined

/-- A raised number is at least the floor, unless it was undefined. -/
theorem le_larger_iff (value floor : Float) (level : floor ≤ floor) :
    floor ≤ larger value floor ↔ value.isNaN = false := by
  constructor
  · intro reached
    by_contra undefined
    rw [larger_of_isNaN value floor (Bool.eq_true_of_not_eq_false undefined)] at reached
    exact undefined (defined_of_le floor value reached).2
  · intro number
    unfold larger
    split
    · exact level
    · rename_i above
      exact le_of_not_lt value floor number (defined_of_le floor floor level).1 above

/-- An undefined number is not brought between two others. -/
theorem between_of_isNaN (value floor ceiling : Float) (undefined : value.isNaN = true) :
    smaller (larger value floor) ceiling = value := by
  rw [larger_of_isNaN value floor undefined]
  apply if_neg
  intro above
  rw [(defined_of_lt ceiling value above).2] at undefined
  cases undefined

theorem between_iff (value floor ceiling : Float) (level : floor ≤ floor) (room : floor ≤ ceiling)
    (top : ceiling ≤ ceiling) :
    floor ≤ smaller (larger value floor) ceiling ∧
      smaller (larger value floor) ceiling ≤ ceiling ↔ value.isNaN = false := by
  constructor
  · rintro ⟨reached, _⟩
    by_contra undefined
    rw [between_of_isNaN value floor ceiling (Bool.eq_true_of_not_eq_false undefined)] at reached
    exact undefined (defined_of_le floor value reached).2
  · intro number
    have raised := (le_larger_iff value floor level).mpr number
    unfold smaller
    split
    · exact ⟨room, top⟩
    · rename_i below
      exact ⟨raised, le_of_not_lt ceiling _ (defined_of_le ceiling ceiling top).1
        (defined_of_le floor _ raised).2 below⟩

end Floating

/-! ### Raising and lowering twice -/

section
variable {R : Type} [Scalar R]

theorem larger_larger (value floor : R) : larger (larger value floor) floor = larger value floor := by
  by_cases below : value < floor
  · simp only [larger, if_pos below, ite_self]
  · simp only [larger, if_neg below]

/-- Where the ceiling is not below the floor, a number brought between them stays. -/
theorem between_between (value floor ceiling : R) (room : ¬ ceiling < floor) :
    smaller (larger (smaller (larger value floor) ceiling) floor) ceiling =
      smaller (larger value floor) ceiling := by
  unfold smaller
  split
  · have kept : larger ceiling floor = ceiling := if_neg room
    rw [kept, ite_self]
  · rename_i below
    rw [larger_larger, if_neg below]

end
end ConvexQP
