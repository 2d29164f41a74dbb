import ConvexQP.Proofs.Exact.Arithmetic
import ConvexQP.Proofs.Storage.Kinds
import Mathlib.Algebra.Order.BigOperators.Group.List

/-!
What stands under the root of a norm. Of reals and of complex numbers it is the sum of the squares
of all elements, whatever the blocks are. Whole numbers are multiplied and added up with wrapping,
block by block, so the sum is theirs only as long as no block carries it out of range.
-/
namespace ConvexQP
open SegmentedVector
open scoped Exact

/-! ### Whole numbers -/

/-- The square of a whole number, as an integer. -/
def Element.wholeSquare : Element → Int
  | .whole value => value.toInt * value.toInt
  | _ => 0

theorem Element.wholeSquare_nonneg (element : Element) : 0 ≤ element.wholeSquare := by
  cases element with
  | whole value => exact mul_self_nonneg value.toInt
  | real | complex => exact le_rfl

theorem toInt_addWholeSquare (total : Int64) (element : Element) :
    (addWholeSquare total element).toInt = (total.toInt + element.wholeSquare).bmod (2 ^ 64) := by
  cases element with
  | whole value =>
      rw [addWholeSquare, Int64.toInt_add, Int64.toInt_mul, Int.add_bmod_bmod]
      rfl
  | real | complex =>
      change total.toInt = (total.toInt + 0).bmod (2 ^ 64)
      rw [add_zero]
      exact (Int64.toInt_bmod_size total).symm

/-- The squares of a part are added up to the integer sum, wrapped once. -/
theorem toInt_foldl_addWholeSquare (part : List Element) (total : Int64) :
    (part.foldl addWholeSquare total).toInt =
      (total.toInt + (part.map Element.wholeSquare).sum).bmod (2 ^ 64) := by
  induction part generalizing total with
  | nil => simp
  | cons element rest ih =>
      rw [List.foldl_cons, ih, toInt_addWholeSquare, Int.bmod_add_bmod, List.map_cons,
        List.sum_cons, add_assoc]

/-- What a part of whole numbers adds to the sum. -/
def wrappedSquares (part : List Element) : Int :=
  (part.map Element.wholeSquare).sum.bmod (2 ^ 64)

theorem squares_nonneg (part : List Element) : 0 ≤ (part.map Element.wholeSquare).sum :=
  List.sum_nonneg fun _ member => by
    obtain ⟨element, _, rfl⟩ := List.mem_map.mp member
    exact element.wholeSquare_nonneg

theorem wrappedSquares_eq_iff (part : List Element) :
    wrappedSquares part = (part.map Element.wholeSquare).sum ↔
      (part.map Element.wholeSquare).sum < 2 ^ 63 := by
  have nonneg := squares_nonneg part
  have high := Int.bmod_lt (x := (part.map Element.wholeSquare).sum) (m := 2 ^ 64) (by decide)
  constructor
  · intro same
    rw [wrappedSquares] at same
    omega
  · intro small
    exact Int.bmod_eq_of_le (by omega) (by omega)

/-- Wrapping never adds. -/
theorem wrappedSquares_le (part : List Element) :
    wrappedSquares part ≤ (part.map Element.wholeSquare).sum := by
  have nonneg := squares_nonneg part
  have high := Int.bmod_lt (x := (part.map Element.wholeSquare).sum) (m := 2 ^ 64) (by decide)
  rcases lt_or_ge (part.map Element.wholeSquare).sum (2 ^ 63) with small | large
  · exact ((wrappedSquares_eq_iff part).mpr small).le
  · rw [wrappedSquares]
    omega

theorem wrappedSum_eq_iff (parts : List (List Element)) :
    (parts.map wrappedSquares).sum =
        (parts.map fun part => (part.map Element.wholeSquare).sum).sum ↔
      ∀ part ∈ parts, (part.map Element.wholeSquare).sum < 2 ^ 63 := by
  constructor
  · intro same part member
    rw [← wrappedSquares_eq_iff]
    by_contra apart
    have below : wrappedSquares part < (part.map Element.wholeSquare).sum :=
      lt_of_le_of_ne (wrappedSquares_le part) apart
    exact (List.sum_lt_sum wrappedSquares (fun part => (part.map Element.wholeSquare).sum)
      (fun other _ => wrappedSquares_le other) ⟨part, member, below⟩).ne same
  · intro small
    exact congrArg List.sum (List.map_congr_left fun part member =>
      (wrappedSquares_eq_iff part).mpr (small part member))

/-- A part of a vector has no more squares than all of it. -/
theorem squares_le_of_view (vector : SegmentedVector Element) (part : List Element)
    (view : part ∈ vector.views) :
    (part.map Element.wholeSquare).sum ≤ (vector.toList.map Element.wholeSquare).sum := by
  rw [toList_eq_views, List.map_flatten, List.sum_flatten, List.map_map]
  refine List.single_le_sum ?_ _ (List.mem_map_of_mem view)
  intro total member
  obtain ⟨other, _, rfl⟩ := List.mem_map.mp member
  exact squares_nonneg other

/-! ### Exact sums -/

section Exactly
variable {K : Type} [Field K] (read : Float → K)

/-- Numbers as they are: reals by their value, whole numbers as integers, and nothing rounded. -/
def Reading.exact : Reading K := ⟨read, fun value => (value.toInt : K), id⟩

/-- The square of the absolute value of an element. -/
def Element.absSquare : Element → K
  | .real value => read value * read value
  | .whole value => (value.toInt : K) * (value.toInt : K)
  | .complex re im => read re * read re + read im * read im

theorem absSquares_whole (part : List Element)
    (own : ∀ element ∈ part, element.OfType .int64) :
    (part.map (Element.absSquare read)).sum = (((part.map Element.wholeSquare).sum : Int) : K) := by
  rw [Int.cast_list_sum, List.map_map]
  refine congrArg List.sum (List.map_congr_left fun element member => ?_)
  cases element with
  | whole value => simp [Element.absSquare, Element.wholeSquare]
  | real | complex => cases own _ member

/-- The squares of all elements are those of the parts, one by one. -/
theorem absSquares_views (vector : SegmentedVector Element) :
    (vector.views.map fun part => (part.map (Element.absSquare read)).sum).sum =
      (vector.toList.map (Element.absSquare read)).sum := by
  rw [toList_eq_views, List.map_flatten, List.sum_flatten, List.map_map]
  rfl

variable [LinearOrder K] [IsStrictOrderedRing K] [Rooted K]

theorem squareSum_eq (values : List K) :
    squareSum values = (values.map fun value => value * value).sum := by
  rw [List.sum_eq_foldl, List.foldl_map]
  rfl

section Parts
variable (part : List Element)

theorem partSquares_float64 (own : ∀ element ∈ part, element.OfType .float64) :
    ElementType.float64.partSquares (.exact read) part =
      (part.map (Element.absSquare read)).sum := by
  rw [ElementType.partSquares, squareSum_eq, List.map_map]
  refine congrArg List.sum (List.map_congr_left fun element member => ?_)
  cases element with
  | real value => rfl
  | whole | complex => cases own _ member

theorem partSquares_complex128 (own : ∀ element ∈ part, element.OfType .complex128) :
    ElementType.complex128.partSquares (.exact read) part =
      (part.map (Element.absSquare read)).sum := by
  rw [ElementType.partSquares, squareSum_eq, List.map_flatMap, List.flatMap_def, List.sum_flatten,
    List.map_map]
  refine congrArg List.sum (List.map_congr_left fun element member => ?_)
  cases element with
  | complex re im => simp [Reading.exact, Element.absSquare]
  | real | whole => cases own _ member

theorem partSquares_int64 :
    ElementType.int64.partSquares (.exact read) part = (wrappedSquares part : K) := by
  have folded := toInt_foldl_addWholeSquare part 0
  rw [Int64.toInt_zero, zero_add] at folded
  exact congrArg Int.cast folded

end Parts

theorem normSquare_eq_sum (typed : TypedStored) : typed.normSquare (.exact read) =
    (typed.stored.vector.views.map (typed.type.partSquares (.exact read))).sum :=
  List.sum_eq_foldl.symm

variable (typed : TypedStored) (own : typed.listing.Typed)

include own in
theorem view_ofType (part : List Element) (view : part ∈ typed.stored.vector.views) :
    ∀ element ∈ part, element.OfType typed.type :=
  fun element member => own element (List.mem_flatten.mpr ⟨part, view, member⟩)

include own in
/-- Reals and complex numbers are added up exactly, whatever the blocks are. -/
theorem normSquare_exact (float : typed.type = .float64 ∨ typed.type = .complex128) :
    typed.normSquare (.exact read) =
      (typed.listing.items.map (Element.absSquare read)).sum := by
  rw [normSquare_eq_sum]
  refine Eq.trans ?_ (absSquares_views read typed.stored.vector)
  refine congrArg List.sum (List.map_congr_left fun part view => ?_)
  have kinds := view_ofType typed own part view
  rcases float with same | same
  · rw [same] at kinds ⊢
    exact partSquares_float64 read part kinds
  · rw [same] at kinds ⊢
    exact partSquares_complex128 read part kinds

/-- Whole numbers are added up with wrapping, part by part. -/
theorem normSquare_wrapped (whole : typed.type = .int64) :
    typed.normSquare (.exact read) =
      (((typed.stored.vector.views.map wrappedSquares).sum : Int) : K) := by
  rw [normSquare_eq_sum, whole, Int.cast_list_sum, List.map_map]
  exact congrArg List.sum (List.map_congr_left fun part _ => partSquares_int64 read part)

include own in
/-- The wrapped sum is the exact one as long as no part carries it out of range. -/
theorem normSquare_exact_iff (whole : typed.type = .int64) :
    typed.normSquare (.exact read) = (typed.listing.items.map (Element.absSquare read)).sum ↔
      ∀ part ∈ typed.stored.vector.views, (part.map Element.wholeSquare).sum < 2 ^ 63 := by
  have items : (typed.listing.items.map (Element.absSquare read)).sum =
      (((typed.stored.vector.views.map fun part =>
        (part.map Element.wholeSquare).sum).sum : Int) : K) := by
    rw [Int.cast_list_sum, List.map_map]
    refine (absSquares_views read typed.stored.vector).symm.trans ?_
    refine congrArg List.sum (List.map_congr_left fun part view => ?_)
    have kinds := view_ofType typed own part view
    rw [whole] at kinds
    exact absSquares_whole read part kinds
  rw [normSquare_wrapped read typed whole, items, Int.cast_inj]
  exact wrappedSum_eq_iff _

end Exactly

/-! ### Pools -/

namespace Pool

/-- The norm of any vector of a pool is the root of a sum, which is read here in exact numbers. Of
reals and complex numbers it is the sum of the squares of all elements. Of whole numbers it is the
sum of the wrapped squares of the blocks, which is that of the elements exactly if no block carries
it out of range, so certainly if all of them together do not. -/
theorem norm_of_reached {K : Type} [Field K] [LinearOrder K] [IsStrictOrderedRing K] [Rooted K]
    (read : Float → K) (history : List PoolRequest) (name : String) (holding : Holding)
    (held : (after history).holding? name = some holding) :
    let typed := (after history).typedOf holding
    let squares := (holding.listing.items.map (Element.absSquare read)).sum
    (after history).run (.act name .norm) =
        (.ok (.length (squareRoot (typed.normSquare .floating))), after history) ∧
      (holding.type = .float64 ∨ holding.type = .complex128 →
        typed.normSquare (.exact read) = squares) ∧
      (holding.type = .int64 →
        typed.normSquare (.exact read) =
            (((holding.vector.views.map wrappedSquares).sum : Int) : K) ∧
          (typed.normSquare (.exact read) = squares ↔
            ∀ part ∈ holding.vector.views, (part.map Element.wholeSquare).sum < 2 ^ 63) ∧
          ((holding.listing.items.map Element.wholeSquare).sum < 2 ^ 63 →
            typed.normSquare (.exact read) = squares)) := by
  intro typed squares
  have own : typed.listing.Typed := after_typed history holding (mem_of_holding _ name holding held)
  obtain ⟨number, named, _⟩ := Option.bind_eq_some_iff.mp held
  refine ⟨?_, normSquare_exact read typed own, fun whole => ⟨normSquare_wrapped read typed whole,
    normSquare_exact_iff read typed own whole, fun small => ?_⟩⟩
  · simp only [run, named, held]
    rfl
  · refine (normSquare_exact_iff read typed own whole).mpr fun part view => ?_
    exact (squares_le_of_view holding.vector part view).trans_lt small

/-- The value of a double, if it has one. -/
def rationalOf (value : Float) : ℚ :=
  match Decimal.Exact.ofFloat value with
  | .finite negative mantissa exponent =>
    let parts := Decimal.quotient 2 mantissa exponent
    let size : ℚ := parts.1 / parts.2
    if negative then -size else size
  | _ => 0

/-- Three complex numbers in blocks of two, and a whole number of half the bits. -/
def twoNorms : List PoolRequest :=
  [.newVector "z" ⟨.integer 2, .integer 1, .complex128, none, .plain⟩,
    .act "z" (.extend (.values (.listed [.complex 3.0 4.0, .real (-1.5), .integer 2]))),
    .newVector "k" ⟨.integer 2, .integer 1, .int64, none, .plain⟩,
    .act "k" (.append (.integer 4294967296))]

theorem norm_of_reached_twoNorms : ∃ holding, (after twoNorms).holding? "z" = some holding ∧
    ((after twoNorms).typedOf holding).normSquare (.exact rationalOf) = 125 / 4 := by
  obtain ⟨holding, held, type, squares⟩ : ∃ holding,
      (after twoNorms).holding? "z" = some holding ∧ holding.type = .complex128 ∧
        (holding.listing.items.map (Element.absSquare rationalOf)).sum = 125 / 4 :=
    ⟨_, rfl, rfl, by decide +kernel⟩
  obtain ⟨_, exact, _⟩ := norm_of_reached rationalOf twoNorms "z" holding held
  exact ⟨holding, held, (exact (.inr type)).trans squares⟩

theorem square_wrapped : ∃ holding, (after twoNorms).holding? "k" = some holding ∧
    holding.type = .int64 ∧
    ((after twoNorms).typedOf holding).normSquare (.exact rationalOf) = 0 ∧
    (holding.listing.items.map (Element.absSquare rationalOf)).sum = 18446744073709551616 := by
  refine ⟨_, rfl, rfl, ?_, ?_⟩
  · decide +kernel
  · decide +kernel

end Pool
end ConvexQP
