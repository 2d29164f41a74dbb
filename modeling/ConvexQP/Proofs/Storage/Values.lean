import ConvexQP.Proofs.Attempts
import ConvexQP.Storage.TypedVector

/-!
Values of the type of a vector. They are stored as they are: what reads out of a vector goes back
unchanged, alone, in a list, or from another vector.
-/
namespace ConvexQP

/-- An element that is already of the type. -/
def Element.Own (type : ElementType) (element : Element) : Prop :=
  Element.cast type element = element

theorem Element.wholeInRange_toInt (value : Int64) : wholeInRange value.toInt = true := by
  simp only [wholeInRange, wholeRange, Bool.and_eq_true]
  exact ⟨decide_eq_true (Int64.le_toInt value), decide_eq_true (Int64.toInt_lt value)⟩

theorem Element.ofDatum_toDatum (type : ElementType) (element : Element)
    (own : element.Own type) : ofDatum type element.toDatum = .ok element := by
  unfold Own at own
  cases type with
  | float64 | float32 =>
      cases element with
      | real value => exact congrArg Except.ok own
      | whole | complex => cases own
  | int64 =>
      cases element with
      | whole value =>
          simp only [toDatum, ofDatum, Datum.toInteger, bind, Except.bind, wholeInRange_toInt,
            if_true, Int64.ofInt_toInt]
      | real | complex => cases own
  | complex128 =>
      cases element with
      | complex re im => rfl
      | real | whole => cases own

/-! ### Flat lists -/

/-- A value that is no list. -/
def Datum.Leaf (datum : Datum) : Prop := datum.shape? = some [] ∧ datum.leaves = [datum]

theorem Element.toDatum_leaf (element : Element) : element.toDatum.Leaf := by
  cases element <;> exact ⟨by simp [toDatum, Datum.shape?], by simp [toDatum, Datum.leaves]⟩

theorem Datum.inner_flat (items : List Datum) (flat : ∀ item ∈ items, item.Leaf) :
    innerShape? items = some [] ∧ innerLeaves items = items := by
  induction items with
  | nil => exact ⟨by simp [innerShape?], by simp [innerLeaves]⟩
  | cons item rest ih =>
      obtain ⟨shape, leaves⟩ := flat item (by simp)
      obtain ⟨restShape, restLeaves⟩ := ih fun other member => flat other (by simp [member])
      refine ⟨?_, by simp [innerLeaves, leaves, restLeaves]⟩
      cases rest with
      | nil => simp [innerShape?, shape]
      | cons => simp [innerShape?, shape, restShape]

theorem Datum.evenLeaves_flat (items : List Datum) (flat : ∀ item ∈ items, item.Leaf) :
    (list items).evenLeaves = .ok items := by
  obtain ⟨shape, leaves⟩ := inner_flat items flat
  simp [evenLeaves, shape?, Datum.leaves, shape, leaves]

/-! ### Sources -/

namespace Source

/-- Appending and overwriting both take exactly these elements from the source. -/
def Offers (type : ElementType) (source : Source) (elements : List Element) : Prop :=
  source.toAppend type = .ok elements ∧ source.toOverwrite type = .ok elements

variable (type : ElementType) (elements : List Element)
variable (own : ∀ element ∈ elements, element.Own type)

include own in
theorem cast_own : elements.map (Element.cast type) = elements := by
  rw [List.map_congr_left own, List.map_id']

include own in
theorem elements_offers : (Source.elements elements).Offers type elements :=
  ⟨congrArg Except.ok (cast_own type elements own),
    congrArg Except.ok (cast_own type elements own)⟩

/-- A list of values is converted value by value. -/
theorem fit_values : fit type (elements.map Element.toDatum) =
    elements.mapM fun element => Element.ofDatum type element.toDatum := by
  have flat : ∀ item ∈ elements.map Element.toDatum, item.Leaf := by
    intro item member
    obtain ⟨element, _, rfl⟩ := List.mem_map.mp member
    exact element.toDatum_leaf
  simp only [fit, Datum.evenLeaves_flat _ flat, bind, Except.bind, List.mapM_map]
  rfl

include own in
theorem fit_own : fit type (elements.map Element.toDatum) = .ok elements := by
  have each := (mapM_ok_map_iff _ elements id).mpr fun element member =>
    element.ofDatum_toDatum type (own element member)
  rw [fit_values, each, List.map_id]

include own in
theorem listed_offers : (Source.listed (elements.map Element.toDatum)).Offers type elements :=
  ⟨fit_own type elements own, fit_own type elements own⟩

end Source
end ConvexQP
