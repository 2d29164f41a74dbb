import ConvexQP.Error
import Mathlib.Data.List.Forall2

/-!
Attempts in a row. A row of attempts succeeds exactly if each of them does, and is refused as the
first one that is.
-/
namespace ConvexQP

theorem bind_ok {Value Result : Type} {first : Except Error Value}
    {next : Value → Except Error Result} {result : Result}
    (done : (first >>= next) = .ok result) :
    ∃ value, first = .ok value ∧ next value = .ok result := by
  cases first with
  | error => cases done
  | ok value => exact ⟨value, rfl, done⟩

section Rows
variable {Item Value : Type} (attempt : Item → Except Error Value)

theorem mapM_ok_iff (items : List Item) (values : List Value) :
    items.mapM attempt = .ok values ↔
      List.Forall₂ (fun item value => attempt item = .ok value) items values := by
  induction items generalizing values with
  | nil =>
      rw [List.forall₂_nil_left_iff]
      exact ⟨fun done => (Except.ok.inj done).symm, congrArg Except.ok ∘ Eq.symm⟩
  | cons item rest ih =>
      rw [List.mapM_cons, List.forall₂_cons_left_iff]
      constructor
      · intro done
        obtain ⟨value, first, others⟩ := bind_ok done
        obtain ⟨later, there, same⟩ := bind_ok others
        exact ⟨value, later, first, (ih later).mp there, (Except.ok.inj same).symm⟩
      · rintro ⟨value, later, first, there, rfl⟩
        rw [first, (ih later).mpr there]
        rfl

/-- What each attempt makes of its item makes the whole row. -/
theorem mapM_ok_map_iff (items : List Item) (made : Item → Value) :
    items.mapM attempt = .ok (items.map made) ↔ ∀ item ∈ items, attempt item = .ok (made item) := by
  rw [mapM_ok_iff, List.forall₂_map_right_iff, List.forall₂_same]

theorem length_of_mapM_ok (items : List Item) (values : List Value)
    (done : items.mapM attempt = .ok values) : values.length = items.length :=
  ((mapM_ok_iff attempt items values).mp done).length_eq.symm

/-- Every value of a row was made of an item. -/
theorem mem_of_mapM_ok (items : List Item) (values : List Value)
    (done : items.mapM attempt = .ok values) (value : Value) (member : value ∈ values) :
    ∃ item ∈ items, attempt item = .ok value := by
  have paired := (mapM_ok_iff attempt items values).mp done
  clear done
  induction paired with
  | nil => cases member
  | cons first _ ih =>
      rcases List.mem_cons.mp member with rfl | later
      · exact ⟨_, List.mem_cons_self, first⟩
      · obtain ⟨item, found, made⟩ := ih later
        exact ⟨item, List.mem_cons_of_mem _ found, made⟩

theorem each_of_mapM_ok (items : List Item) (values : List Value)
    (done : items.mapM attempt = .ok values) (item : Item) (member : item ∈ items) :
    ∃ value ∈ values, attempt item = .ok value := by
  have paired := (mapM_ok_iff attempt items values).mp done
  clear done
  induction paired with
  | nil => cases member
  | cons first _ ih =>
      rcases List.mem_cons.mp member with rfl | later
      · exact ⟨_, List.mem_cons_self, first⟩
      · obtain ⟨value, found, made⟩ := ih later
        exact ⟨value, List.mem_cons_of_mem _ found, made⟩

theorem mapM_total (items : List Item)
    (each : ∀ item ∈ items, ∃ value, attempt item = .ok value) :
    ∃ values, items.mapM attempt = .ok values := by
  induction items with
  | nil => exact ⟨[], rfl⟩
  | cons item rest ih =>
      obtain ⟨value, first⟩ := each item List.mem_cons_self
      obtain ⟨later, there⟩ := ih fun other member => each other (List.mem_cons_of_mem item member)
      exact ⟨value :: later, by rw [List.mapM_cons, first, there]; rfl⟩

/-- The cause of a refused row is that of one of its attempts. -/
theorem mem_of_mapM_error (items : List Item) (cause : Error)
    (refused : items.mapM attempt = .error cause) :
    ∃ item ∈ items, attempt item = .error cause := by
  induction items with
  | nil => cases refused
  | cons item rest ih =>
      rw [List.mapM_cons] at refused
      cases here : attempt item with
      | error other =>
          rw [here] at refused
          cases refused
          exact ⟨item, List.mem_cons_self, here⟩
      | ok value =>
          cases there : rest.mapM attempt with
          | error other =>
              rw [here, there] at refused
              obtain rfl := Except.error.inj refused
              obtain ⟨found, member, stopped⟩ := ih there
              exact ⟨found, List.mem_cons_of_mem item member, stopped⟩
          | ok later =>
              rw [here, there] at refused
              cases refused

end Rows
end ConvexQP
