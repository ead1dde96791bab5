import Polystore.Proofs.Json.Order
import Polystore.Store.Basic

/-!
# Sorting integral documents

Sort fields may contradict themselves on some documents, and sorting these may panic.
The order of integral documents under any sort fields comes from the order of their
values, field after field, and does not contradict itself.  Sorting them is therefore
insertion, and the result depends on the documents alone once the sort fields end with
the id.
-/

namespace Polystore

/-! ## Sorting through a map -/

namespace Sorting

variable {α β : Type}

theorem place_map (before : β → β → Bool) (view : α → β) (item : α) (placed : List α) :
    place before (view item) (placed.map view) =
      (place (fun left right => before (view left) (view right)) item placed).map view := by
  induction placed with
  | nil => rfl
  | cons last earlier ih =>
      rw [List.map_cons, place, place]
      split
      · rw [List.map_cons, ih]
      · rfl

theorem insertionSort_map (before : β → β → Bool) (view : α → β) (items : List α) :
    insertionSort before (items.map view) =
      (insertionSort (fun left right => before (view left) (view right)) items).map view := by
  have folded (placed : List α) :
      (items.map view).foldl (fun placed item => place before item placed) (placed.map view) =
        (items.foldl (fun placed item =>
          place (fun left right => before (view left) (view right)) item placed) placed).map view := by
    induction items generalizing placed with
    | nil => rfl
    | cons item rest ih =>
        rw [List.map_cons, List.foldl_cons, List.foldl_cons, place_map]
        exact ih _
  rw [insertionSort, insertAll, insertionSort, insertAll, List.map_reverse]
  exact congrArg List.reverse (folded [])

theorem isGraded_map (before : β → β → Bool) (view : α → β) (items : List α) :
    isGraded before (items.map view) =
      isGraded (fun left right => before (view left) (view right)) items := by
  match items with
  | [] => rfl
  | [_] => rfl
  | first :: second :: rest =>
      have later := isGraded_map before view (second :: rest)
      rw [List.map_cons] at later
      simp only [List.map_cons, isGraded, List.all_cons, List.all_map, later]
      rfl

/-- Items are sorted by insertion if the order is consistent on what they stand for. -/
theorem stableSort_map (before : β → β → Bool) (view : α → β)
    (consistent : Consistent fun left right => before (view left) (view right)) (items : List α) :
    stableSort before (items.map view) =
      (insertionSort (fun left right => before (view left) (view right)) items).map view := by
  have graded : isGraded before (insertionSort before (items.map view)) = true := by
    rw [insertionSort_map, isGraded_map]
    exact isGraded_of_pairwise consistent _ (pairwise_insertionSort consistent items)
  rw [stableSort]
  simp only [graded, Bool.or_true, if_true]
  exact insertionSort_map before view items

/-- A transitive comparison gives an order that does not contradict itself. -/
theorem consistent_of_transCmp (order : α → α → Ordering) [Std.TransCmp order] :
    Consistent fun left right => (order left right).isLT where
  asymm left right before := by
    have swapped : order right left = (order left right).swap := Std.OrientedCmp.eq_swap
    rw [Ordering.isLT_iff_eq_lt] at before
    rw [swapped, before]
    rfl
  between left middle right before := by
    rw [Ordering.isLT_iff_eq_lt] at before
    by_cases first : order left middle = .lt
    · exact Or.inl (Ordering.isLT_iff_eq_lt.mpr first)
    · refine Or.inr (Ordering.isLT_iff_eq_lt.mpr ?_)
      have reached : (order middle left).isLE = true := by
        have swapped : order middle left = (order left middle).swap := Std.OrientedCmp.eq_swap
        rw [swapped]
        revert first
        cases order left middle <;> simp
      exact Std.TransCmp.lt_of_isLE_of_lt reached before

end Sorting

/-! ## Fields of integral documents -/

namespace Json

theorem isIntegral_of_get? {fields : Keyed Json} (integral : fieldsAreIntegral fields = true)
    {name : String} {value : Json} (found : fields.get? name = some value) :
    value.isIntegral = true := by
  induction fields with
  | nil => contradiction
  | cons field rest ih =>
      rw [fieldsAreIntegral, Bool.and_eq_true] at integral
      rw [Keyed.get?_cons] at found
      split at found
      · rw [← Option.some.inj found]
        exact integral.1
      · exact ih integral.2 found

theorem isIntegral_of_getElem? {items : List Json} (integral : areIntegral items = true)
    {position : Nat} {value : Json} (found : items[position]? = some value) :
    value.isIntegral = true := by
  induction items generalizing position with
  | nil => contradiction
  | cons item rest ih =>
      rw [areIntegral, Bool.and_eq_true] at integral
      cases position with
      | zero =>
          rw [List.getElem?_cons_zero] at found
          rw [← Option.some.inj found]
          exact integral.1
      | succ position =>
          rw [List.getElem?_cons_succ] at found
          exact ih integral.2 found

theorem isIntegral_of_follow? {value found : Json} (integral : value.isIntegral = true)
    {path : List (List Char)} (followed : value.follow? path = some found) :
    found.isIntegral = true := by
  induction path generalizing value with
  | nil =>
      rw [follow?] at followed
      rw [← Option.some.inj followed]
      exact integral
  | cons part rest ih =>
      rw [follow?, Option.bind_eq_some_iff] at followed
      obtain ⟨next, stepped, followed⟩ := followed
      refine ih ?_ followed
      cases value with
      | object fields => exact isIntegral_of_get? integral stepped
      | array items =>
          obtain ⟨position, -, stepped⟩ := Option.bind_eq_some_iff.mp stepped
          exact isIntegral_of_getElem? integral stepped
      | _ => contradiction

/-- What an integral document has at a path, where a missing field counts as null. -/
def Integral.at (document : Integral) (path : String) : Integral where
  val := (document.1.lookup? path).getD .null
  property := by
    cases found : document.1.lookup? path with
    | none => rfl
    | some value => exact isIntegral_of_follow? document.2 found

end Json

/-! ## The order of integral documents -/

theorem transCmp_orderValues :
    Std.TransCmp fun left right : Json.Integral => Json.orderValues left.1 right.1 :=
  inferInstance

theorem transCmp_at (path : String) : Std.TransCmp fun left right : Json.Integral =>
    Json.orderValues (left.at path).1 (right.at path).1 where
  eq_swap := transCmp_orderValues.eq_swap
  isLE_trans before later := transCmp_orderValues.isLE_trans before later

theorem transCmp_compareDocuments (sort : SortField) :
    Std.TransCmp fun left right : Json.Integral => sort.compareDocuments left.1 right.1 := by
  have along := transCmp_at sort.field
  by_cases ascending : sort.ascending = true
  · have same : (fun left right : Json.Integral => sort.compareDocuments left.1 right.1) =
        fun left right => Json.orderValues (left.at sort.field).1 (right.at sort.field).1 := by
      funext left right
      rw [SortField.compareDocuments, SortField.directed, if_pos ascending]
      rfl
    rw [same]
    exact along
  · have same : (fun left right : Json.Integral => sort.compareDocuments left.1 right.1) =
        fun left right => Json.orderValues (right.at sort.field).1 (left.at sort.field).1 := by
      funext left right
      rw [SortField.compareDocuments, SortField.directed, if_neg ascending]
      exact (along.eq_swap (a := right) (b := left)).symm
    rw [same]
    exact @Std.TransCmp.opposite _ _ along

theorem Json.orderValues_eq_eq_iff (left right : Json.Integral) :
    Json.orderValues left.1 right.1 = .eq ↔ left = right := by
  have linear : Std.LawfulEqCmp fun left right : Json.Integral =>
      Json.orderValues left.1 right.1 := inferInstance
  exact linear.compare_eq_iff_eq

/-- A sort field leaves two integral documents level where they have the same value at it. -/
theorem compareDocuments_eq_eq_iff (sort : SortField) (left right : Json.Integral) :
    sort.compareDocuments left.1 right.1 = .eq ↔ left.at sort.field = right.at sort.field := by
  rw [← Json.orderValues_eq_eq_iff, SortField.compareDocuments, SortField.directed]
  split
  · rfl
  · exact Ordering.swap_eq_eq

/-- Sort fields put integral documents in an order that does not contradict itself. -/
instance transCmp_compareBy (sorts : List SortField) :
    Std.TransCmp fun left right : Json.Integral => compareBy sorts left.1 right.1 := by
  induction sorts with
  | nil => exact { eq_swap := rfl, isLE_trans := fun _ _ => rfl }
  | cons sort rest ih =>
      have first := transCmp_compareDocuments sort
      exact inferInstanceAs (Std.TransCmp (compareLex
        (fun left right : Json.Integral => sort.compareDocuments left.1 right.1)
        fun left right : Json.Integral => compareBy rest left.1 right.1))

section Integral

variable {sorts : List SortField}

theorem compareBy_swap {left right : Json} (leftIntegral : left.isIntegral = true)
    (rightIntegral : right.isIntegral = true) :
    compareBy sorts left right = (compareBy sorts right left).swap :=
  (transCmp_compareBy sorts).eq_swap (a := ⟨left, leftIntegral⟩) (b := ⟨right, rightIntegral⟩)

/-- Two integral documents are level where no sort field tells them apart. -/
theorem compareBy_eq_eq_iff (sorts : List SortField) (left right : Json.Integral) :
    compareBy sorts left.1 right.1 = .eq ↔
      ∀ sort ∈ sorts, left.at sort.field = right.at sort.field := by
  induction sorts with
  | nil => exact iff_of_true rfl (List.forall_mem_nil _)
  | cons sort rest ih =>
      rw [compareBy, Ordering.then_eq_eq, ih, List.forall_mem_cons, compareDocuments_eq_eq_iff]

/-- The order of fields is linear on integral values, where a missing field is the same as null.
So under any sort fields the order of integral documents is a total preorder, and documents are
level where all the sort fields have the same values. -/
theorem linear_totalOrder_preorder_compareBy :
    (∀ first second third : Option Json, (first.getD .null).isIntegral = true →
      (second.getD .null).isIntegral = true → (third.getD .null).isIntegral = true →
      Json.totalOrder first second = (Json.totalOrder second first).swap ∧
      (Json.totalOrder first second = .eq ↔ first.getD .null = second.getD .null) ∧
      ((Json.totalOrder first second).isLE → (Json.totalOrder second third).isLE →
        (Json.totalOrder first third).isLE)) ∧
    ∀ (sorts : List SortField) (left middle right : Json), left.isIntegral = true →
      middle.isIntegral = true → right.isIntegral = true →
      compareBy sorts left right = (compareBy sorts right left).swap ∧
      (compareBy sorts left right = .eq ↔ ∀ sort ∈ sorts,
        (left.lookup? sort.field).getD .null = (right.lookup? sort.field).getD .null) ∧
      ((compareBy sorts left middle).isLE → (compareBy sorts middle right).isLE →
        (compareBy sorts left right).isLE) := by
  constructor
  · intro first second third firstIntegral secondIntegral thirdIntegral
    have order := transCmp_orderValues
    have swapped := order.eq_swap (a := ⟨_, firstIntegral⟩) (b := ⟨_, secondIntegral⟩)
    have level := Json.orderValues_eq_eq_iff ⟨_, firstIntegral⟩ ⟨_, secondIntegral⟩
    have reached := order.isLE_trans (a := ⟨_, firstIntegral⟩) (b := ⟨_, secondIntegral⟩)
      (c := ⟨_, thirdIntegral⟩)
    rw [Subtype.mk.injEq] at level
    exact ⟨swapped, level, reached⟩
  · intro sorts left middle right leftIntegral middleIntegral rightIntegral
    have level := compareBy_eq_eq_iff sorts ⟨left, leftIntegral⟩ ⟨right, rightIntegral⟩
    have reached := (transCmp_compareBy sorts).isLE_trans (a := ⟨left, leftIntegral⟩)
      (b := ⟨middle, middleIntegral⟩) (c := ⟨right, rightIntegral⟩)
    simp only [Json.Integral.at, Subtype.mk.injEq] at level
    exact ⟨compareBy_swap leftIntegral rightIntegral, level, reached⟩

/-- The first array is before the second by its text and the second before the third by its items,
so the first is before the third.  Documents that hold them descend to one without the field. -/
theorem preorder_arrays_of_several_kinds :
    (Json.totalOrder (some (.array [.string "x"]))
        (some (.array [.number (.integer 10), .null]))).isLE ∧
      (compareBy [⟨"v", false⟩] (.object [("v", .array [.number (.integer 10), .null])])
        (.object [])).isLE := by
  constructor
  · exact (linear_totalOrder_preorder_compareBy.1 (some (.array [.string "x"]))
      (some (.array [.number (.integer 9), .object []]))
      (some (.array [.number (.integer 10), .null])) (by decide) (by decide) (by decide)).2.2
      (by decide +kernel) (by decide +kernel)
  · exact (linear_totalOrder_preorder_compareBy.2 [⟨"v", false⟩]
      (.object [("v", .array [.number (.integer 10), .null])])
      (.object [("v", .array [.string "x"])]) (.object [])
      (by decide) (by decide) (by decide)).2.2 (by decide +kernel) (by decide +kernel)

end Integral

/-! ## Documents that can be sorted -/

/-- Sort fields do not contradict themselves on some documents, so that sorting them returns. -/
def Sortable (sorts : List SortField) (documents : List Json) : Prop :=
  Sorting.Consistent fun left right : {document // document ∈ documents} =>
    precedes sorts left.1 right.1

/-- Integral documents can be sorted by all fields. -/
theorem sortable_of_integral (sorts : List SortField) {documents : List Json}
    (integral : ∀ document ∈ documents, document.isIntegral = true) :
    Sortable sorts documents := by
  have consistent := Sorting.consistent_of_transCmp
    fun left right : Json.Integral => compareBy sorts left.1 right.1
  constructor
  · intro left right
    exact consistent.asymm ⟨left.1, integral _ left.2⟩ ⟨right.1, integral _ right.2⟩
  · intro left middle right
    exact consistent.between ⟨left.1, integral _ left.2⟩ ⟨middle.1, integral _ middle.2⟩
      ⟨right.1, integral _ right.2⟩

/-- No document is sorted behind one that it belongs before. -/
theorem Sortable.pairwise {sorts : List SortField} {documents : List Json}
    (sortable : Sortable sorts documents) :
    (sortDocuments sorts documents).Pairwise fun earlier later =>
      compareBy sorts later earlier ≠ .lt := by
  have inserted := Sorting.stableSort_map (precedes sorts) Subtype.val sortable documents.attach
  rw [List.attach_map_subtype_val] at inserted
  rw [sortDocuments, inserted, List.pairwise_map]
  apply (Sorting.pairwise_insertionSort sortable _).imp
  intro earlier later notBefore before
  rw [precedes, before] at notBefore
  contradiction

/-! ## The order of a query -/

/-- The path of the reserved field names the id. -/
theorem lookup?_reservedField {document : Json} {id : String}
    (named : Document.idOf? document = some id) :
    document.lookup? Document.reservedField = some (.string id) := by
  cases document with
  | object fields =>
      obtain ⟨value, found, told⟩ := Option.bind_eq_some_iff.mp named
      cases value with
      | string text =>
          cases told
          have path : Text.pieces '.' Document.reservedField.toList =
              [Document.reservedField.toList] := by decide
          have stepped : Json.step? (.object fields) Document.reservedField.toList =
              some (.string id) := by
            rw [Json.step?, String.ofList_toList]
            exact found
          rw [Json.lookup?, path, Json.follow?, stepped]
          rfl
      | _ => contradiction
  | _ => contradiction

theorem compareBy_append (sorts more : List SortField) (left right : Json) :
    compareBy (sorts ++ more) left right =
      (compareBy sorts left right).then (compareBy more left right) := by
  induction sorts with
  | nil => rfl
  | cons sort rest ih => rw [List.cons_append, compareBy, compareBy, ih, Ordering.then_assoc]

/-- Where the sort fields leave two documents level, their ids decide. -/
theorem compareBy_order (query : Query) {left right : Json} {leftId rightId : String}
    (leftNamed : Document.idOf? left = some leftId)
    (rightNamed : Document.idOf? right = some rightId) :
    compareBy query.order left right =
      (compareBy query.sorts left right).then (compare leftId rightId) := by
  have last : compareBy [⟨Document.reservedField, true⟩] left right = compare leftId rightId := by
    simp only [compareBy, SortField.compareDocuments, SortField.directed,
      lookup?_reservedField leftNamed, lookup?_reservedField rightNamed, if_true]
    rw [Ordering.then_eq]
    rfl
  rw [Query.order, compareBy_append, last]

/-- Integral documents under different ids. -/
structure Document.Listing (documents : List Json) : Prop where
  integral : ∀ document ∈ documents, document.isIntegral = true
  named : ∀ document ∈ documents, ∃ id, Document.idOf? document = some id
  apart : documents.Pairwise fun left right => Document.idOf? left ≠ Document.idOf? right

namespace Document.Listing

variable {documents : List Json}

theorem perm {others : List Json} (listing : Listing documents) (same : others.Perm documents) :
    Listing others where
  integral document member := listing.integral document (same.mem_iff.mp member)
  named document member := listing.named document (same.mem_iff.mp member)
  apart := (same.pairwise_iff Ne.symm).mpr listing.apart

/-- A listing is sorted strictly by the order of a query. -/
theorem pairwise_sortDocuments (listing : Listing documents) (query : Query) :
    (sortDocuments query.order documents).Pairwise fun earlier later =>
      compareBy query.order earlier later = .lt := by
  have sorted := listing.perm (sortDocuments_perm query.order documents)
  refine List.Pairwise.imp_of_mem ?_
    ((sortable_of_integral query.order listing.integral).pairwise.and sorted.apart)
  intro earlier later earlierMember laterMember facts
  obtain ⟨notBefore, differ⟩ := facts
  obtain ⟨earlierId, earlierNamed⟩ := sorted.named earlier earlierMember
  obtain ⟨laterId, laterNamed⟩ := sorted.named later laterMember
  rw [compareBy_swap (sorted.integral earlier earlierMember) (sorted.integral later laterMember)]
  cases order : compareBy query.order later earlier with
  | lt => exact absurd order notBefore
  | gt => rfl
  | eq =>
      rw [compareBy_order query laterNamed earlierNamed, Ordering.then_eq_eq] at order
      rw [earlierNamed, laterNamed, Std.LawfulEqOrd.eq_of_compare order.2] at differ
      exact absurd rfl differ

/-- Sorting by the order of a query depends on the documents alone. -/
theorem sortDocuments_eq_of_perm {others : List Json} (listing : Listing documents)
    (same : documents.Perm others) (query : Query) :
    sortDocuments query.order documents = sortDocuments query.order others := by
  have permuted : (sortDocuments query.order documents).Perm (sortDocuments query.order others) :=
    (sortDocuments_perm _ documents).trans (same.trans (sortDocuments_perm _ others).symm)
  refine permuted.eq_of_pairwise ?_ (listing.pairwise_sortDocuments query)
    ((listing.perm same.symm).pairwise_sortDocuments query)
  intro left right leftMember rightMember before after
  have leftIntegral := listing.integral left ((sortDocuments_perm _ _).mem_iff.mp leftMember)
  have rightIntegral :=
    (listing.perm same.symm).integral right ((sortDocuments_perm _ _).mem_iff.mp rightMember)
  rw [compareBy_swap leftIntegral rightIntegral, after] at before
  contradiction

end Document.Listing

end Polystore
