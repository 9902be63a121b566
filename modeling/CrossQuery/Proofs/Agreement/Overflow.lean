import Mathlib
import CrossQuery.Proofs.Agreement.Totals

/-!
# Sums at the ends of 64 bits

Both stores add integers up one by one in 64 bits. A sum on the way that does not fit makes the
database refuse and the document store go on in floats, also where later values would bring the
total back. So what decides is the sums on the way, and with them the order of the values.
-/

set_option autoImplicit false

namespace CrossQuery

open Collection

theorem fitsInt64_iff {value : Int} :
    Cell.fitsInt64 value = true ↔ -9223372036854775808 ≤ value ∧ value < 9223372036854775808 := by
  simp [Cell.fitsInt64]

section Orders

variable {values : List Int}

/-- Any part of a list adds up to at least its negative values and at most its positive ones. -/
theorem sum_between {some all : List Int} (sublist : List.Sublist some all) :
    (all.filter (· < 0)).sum ≤ some.sum ∧ some.sum ≤ (all.filter (0 < ·)).sum := by
  induction sublist with
  | slnil => simp
  | cons value _ ih =>
      by_cases negative : value < 0 <;> by_cases positive : 0 < value <;>
        simp only [List.filter_cons, negative, positive, decide_true, decide_false, if_true,
          Bool.false_eq_true, if_false, List.sum_cons] <;> omega
  | cons_cons value _ ih =>
      by_cases negative : value < 0 <;> by_cases positive : 0 < value <;>
        simp only [List.filter_cons, negative, positive, decide_true, decide_false, if_true,
          Bool.false_eq_true, if_false, List.sum_cons] <;> omega

/-- Values add up within 64 bits in any order when the positive ones do and the negative ones
do. The order that takes all of one sign first is the worst. -/
theorem forall_perm_partialSumsFit_iff :
    (∀ order : List Int, order.Perm values → PartialSumsFit 0 order) ↔
      Cell.fitsInt64 (values.filter (0 < ·)).sum = true ∧
        Cell.fitsInt64 (values.filter (· < 0)).sum = true := by
  constructor
  · intro allFit
    have first (sign : Int → Bool) : Cell.fitsInt64 (values.filter sign).sum = true := by
      have fit := allFit _ (List.filter_append_perm sign values) (values.filter sign).length
      rwa [List.take_left, Int.zero_add] at fit
    exact ⟨first _, first _⟩
  · rintro ⟨positive, negative⟩ order same count
    have bounds := sum_between (List.take_sublist count order)
    rw [(same.filter _).sum_eq, (same.filter _).sum_eq] at bounds
    rw [fitsInt64_iff] at positive negative ⊢
    omega

end Orders

section Stores

variable {cells : List Cell}

theorem sumIntegers_of_not_fit {values : List Int} {total : Int}
    (fits : Cell.fitsInt64 total = true) (leaves : ¬ PartialSumsFit total values) :
    Relational.sumIntegers total values = .error .outOfRange := by
  induction values generalizing total with
  | nil => exact absurd (partialSumsFit_nil.mpr fits) leaves
  | cons value rest ih =>
      rw [partialSumsFit_cons fits] at leaves
      by_cases next : Cell.fitsInt64 (total + value) = true
      · simp [Relational.sumIntegers, next, ih next leaves]
      · simp [Relational.sumIntegers, next]

/-- A sum that has become a float remains one. -/
theorem foldl_add_real (total : Float) (cells : List Cell) :
    ∃ result, cells.foldl Total.add (.real total) = .real result := by
  induction cells generalizing total with
  | nil => exact ⟨total, rfl⟩
  | cons cell rest ih =>
      cases isNumber : cell.number? with
      | none => simpa [Total.add, isNumber] using ih total
      | some value => simpa [Total.add, isNumber] using ih (total + value)

theorem foldl_add_of_not_fit (integers : AllIntegers cells) {total : Int}
    (fits : Cell.fitsInt64 total = true) (leaves : ¬ PartialSumsFit total (integersOf cells)) :
    ∃ result, cells.foldl Total.add (.whole total) = .real result := by
  induction cells generalizing total with
  | nil => exact absurd (partialSumsFit_nil.mpr fits) leaves
  | cons cell rest ih =>
      obtain ⟨⟨value, isInteger⟩, restIntegers⟩ := integers.head_and_rest
      rw [integersOf_cons isInteger, partialSumsFit_cons fits] at leaves
      by_cases next : Cell.fitsInt64 (total + value) = true
      · have step : Total.add (.whole total) cell = .whole (total + value) := by
          simp [Total.add, isInteger, next]
        simpa [step] using ih restIntegers next leaves
      · have step : Total.add (.whole total) cell =
            .real (Float.ofInt total + Float.ofInt value) := by
          simp [Total.add, isInteger, next]
        simpa [step] using foldl_add_real _ rest

theorem presentCells_of_integers (integers : AllIntegers cells) : presentCells cells = cells := by
  apply List.filter_eq_self.mpr
  intro cell member
  obtain ⟨value, isInteger⟩ := integers cell member
  simp [Cell.isNull_of_integer? isInteger]

theorem fitsInt64_of_integer? {cell : Cell} {value : Int} (isInteger : cell.integer? = some value) :
    Cell.fitsInt64 value = true := by
  rw [fitsInt64_iff]
  cases cell with
  | int16 number =>
      have bounds := And.intro number.le_toInt number.toInt_lt
      cases isInteger
      omega
  | int32 number =>
      have bounds := And.intro number.le_toInt number.toInt_lt
      cases isInteger
      omega
  | int64 number =>
      have bounds := And.intro number.le_toInt number.toInt_lt
      cases isInteger
      omega
  | _ => cases isInteger

/-- A database adds integers up to an integer of 64 bits, or refuses. -/
theorem sum_of_integers (integers : AllIntegers cells) (nonempty : cells ≠ []) :
    Relational.sum cells = (do return .int64 (Int64.ofInt
      (← Relational.sumIntegers 0 (integersOf cells)))) := by
  have someCells : cells.isEmpty = false := by simpa using nonempty
  simp [Relational.sum, someCells, integers?_eq integers]

/-- A document store adds the same integers up, to an integer or to a float. -/
theorem exists_apply_toJson (integers : AllIntegers cells) (nonempty : cells ≠ []) :
    ∃ others, AllIntegers others ∧ integersOf others = integersOf cells ∧
      Accumulator.sum.apply (cells.map Cell.toJson) =
        (others.foldl Total.add (.whole 0)).toJson := by
  have held : ∀ cell ∈ cells, (id cell).Alike (some cell.toJson) := by
    intro cell member
    obtain ⟨value, isInteger⟩ := integers cell member
    rw [Cell.toJson_of_integer? isInteger]
    exact (Cell.Stored.integer isInteger (fitsInt64_of_integer? isInteger)).alike
  have present : presentCells (cells.map id) = cells := by
    rw [List.map_id, presentCells_of_integers integers]
  obtain ⟨others, applied, same, allIntegers⟩ :=
    exists_apply_sum held (present.symm ▸ integers)
  rw [present] at same
  have sameLength := congrArg List.length same
  have someOthers : others ≠ [] := by
    rintro rfl
    simp only [List.map_nil, List.length_nil, List.length_map] at sameLength
    exact nonempty (List.eq_nil_of_length_eq_zero sameLength.symm)
  exact ⟨others, allIntegers, integersOf_eq_of_map same,
    applied.trans (sumJson_of_integers allIntegers someOthers)⟩

/-- Both stores add integers up to the exact total. -/
def SumsExactly (cells : List Cell) : Prop :=
  Relational.sum cells = .ok (.int64 (Int64.ofInt (integersOf cells).sum)) ∧
    Accumulator.sum.apply (cells.map Cell.toJson) = .whole (integersOf cells).sum

theorem sumsExactly_of_fit (integers : AllIntegers cells) (nonempty : cells ≠ [])
    (fit : PartialSumsFit 0 (integersOf cells)) : SumsExactly cells := by
  obtain ⟨others, allIntegers, same, applied⟩ := exists_apply_toJson integers nonempty
  constructor
  · simp [sum_of_integers integers nonempty, sumIntegers_eq fit]
  · rw [applied, foldl_add_eq allIntegers (same.symm ▸ fit), same, Int.zero_add]
    rfl

theorem realJson_ne_whole (value : Float) (number : Int) : Cell.realJson value ≠ .whole number := by
  unfold Cell.realJson
  split <;> exact nofun

theorem overflows_of_not_fit (integers : AllIntegers cells) (nonempty : cells ≠ [])
    (leaves : ¬ PartialSumsFit 0 (integersOf cells)) :
    Relational.sum cells = .error .outOfRange ∧
      ∃ value, Accumulator.sum.apply (cells.map Cell.toJson) = Cell.realJson value := by
  obtain ⟨others, allIntegers, same, applied⟩ := exists_apply_toJson integers nonempty
  have fits : Cell.fitsInt64 0 = true := rfl
  constructor
  · rw [sum_of_integers integers nonempty, sumIntegers_of_not_fit fits leaves]
    rfl
  · obtain ⟨value, isReal⟩ := foldl_add_of_not_fit allIntegers fits (same.symm ▸ leaves)
    exact ⟨value, by rw [applied, isReal]; rfl⟩

theorem sumsExactly_iff (integers : AllIntegers cells) (nonempty : cells ≠ []) :
    SumsExactly cells ↔ PartialSumsFit 0 (integersOf cells) := by
  constructor
  · intro exact
    by_contra leaves
    have refused := (overflows_of_not_fit integers nonempty leaves).1
    rw [exact.1] at refused
    cases refused
  · exact sumsExactly_of_fit integers nonempty

/-- Every order of the integers is one of cells. -/
theorem exists_order (integers : AllIntegers cells) {values : List Int}
    (same : values.Perm (integersOf cells)) :
    ∃ order, order.Perm cells ∧ integersOf order = values := by
  have holds : List.Forall₂ (fun value cell => Cell.integer? cell = some value)
      (integersOf cells) cells := by
    clear same
    induction cells with
    | nil => exact .nil
    | cons cell rest ih =>
        obtain ⟨⟨value, isInteger⟩, restIntegers⟩ := integers.head_and_rest
        rw [integersOf_cons isInteger]
        exact .cons isInteger (ih restIntegers)
  obtain ⟨order, ordered, isOrder⟩ := List.perm_comp_forall₂ same holds
  refine ⟨order, isOrder, ?_⟩
  clear isOrder same
  induction ordered with
  | nil => rfl
  | cons isInteger _ ih => rw [integersOf_cons isInteger, ih]

/-- Integers are added up exactly in the order they come in if no sum on the way leaves 64 bits.
Otherwise the database refuses and the document store answers with a float, which it does in no
order if the positive values fit 64 bits together and the negative ones do. A total that does not
fit is refused by the database in every order. -/
theorem sums_by_partial_sums (integers : AllIntegers cells) (nonempty : cells ≠ []) :
    (∀ order : List Cell, order.Perm cells →
      (integersOf order).sum = (integersOf cells).sum ∧
      (PartialSumsFit 0 (integersOf order) → SumsExactly order) ∧
      (¬ PartialSumsFit 0 (integersOf order) →
        Relational.sum order = .error .outOfRange ∧
          ∃ value, Accumulator.sum.apply (order.map Cell.toJson) = Cell.realJson value) ∧
      (Cell.fitsInt64 (integersOf cells).sum = false →
        (Relational.sum order).mapError Relational.Refusal.message =
          .error "Numeric value out of range")) ∧
    ((∀ order : List Cell, order.Perm cells → SumsExactly order) ↔
      Cell.fitsInt64 ((integersOf cells).filter (0 < ·)).sum = true ∧
        Cell.fitsInt64 ((integersOf cells).filter (· < 0)).sum = true) := by
  have orderIntegers {order : List Cell} (same : order.Perm cells) : AllIntegers order :=
    fun cell member => integers cell (same.mem_iff.mp member)
  have someOrder {order : List Cell} (same : order.Perm cells) : order ≠ [] := by
    rintro rfl
    exact nonempty same.nil_eq.symm
  constructor
  · intro order same
    have overflows := overflows_of_not_fit (orderIntegers same) (someOrder same)
    have sameTotal : (integersOf order).sum = (integersOf cells).sum :=
      (same.filterMap Cell.integer?).sum_eq
    refine ⟨sameTotal, sumsExactly_of_fit (orderIntegers same) (someOrder same), overflows, ?_⟩
    intro tooLarge
    have leaves : ¬ PartialSumsFit 0 (integersOf order) := by
      intro fit
      have whole := fit.whole
      rw [Int.zero_add, sameTotal, tooLarge] at whole
      cases whole
    rw [(overflows leaves).1]
    rfl
  · rw [← forall_perm_partialSumsFit_iff]
    constructor
    · intro exact values same
      obtain ⟨order, isOrder, rfl⟩ := exists_order integers same
      exact (sumsExactly_iff (orderIntegers isOrder) (someOrder isOrder)).mp (exact order isOrder)
    · intro fit order isOrder
      rw [sumsExactly_iff (orderIntegers isOrder) (someOrder isOrder)]
      exact fit _ (isOrder.filterMap Cell.integer?)

/-- The greatest integer of 64 bits, and one more and less. -/
def peakCells : List Cell :=
  [.int64 9223372036854775807, .int64 1, .int64 (-1)]

theorem peakCells_integers : AllIntegers peakCells := by
  intro cell member
  fin_cases member <;> exact ⟨_, rfl⟩

/-- One and minus one add up first, so that the order that starts with them is exact. No order is
safe for all of these integers. -/
theorem peakCells_by_partial_sums :
    SumsExactly (peakCells.rotate 1) ∧
      ¬ ∀ order : List Cell, order.Perm peakCells → SumsExactly order := by
  have sums := sums_by_partial_sums peakCells_integers (List.cons_ne_nil _ _)
  constructor
  · apply (sums.1 _ (List.rotate_perm peakCells 1)).2.1
    apply (partialSumsFit_cons rfl).mpr
    apply (partialSumsFit_cons rfl).mpr
    apply (partialSumsFit_cons rfl).mpr
    exact partialSumsFit_nil.mpr rfl
  · rw [sums.2]
    exact nofun

/-- The total of these integers fits 64 bits, and neither store finds it in this order. -/
theorem peakCells_refused :
    (integersOf peakCells).sum = 9223372036854775807 ∧
      Relational.sum peakCells = .error .outOfRange ∧
      Accumulator.sum.apply (peakCells.map Cell.toJson) ≠ .whole 9223372036854775807 := by
  have leaves : ¬ PartialSumsFit 0 (integersOf peakCells) := by
    intro fit
    cases fit 2
  obtain ⟨refused, value, isReal⟩ :=
    overflows_of_not_fit peakCells_integers (List.cons_ne_nil _ _) leaves
  refine ⟨rfl, refused, ?_⟩
  rw [isReal]
  exact realJson_ne_whole value _

end Stores

end CrossQuery
