import CrossQuery.Proofs.Agreement.Source
import CrossQuery.Proofs.Grouping

/-!
# Aggregates of both stores

Counts, counts of distinct values and sums of integers. Both stores compute them from the same
values, one from cells and the other from what its documents hold.
-/

set_option autoImplicit false

namespace CrossQuery

open Collection

def integersOf (cells : List Cell) : List Int :=
  cells.filterMap Cell.integer?

def presentCells (cells : List Cell) : List Cell :=
  cells.filter fun cell => !cell.isNull

/-- An aggregate of cells. Nulls are counted as rows, but neither told apart nor added up. There
is no sum without an integer. -/
def aggregateJson (kind : AggregateKind) (cells : List Cell) : Json :=
  match kind with
  | .count => Json.ofNat cells.length
  | .distinct => Json.ofNat (Grouping.firsts Cell.groupKey (presentCells cells)).length
  | .sum => if (integersOf cells).isEmpty then .null else .whole (integersOf cells).sum
  | .average => .null

/-- The cell of an aggregate in the answer of a database. -/
def aggregateCell (kind : AggregateKind) (cells : List Cell) : Cell :=
  match kind with
  | .count => .int64 (Int64.ofNat cells.length)
  | .distinct => .int64 (Int64.ofNat (Grouping.firsts Cell.groupKey (presentCells cells)).length)
  | .sum =>
    if (integersOf cells).isEmpty then .null else .int64 (Int64.ofInt (integersOf cells).sum)
  | .average => .null

section Integers

variable {cells : List Cell}

/-- Cells that hold integers only. -/
def AllIntegers (cells : List Cell) : Prop :=
  ∀ cell ∈ cells, ∃ value, cell.integer? = some value

/-- The sum of absolute values. -/
def magnitude (cells : List Cell) : Nat :=
  (cells.map Cell.magnitude).sum

theorem fitsInt64_of_natAbs {value : Int} (small : value.natAbs < 2 ^ 63) :
    Cell.fitsInt64 value = true := by
  simp only [Cell.fitsInt64, Bool.and_eq_true, decide_eq_true_eq]
  omega

theorem magnitude_of_integer? {cell : Cell} {value : Int} (isInteger : cell.integer? = some value) :
    cell.magnitude = value.natAbs := by
  rw [Cell.magnitude, isInteger]
  rfl

/-- Some of the cells have no more absolute value than all of them. -/
theorem magnitude_le {some all : List Cell} (sublist : List.Sublist some all) :
    magnitude some ≤ magnitude all := by
  induction sublist with
  | slnil => exact Nat.le_refl _
  | cons cell _ ih =>
      simp only [magnitude, List.map_cons, List.sum_cons] at ih ⊢
      omega
  | cons_cons cell _ ih =>
      simp only [magnitude, List.map_cons, List.sum_cons] at ih ⊢
      omega

theorem integersOf_cons {cell : Cell} {value : Int} (isInteger : cell.integer? = some value)
    (rest : List Cell) : integersOf (cell :: rest) = value :: integersOf rest := by
  rw [integersOf, List.filterMap_cons, isInteger]
  rfl

theorem magnitude_cons {cell : Cell} {value : Int} (isInteger : cell.integer? = some value)
    (rest : List Cell) : magnitude (cell :: rest) = value.natAbs + magnitude rest := by
  rw [← magnitude_of_integer? isInteger]
  rfl

theorem AllIntegers.head_and_rest {cell : Cell} {rest : List Cell}
    (integers : AllIntegers (cell :: rest)) :
    (∃ value, cell.integer? = some value) ∧ AllIntegers rest :=
  List.forall_mem_cons.mp integers

theorem natAbs_sum_le (integers : AllIntegers cells) :
    (integersOf cells).sum.natAbs ≤ magnitude cells := by
  induction cells with
  | nil => exact Nat.le_refl _
  | cons cell rest ih =>
      obtain ⟨⟨value, isInteger⟩, restIntegers⟩ := integers.head_and_rest
      have others := ih restIntegers
      rw [integersOf_cons isInteger, magnitude_cons isInteger, List.sum_cons]
      omega

theorem integers?_eq (integers : AllIntegers cells) :
    Relational.integers? cells = some (integersOf cells) := by
  induction cells with
  | nil => rfl
  | cons cell rest ih =>
      obtain ⟨⟨value, isInteger⟩, restIntegers⟩ := integers.head_and_rest
      have others := ih restIntegers
      unfold Relational.integers? at others ⊢
      rw [List.mapM_cons, isInteger, others, integersOf_cons isInteger]
      rfl

/-- No sum of the first values, however many, leaves 64 bits on top of a total. -/
def PartialSumsFit (total : Int) (values : List Int) : Prop :=
  ∀ count, Cell.fitsInt64 (total + (values.take count).sum) = true

theorem PartialSumsFit.start {total : Int} {values : List Int}
    (fit : PartialSumsFit total values) : Cell.fitsInt64 total = true := by
  simpa using fit 0

theorem PartialSumsFit.whole {total : Int} {values : List Int}
    (fit : PartialSumsFit total values) : Cell.fitsInt64 (total + values.sum) = true := by
  simpa using fit values.length

theorem partialSumsFit_nil {total : Int} :
    PartialSumsFit total [] ↔ Cell.fitsInt64 total = true := by
  simp [PartialSumsFit]

theorem partialSumsFit_cons {total value : Int} {values : List Int}
    (fits : Cell.fitsInt64 total = true) :
    PartialSumsFit total (value :: values) ↔ PartialSumsFit (total + value) values := by
  constructor
  · intro fit count
    simpa [Int.add_assoc] using fit (count + 1)
  · intro fit count
    cases count with
    | zero => simpa using fits
    | succ count => simpa [Int.add_assoc] using fit count

/-- Small values do not leave 64 bits, whatever order they come in. -/
theorem partialSumsFit_of_magnitude (integers : AllIntegers cells) {total : Int}
    (small : total.natAbs + magnitude cells < 2 ^ 63) :
    PartialSumsFit total (integersOf cells) := by
  induction cells generalizing total with
  | nil => exact partialSumsFit_nil.mpr (fitsInt64_of_natAbs (by simpa [magnitude] using small))
  | cons cell rest ih =>
      obtain ⟨⟨value, isInteger⟩, restIntegers⟩ := integers.head_and_rest
      rw [magnitude_cons isInteger] at small
      rw [integersOf_cons isInteger, partialSumsFit_cons (fitsInt64_of_natAbs (by omega))]
      exact ih restIntegers (by omega)

/-- A sum of 64 bits is exact as long as it does not overflow on the way. -/
theorem sumIntegers_eq {values : List Int} {total : Int} (fit : PartialSumsFit total values) :
    Relational.sumIntegers total values = .ok (total + values.sum) := by
  induction values generalizing total with
  | nil => simp [Relational.sumIntegers]
  | cons value rest ih =>
      have restFit := (partialSumsFit_cons fit.start).mp fit
      simp [Relational.sumIntegers, restFit.start, ih restFit, Int.add_assoc]

/-- A sum over documents stays a whole number as long as it fits 64 bits on the way. -/
theorem foldl_add_eq (integers : AllIntegers cells) {total : Int}
    (fit : PartialSumsFit total (integersOf cells)) :
    cells.foldl Total.add (.whole total) = .whole (total + (integersOf cells).sum) := by
  induction cells generalizing total with
  | nil => simp [integersOf]
  | cons cell rest ih =>
      obtain ⟨⟨value, isInteger⟩, restIntegers⟩ := integers.head_and_rest
      rw [integersOf_cons isInteger] at fit ⊢
      have restFit := (partialSumsFit_cons fit.start).mp fit
      have step : Total.add (.whole total) cell = .whole (total + value) := by
        simp [Total.add, isInteger, restFit.start]
      simp [step, ih restIntegers restFit, Int.add_assoc]

theorem integersOf_eq_nil_iff (integers : AllIntegers cells) :
    integersOf cells = [] ↔ cells = [] := by
  cases cells with
  | nil => exact ⟨fun _ => rfl, fun _ => rfl⟩
  | cons cell rest =>
      obtain ⟨⟨value, isInteger⟩, _⟩ := integers.head_and_rest
      rw [integersOf_cons isInteger]
      exact ⟨nofun, nofun⟩

theorem integersOf_presentCells (cells : List Cell) :
    integersOf (presentCells cells) = integersOf cells := by
  rw [integersOf, presentCells, List.filterMap_filter]
  refine congrArg (List.filterMap · cells) (funext fun cell => ?_)
  cases isNull : cell.isNull with
  | false => rfl
  | true =>
      rw [Cell.isNull_eq_true_iff.mp isNull]
      rfl

end Integers

section Database

variable {cells : List Cell}

theorem toJson_int64 {value : Int} (fits : Cell.fitsInt64 value = true) :
    (Cell.int64 (Int64.ofInt value)).toJson = .whole value := by
  have bounds : -(2 ^ 63) ≤ value ∧ value < 2 ^ 63 := by
    simpa [Cell.fitsInt64] using fits
  exact congrArg Json.whole (Int64.toInt_ofInt_of_le bounds.1 bounds.2)

/-- The sum of a database is one of 64 bits already when it is converted to that. -/
theorem summarise_sum (integers : AllIntegers (presentCells cells))
    (small : magnitude (presentCells cells) < 2 ^ 63) :
    Relational.summarise "SUM" (presentCells cells) = .ok (aggregateCell .sum cells) ∧
      Relational.convert (aggregateCell .sum cells) "BIGINT" = .ok (aggregateCell .sum cells) := by
  rw [aggregateCell, ← integersOf_presentCells]
  cases isEmpty : (presentCells cells).isEmpty with
  | true =>
      rw [List.isEmpty_iff.mp isEmpty]
      exact ⟨rfl, rfl⟩
  | false =>
      have someIntegers : ¬ (integersOf (presentCells cells)).isEmpty = true := by
        rw [List.isEmpty_iff, integersOf_eq_nil_iff integers, ← List.isEmpty_iff, isEmpty]
        exact nofun
      have total := sumIntegers_eq (partialSumsFit_of_magnitude integers
        (show (0 : Int).natAbs + _ < 2 ^ 63 by simpa using small))
      rw [Int.zero_add] at total
      rw [if_neg someIntegers]
      constructor
      · rw [Relational.summarise, Relational.sum, isEmpty, integers?_eq integers]
        exact Outcome.bind_eq_ok.mpr ⟨_, total, rfl⟩
      · exact congrArg (fun value => Except.ok (Cell.int64 value)) (Int64.ofInt_toInt _)

/-- An aggregate is null or a whole number of 64 bits. -/
theorem aggregateJson_cases (kind : AggregateKind) (few : cells.length < 2 ^ 63)
    (small : kind = .sum → AllIntegers (presentCells cells) ∧ magnitude (presentCells cells) < 2 ^ 63) :
    aggregateJson kind cells = .null ∨
      ∃ value, aggregateJson kind cells = .whole value ∧ Cell.fitsInt64 value = true := by
  cases kind with
  | count => exact .inr ⟨_, rfl, fitsInt64_of_natAbs (by omega)⟩
  | distinct =>
      have fewer : (Grouping.firsts Cell.groupKey (presentCells cells)).length ≤
          (presentCells cells).length := Grouping.length_firsts_le
      have present : (presentCells cells).length ≤ cells.length := List.length_filter_le _ _
      exact .inr ⟨_, rfl, fitsInt64_of_natAbs (by omega)⟩
  | sum =>
      obtain ⟨integers, small⟩ := small rfl
      have bound := natAbs_sum_le integers
      rw [integersOf_presentCells] at bound
      rw [aggregateJson]
      split
      · exact .inl rfl
      · exact .inr ⟨_, rfl, fitsInt64_of_natAbs (by omega)⟩
  | average => exact .inl rfl

/-- The answer of a database has the JSON of the aggregate. -/
theorem toJson_aggregateCell {kind : AggregateKind} {value : Int}
    (isWhole : aggregateJson kind cells = .whole value) (fits : Cell.fitsInt64 value = true) :
    (aggregateCell kind cells).toJson = .whole value := by
  rw [← toJson_int64 fits]
  cases kind with
  | count =>
      cases isWhole
      rfl
  | distinct =>
      cases isWhole
      rfl
  | sum =>
      rw [aggregateJson] at isWhole
      rw [aggregateCell]
      split at isWhole
      · cases isWhole
      · next some =>
          cases isWhole
          rw [if_neg some]
  | average => cases isWhole

theorem aggregateCell_of_null {kind : AggregateKind} (isNull : aggregateJson kind cells = .null) :
    aggregateCell kind cells = .null := by
  cases kind with
  | count => cases isNull
  | distinct => cases isNull
  | sum =>
      rw [aggregateJson] at isNull
      rw [aggregateCell]
      split at isNull
      · next none => rw [if_pos none]
      · cases isNull
  | average => rfl

/-- Both answers have the same JSON for an aggregate: that of a database, and what is read back
from a document. -/
theorem toJson_aggregate (kind : AggregateKind) (few : cells.length < 2 ^ 63)
    (small : kind = .sum → AllIntegers (presentCells cells) ∧ magnitude (presentCells cells) < 2 ^ 63) :
    (cellOfValue (aggregateJson kind cells)).toJson = (aggregateCell kind cells).toJson := by
  rcases aggregateJson_cases kind few small with isNull | ⟨value, isWhole, fits⟩
  · rw [isNull, aggregateCell_of_null isNull]
    rfl
  · rw [isWhole, Cell.toJson_cellOfValue_whole fits, toJson_aggregateCell isWhole fits]

end Database

section Documents

variable {α : Type} {value : α → Cell} {share : α → Json} {members : List α}

theorem isNull_ofJson (json : Json) : (Cell.ofJson json).isNull = json.isNull := by
  cases json with
  | whole number =>
      rw [Cell.ofJson]
      split <;> rfl
  | _ => rfl

theorem filter_shares (held : ∀ member ∈ members, (value member).Alike (some (share member))) :
    (members.map share).filter (fun json => !json.isNull) =
      (members.filter fun member => !(value member).isNull).map share := by
  rw [List.filter_map]
  refine congrArg _ (List.filter_congr fun member isMember => ?_)
  rw [← (held member isMember).isNull_iff]
  exact congrArg _ (isNull_ofJson _).symm

theorem presentCells_map (value : α → Cell) (members : List α) :
    presentCells (members.map value) =
      (members.filter fun member => !(value member).isNull).map value :=
  List.filter_map

/-- A set has as many items as there are distinct values. -/
theorem apply_set (held : ∀ member ∈ members, (value member).Alike (some (share member))) :
    ∃ items, Accumulator.set.apply (members.map share) = .array items ∧
      Json.ofNat items.length = aggregateJson .distinct (members.map value) := by
  let present := members.filter fun member => !(value member).isNull
  have heldPresent : ∀ member ∈ present, (value member).Alike (some (share member)) :=
    fun member isMember => held member (List.mem_filter.mp isMember).1
  have ofShares : Grouping.KeysAgree (fun member => (value member).groupKey)
      (fun json => (Cell.ofJson json).groupKey) share present :=
    .of_same fun member isMember => (heldPresent member isMember).groupKey_eq
  have ofValues : Grouping.KeysAgree (fun member => (value member).groupKey) Cell.groupKey value
      present :=
    .of_same fun _ _ => rfl
  refine ⟨_, congrArg distinctJson (filter_shares held), ?_⟩
  rw [aggregateJson, presentCells_map, Grouping.firsts_map ofShares, Grouping.firsts_map ofValues,
    List.length_map, List.length_map]

theorem integersOf_eq_of_map {left right : List Cell}
    (same : left.map Cell.integer? = right.map Cell.integer?) :
    integersOf left = integersOf right := by
  have mapped := congrArg (List.filterMap id) same
  rwa [List.filterMap_map, List.filterMap_map] at mapped

theorem magnitude_eq_of_map {left right : List Cell}
    (same : left.map Cell.integer? = right.map Cell.integer?) : magnitude left = magnitude right := by
  have mapped := congrArg (fun integers => (integers.map fun integer : Option Int =>
    (integer.getD 0).natAbs).sum) same
  simp only [List.map_map] at mapped
  exact mapped

theorem sumJson_of_integers {cells : List Cell} (integers : AllIntegers cells)
    (nonempty : cells ≠ []) :
    sumJson cells = (cells.foldl Total.add (.whole 0)).toJson := by
  cases cells with
  | nil => contradiction
  | cons cell rest =>
      obtain ⟨⟨value, isInteger⟩, _⟩ := integers.head_and_rest
      have isNumber : cell.number?.isSome = true := by
        rw [Cell.number?_of_integer? isInteger]
        rfl
      simp [sumJson, isNumber]

theorem sumJson_eq {cells : List Cell} (integers : AllIntegers cells)
    (small : magnitude cells < 2 ^ 63) :
    sumJson cells =
      if (integersOf cells).isEmpty then .null else .whole (integersOf cells).sum := by
  cases cells with
  | nil => rfl
  | cons cell rest =>
      obtain ⟨⟨value, isInteger⟩, _⟩ := integers.head_and_rest
      have total := foldl_add_eq integers (partialSumsFit_of_magnitude integers
        (show (0 : Int).natAbs + _ < 2 ^ 63 by simpa using small))
      rw [sumJson_of_integers integers (List.cons_ne_nil _ _), total, integersOf_cons isInteger,
        Int.zero_add]
      rfl

/-- Documents add up the integers that their values are stored for. -/
theorem exists_apply_sum (held : ∀ member ∈ members, (value member).Alike (some (share member)))
    (integers : AllIntegers (presentCells (members.map value))) :
    ∃ cells, Accumulator.sum.apply (members.map share) = sumJson cells ∧
      cells.map Cell.integer? = (presentCells (members.map value)).map Cell.integer? ∧
      AllIntegers cells := by
  rw [presentCells_map] at integers ⊢
  have same : (((members.filter fun member => !(value member).isNull).map share).map
      Cell.ofJson).map Cell.integer? =
        ((members.filter fun member => !(value member).isNull).map value).map Cell.integer? := by
    simp only [List.map_map]
    refine List.map_congr_left fun member isMember => ?_
    obtain ⟨number, isNumber⟩ := integers _ (List.mem_map_of_mem isMember)
    obtain ⟨isShare, fits⟩ :=
      (held member (List.mem_filter.mp isMember).1).whole_of_integer? number isNumber
    rw [Function.comp_apply, Function.comp_apply, Function.comp_apply, isNumber,
      Option.some.inj isShare]
    exact Cell.integer?_ofJson_whole fits
  refine ⟨_, ?_, same, ?_⟩
  · rw [← filter_shares held]
    rfl
  · intro cell member
    have isInteger := List.mem_map_of_mem (f := Cell.integer?) member
    rw [same] at isInteger
    obtain ⟨other, isOther, sameInteger⟩ := List.mem_map.mp isInteger
    exact sameInteger ▸ integers other isOther

/-- Documents add up what cells add up. -/
theorem apply_sum (held : ∀ member ∈ members, (value member).Alike (some (share member)))
    (integers : AllIntegers (presentCells (members.map value)))
    (small : magnitude (presentCells (members.map value)) < 2 ^ 63) :
    Accumulator.sum.apply (members.map share) = aggregateJson .sum (members.map value) := by
  obtain ⟨cells, applied, same, allIntegers⟩ := exists_apply_sum held integers
  rw [applied, sumJson_eq allIntegers (magnitude_eq_of_map same ▸ small),
    integersOf_eq_of_map same, integersOf_presentCells, aggregateJson]

theorem integersOf_ones (members : List α) :
    integersOf (members.map fun _ => .int64 1) = List.replicate members.length 1 := by
  induction members with
  | nil => rfl
  | cons member rest ih =>
      have isOne : (Cell.int64 1).integer? = some 1 := by decide
      rw [List.map_cons, integersOf_cons isOne, ih]
      rfl

/-- Documents count by adding up ones. -/
theorem apply_count (nonempty : members ≠ []) (small : members.length < 2 ^ 63) :
    Accumulator.sum.apply (members.map fun _ => .whole 1) = Json.ofNat members.length := by
  have isOne : (Cell.int64 1).integer? = some 1 := by decide
  have held : ∀ member ∈ members, (Cell.int64 1).Alike (some (.whole 1)) :=
    fun _ _ => (Cell.Stored.integer isOne (by decide)).alike
  have present : presentCells (members.map fun _ => Cell.int64 1) =
      members.map fun _ => .int64 1 := by
    rw [presentCells_map]
    exact congrArg _ (List.filter_eq_self.mpr fun _ _ => rfl)
  have integers : AllIntegers (presentCells (members.map fun _ => Cell.int64 1)) := by
    rw [present]
    intro cell member
    obtain ⟨_, _, rfl⟩ := List.mem_map.mp member
    exact ⟨1, isOne⟩
  have total : magnitude (presentCells (members.map fun _ => Cell.int64 1)) = members.length := by
    have each : Cell.magnitude ∘ (fun _ : α => Cell.int64 1) = fun _ => 1 := rfl
    rw [present, magnitude, List.map_map, each, List.map_const', List.sum_replicate_nat,
      Nat.mul_one]
  rw [apply_sum held integers (total ▸ small), aggregateJson, integersOf_ones]
  cases members with
  | nil => exact absurd rfl nonempty
  | cons member rest => simp [List.replicate_succ, Json.ofNat, Int.add_comm]

end Documents

end CrossQuery
