import CrossQuery.Collection.Pipeline
import CrossQuery.Proofs.Outcome
import CrossQuery.Proofs.Pattern.Literal
import CrossQuery.Proofs.Predicate.Stored

/-!
# Which documents pass

The filter of a predicate keeps a document exactly where the reading of the predicate says yes.
That is where the predicate is true, as long as no negation stands above a test that is unknown: a
filter takes a failed test under a negation for a success, also where it failed for want of a value.
-/

set_option autoImplicit false

namespace CrossQuery.Collection

/-- A name that is neither a path nor an operator. -/
structure PlainName (name : String) : Prop where
  noPath : '.' ∉ name.toList
  noOperator : isOperator name = false

/-- The name of a field in documents. -/
def keyName (field : PlanField) : String :=
  Naming.documentKeys.spellField field.field

/-- A document that holds the cells of a record in the fields that a predicate tests, and a
predicate whose values are compared as the texts that stand for them. -/
structure Holds (document : Document) (value : PlanField → Cell) (predicate : Predicate) : Prop where
  direct : ∀ field ∈ predicate.fields, field.isJoined = false
  plain : ∀ field ∈ predicate.fields, PlainName (keyName field)
  stored : ∀ field ∈ predicate.fields,
    (value field).Stored (Json.lookup? (keyName field) document)
  values : ∀ cell ∈ predicate.values, cell.isNull = false ∧ cell.Stored (some cell.toJson)

section Tests

variable {cell value : Cell} {stored : Option Json} {json : Json}

theorem ordered_eq (held : cell.Stored stored) (heldValue : value.Stored (some json))
    (kind : cell.SameKind value) (comparison : Comparison) :
    ordered stored json (Relational.admits comparison) = (comparison.truth cell value).holds := by
  have sameOrder := held.compare_eq heldValue kind
  unfold ordered Comparison.truth
  rw [show Cell.ofJson json = cellOf (some json) from rfl, sameOrder]
  cases Relational.compareCells cell value with
  | none => rfl
  | some ordering => exact (Truth.holds_ofBool _).symm

theorem equals_null (held : cell.Stored stored) : equals stored .null = cell.isNull := by
  have absent := held.isNull_iff
  simp only [equals, absent]
  cases cell.isNull <;> rfl

theorem equals_eq (held : cell.Stored stored) (heldValue : value.Stored (some json))
    (present : value.isNull = false) (kind : cell.SameKind value) :
    equals stored json = (Comparison.equal.truth cell value).holds := by
  have sameOrder : (cellOf stored).compare (.ofJson json) = Relational.compareCells cell value :=
    held.compare_eq heldValue kind
  have absent := held.isNull_iff
  have absentValue : (Cell.ofJson json).isNull = value.isNull := heldValue.isNull_iff
  simp only [equals, Comparison.truth, absent, absentValue, present, sameOrder]
  cases isNull : cell.isNull with
  | true =>
      rw [Cell.isNull_eq_true_iff.mp isNull, Cell.compareCells_null_left]
      rfl
  | false =>
      obtain ⟨ordering, found⟩ := Option.isSome_iff_exists.mp (kind.compare_isSome isNull)
      simp [kind.compareCells_eq, found, Relational.admits]

/-- A value differs from what is neither equal to it nor null. -/
theorem not_equal_or_null (kind : cell.SameKind value) :
    (!((Comparison.equal.truth cell value).holds || cell.isNull)) =
      (Comparison.notEqual.truth cell value).holds := by
  unfold Comparison.truth
  cases isNull : cell.isNull with
  | true =>
      rw [Cell.isNull_eq_true_iff.mp isNull, Cell.compareCells_null_left]
      rfl
  | false =>
      obtain ⟨ordering, found⟩ := Option.isSome_iff_exists.mp (kind.compare_isSome isNull)
      cases ordering <;> simp [kind.compareCells_eq, found, Relational.admits]

theorem satisfiesAll_single (operator : String) (argument : Json) :
    satisfiesAll stored [(operator, argument)] = satisfies stored operator argument := by
  cases answer : satisfies stored operator argument with
  | error refusal =>
      rw [satisfiesAll, answer]
      rfl
  | ok passed =>
      rw [satisfiesAll, answer]
      cases passed <;> rfl

theorem meets_operators {entries : List (String × Json)}
    (operators : isOperatorObject entries = true) :
    meets stored (.object entries) = satisfiesAll stored entries := by
  simp [meets, operators]

theorem meets_single {operator : String} (isOperator : isOperator operator = true)
    (argument : Json) :
    meets stored (single operator argument) = satisfies stored operator argument := by
  rw [single, meets_operators (by simp [isOperatorObject, isOperator]), satisfiesAll_single]

theorem meets_compareCondition (held : cell.Stored stored)
    (heldValue : value.Stored (some json)) (present : value.isNull = false)
    (kind : cell.SameKind value) (comparison : Comparison) :
    meets stored (compareCondition comparison json) =
      .ok (comparison.truth cell value).holds := by
  cases comparison with
  | equal =>
      rw [compareCondition, meets_single rfl]
      exact congrArg Except.ok (equals_eq held heldValue present kind)
  | notEqual =>
      rw [compareCondition, meets_single rfl]
      simp only [satisfies, among, List.any_cons, List.any_nil, Bool.or_false,
        equals_eq held heldValue present kind, equals_null held]
      exact congrArg Except.ok (not_equal_or_null kind)
  | less =>
      rw [compareCondition, meets_single rfl]
      exact congrArg Except.ok (ordered_eq held heldValue kind .less)
  | lessOrEqual =>
      rw [compareCondition, meets_single rfl]
      exact congrArg Except.ok (ordered_eq held heldValue kind .lessOrEqual)
  | greater =>
      rw [compareCondition, meets_single rfl]
      exact congrArg Except.ok (ordered_eq held heldValue kind .greater)
  | greaterOrEqual =>
      rw [compareCondition, meets_single rfl]
      exact congrArg Except.ok (ordered_eq held heldValue kind .greaterOrEqual)

theorem meets_between {least greatest : Cell} {leastJson greatestJson : Json}
    (held : cell.Stored stored) (heldLeast : least.Stored (some leastJson))
    (heldGreatest : greatest.Stored (some greatestJson)) (leastKind : cell.SameKind least)
    (greatestKind : cell.SameKind greatest) :
    meets stored (.object [("$gte", leastJson), ("$lte", greatestJson)]) =
      .ok ((Comparison.greaterOrEqual.truth cell least).and
        (Comparison.lessOrEqual.truth cell greatest)).holds := by
  have above := ordered_eq held heldLeast leastKind .greaterOrEqual
  have below := ordered_eq held heldGreatest greatestKind .lessOrEqual
  rw [meets_operators (by simp [isOperatorObject, isOperator]), satisfiesAll,
    satisfiesAll_single, Truth.holds_and, ← above, ← below]
  have first : satisfies stored "$gte" leastJson =
      .ok (ordered stored leastJson (Relational.admits .greaterOrEqual)) := rfl
  have second : satisfies stored "$lte" greatestJson =
      .ok (ordered stored greatestJson (Relational.admits .lessOrEqual)) := rfl
  rw [first, second]
  cases ordered stored leastJson (Relational.admits .greaterOrEqual) <;> rfl

theorem meets_isNull (held : cell.Stored stored) (negated : Bool) :
    meets stored (single (if negated then "$ne" else "$eq") .null) =
      .ok (Truth.ofBool (cell.isNull != negated)).holds := by
  cases negated with
  | false =>
      rw [if_neg (by decide), meets_single rfl, Truth.holds_ofBool, Bool.bne_false,
        ← equals_null held]
      rfl
  | true =>
      rw [if_pos rfl, meets_single rfl, Truth.holds_ofBool, Bool.bne_true, ← equals_null held]
      rfl

/-- A regular expression that is read as a pattern is tested on the text that is shown. -/
theorem meets_pattern (held : cell.Stored stored) (textual : cell.Textual) {text : String}
    {pattern : Pattern} (isRead : Pattern.parse? text.toList = some pattern) :
    meets stored (single "$regex" (.string text)) =
      .ok (cell.textTruth pattern.occursIn).holds := by
  have shown := held.text?_eq textual
  rw [meets_single rfl]
  simp only [satisfies, matchesPattern, isRead, shown, Cell.textTruth]
  cases cell.isNull with
  | true => rfl
  | false => simp

end Tests

theorem textTruth_congr {cell : Cell} {test other : List Char → Bool}
    (agree : ∀ text, test text = other text) : cell.textTruth test = cell.textTruth other := by
  rw [funext agree]

theorem parse?_startsWith (text : String) :
    Pattern.parse? ("^" ++ escapedText text).toList =
      some (.concat (.start :: text.toList.map Pattern.char)) := by
  have spelled : ("^" ++ escapedText text).toList = '^' :: Pattern.escape text.toList := by
    simp [escapedText]
  rw [spelled]
  exact Pattern.parse?_start_escape text.toList

theorem parse?_contains (text : String) :
    Pattern.parse? (escapedText text).toList = some (.concat (text.toList.map Pattern.char)) := by
  rw [escapedText, String.toList_ofList]
  exact Pattern.parse?_escape text.toList

/-- The value at a plain name is that of the field of the name. -/
theorem atPath?_of_plain {name : String} (plain : PlainName name) (document : Document) :
    atPath? document name = Json.lookup? name document := by
  rw [atPath?, Text.splitAt_eq_singleton plain.noPath]
  simp only [List.map_cons, List.map_nil, String.ofList_toList, follow]
  cases Json.lookup? name document <;> rfl

theorem ofName?_eq_none {name : String} (noOperator : isOperator name = false) :
    Connective.ofName? name = none := by
  unfold Connective.ofName?
  split
  · exact absurd noOperator (by decide)
  · exact absurd noOperator (by decide)
  · exact absurd noOperator (by decide)
  · rfl

/-- A filter on one field asks whether the value at the end of the path meets the condition. -/
theorem passes_path {name : String} (noOperator : isOperator name = false) (document : Document)
    (condition : Json) :
    passes document (single name condition) = meets (atPath? document name) condition := by
  simp only [passes, single, passesEntries, ofName?_eq_none noOperator, noOperator]
  cases meets (atPath? document name) condition with
  | error refusal => rfl
  | ok passed => cases passed <;> rfl

/-- A filter on one field of a plain name asks whether the value there meets the condition. -/
theorem passes_single {name : String} (plain : PlainName name) (document : Document)
    (condition : Json) :
    passes document (single name condition) =
      meets (Json.lookup? name document) condition := by
  rw [passes_path plain.noOperator, atPath?_of_plain plain]

theorem passes_connective (connective : Connective) (document : Document) (clauses : List Json) :
    passes document (single connective.name (.array clauses)) =
      (passesEach document clauses).map connective.decide := by
  have named : Connective.ofName? connective.name = some connective := by
    cases connective <;> rfl
  simp only [passes, single, passesEntries, passesClauses, named]
  cases passesEach document clauses with
  | error refusal => rfl
  | ok answers =>
      rw [Outcome.ok_bind, Outcome.pure_eq_ok, Except.map]

section Filters

variable {document : Document} {value : PlanField → Cell}

theorem Holds.of_mem {predicate : Predicate} (held : Holds document value predicate)
    (clauses : List Predicate)
    (sameFields : predicate.fields = Predicate.fieldsOfEach clauses)
    (sameValues : predicate.values = Predicate.valuesOfEach clauses) :
    ∀ clause ∈ clauses, Holds document value clause := by
  intro clause member
  have fieldOf : ∀ field ∈ clause.fields, field ∈ predicate.fields := by
    intro field tested
    rw [sameFields]
    exact Predicate.mem_fieldsOfEach.mpr ⟨clause, member, tested⟩
  have valueOf : ∀ cell ∈ clause.values, cell ∈ predicate.values := by
    intro cell compared
    rw [sameValues]
    exact Predicate.mem_valuesOfEach.mpr ⟨clause, member, compared⟩
  exact
    { direct := fun field tested => held.direct field (fieldOf field tested)
      plain := fun field tested => held.plain field (fieldOf field tested)
      stored := fun field tested => held.stored field (fieldOf field tested)
      values := fun cell compared => held.values cell (valueOf cell compared) }

/-- Each filter of some predicates gives the reading of its predicate. -/
theorem passesEach_filtersOf {clauses : List Predicate}
    (each : ∀ clause ∈ clauses, ∃ filter, filterOf clause = .ok filter ∧
      passes document filter = .ok (clause.reading value)) :
    ∃ filters, filtersOf clauses = .ok filters ∧
      passesEach document filters = .ok (clauses.map (Predicate.reading value)) := by
  induction clauses with
  | nil => exact ⟨[], rfl, rfl⟩
  | cons clause rest ih =>
      obtain ⟨filter, compiled, answer⟩ := each clause List.mem_cons_self
      obtain ⟨filters, restCompiled, answers⟩ :=
        ih fun other member => each other (List.mem_cons_of_mem _ member)
      refine ⟨filter :: filters, ?_, ?_⟩
      · rw [filtersOf, compiled, restCompiled]
        rfl
      · rw [passesEach, answer, answers]
        rfl

theorem all_map_reading (clauses : List Predicate) :
    (clauses.map (Predicate.reading value)).all id = Predicate.readingOfAll value clauses := by
  induction clauses with
  | nil => rfl
  | cons clause rest ih => simpa [Predicate.readingOfAll] using congrArg _ ih

theorem any_map_reading (clauses : List Predicate) :
    (clauses.map (Predicate.reading value)).any id = Predicate.readingOfAny value clauses := by
  induction clauses with
  | nil => rfl
  | cons clause rest ih => simpa [Predicate.readingOfAny] using congrArg _ ih

/-- A test on a field whose key is plain is asked of what the document holds there. -/
theorem passes_test {predicate : Predicate} {field : PlanField} {condition : Json}
    {answer : Bool} (held : Holds document value predicate) (tested : field ∈ predicate.fields)
    (compiled : filterOf predicate = (keyOfField field).map fun key => single key condition)
    (answered : meets (Json.lookup? (keyName field) document) condition = .ok answer) :
    ∃ filter, filterOf predicate = .ok filter ∧ passes document filter = .ok answer := by
  have key : keyOfField field = .ok (keyName field) := by
    simp [keyOfField, keyName, held.direct field tested]
  refine ⟨single (keyName field) condition, ?_, ?_⟩
  · rw [compiled, key]
    rfl
  · rw [passes_single (held.plain field tested), answered]

/-- A document passes the filter of a predicate exactly where the predicate reads as true. -/
theorem passes_filterOf {predicate : Predicate} (kinds : predicate.WellKinded value)
    (held : Holds document value predicate) :
    ∃ filter, filterOf predicate = .ok filter ∧
      passes document filter = .ok (predicate.reading value) := by
  induction kinds with
  | @and clauses _ ih =>
      obtain ⟨filters, compiled, answers⟩ := passesEach_filtersOf fun clause member =>
        ih clause member (held.of_mem clauses rfl rfl clause member)
      refine ⟨single Connective.and.name (.array filters), ?_, ?_⟩
      · rw [filterOf, compiled]
        rfl
      · rw [passes_connective, answers]
        exact congrArg Except.ok (all_map_reading clauses)
  | @or clauses _ ih =>
      obtain ⟨filters, compiled, answers⟩ := passesEach_filtersOf fun clause member =>
        ih clause member (held.of_mem clauses rfl rfl clause member)
      refine ⟨single Connective.or.name (.array filters), ?_, ?_⟩
      · rw [filterOf, compiled]
        rfl
      · rw [passes_connective, answers]
        exact congrArg Except.ok (any_map_reading clauses)
  | @not clause _ ih =>
      obtain ⟨filter, compiled, answer⟩ :=
        ih ⟨held.direct, held.plain, held.stored, held.values⟩
      refine ⟨single Connective.nor.name (.array [filter]), ?_, ?_⟩
      · rw [filterOf, compiled]
        rfl
      · rw [passes_connective, passesEach, answer]
        simp [passesEach, Connective.decide, Predicate.reading, bind, Except.bind, Except.map,
          pure, Except.pure]
  | @compare field comparison cell kind =>
      have tested : field ∈ (Predicate.compare field comparison cell).fields := by
        simp [Predicate.fields]
      obtain ⟨present, heldValue⟩ := held.values cell (by simp [Predicate.values])
      exact passes_test held tested (by rw [filterOf]; rfl)
        (meets_compareCondition (held.stored field tested) heldValue present kind comparison)
  | @between field least greatest leastKind greatestKind =>
      have tested : field ∈ (Predicate.between field least greatest).fields := by
        simp [Predicate.fields]
      obtain ⟨_, heldLeast⟩ := held.values least (by simp [Predicate.values])
      obtain ⟨_, heldGreatest⟩ := held.values greatest (by simp [Predicate.values])
      exact passes_test held tested (by rw [filterOf]; rfl)
        (meets_between (held.stored field tested) heldLeast heldGreatest leastKind greatestKind)
  | @isNull field negated =>
      have tested : field ∈ (Predicate.isNull field negated).fields := by
        simp [Predicate.fields]
      exact passes_test held tested (by rw [filterOf]; rfl)
        (meets_isNull (held.stored field tested) negated)
  | @startsWith field text textual =>
      have tested : field ∈ (Predicate.startsWith field text).fields := by
        simp [Predicate.fields]
      have answer := meets_pattern (held.stored field tested) textual (parse?_startsWith text)
      rw [textTruth_congr (Pattern.occursIn_start_literal text.toList)] at answer
      exact passes_test held tested (by rw [filterOf]; rfl) answer
  | @contains field text textual =>
      have tested : field ∈ (Predicate.contains field text).fields := by
        simp [Predicate.fields]
      have answer := meets_pattern (held.stored field tested) textual (parse?_contains text)
      rw [textTruth_congr (Pattern.occursIn_literal text.toList)] at answer
      exact passes_test held tested (by rw [filterOf]; rfl) answer

/-- Without negations a document passes where the predicate is true. -/
theorem passes_filterOf_positive {predicate : Predicate} (positive : predicate.Positive)
    (kinds : predicate.WellKinded value) (held : Holds document value predicate) :
    ∃ filter, filterOf predicate = .ok filter ∧
      passes document filter = .ok (predicate.truth value).holds := by
  obtain ⟨filter, compiled, answer⟩ := passes_filterOf kinds held
  exact ⟨filter, compiled, by rw [answer, positive.reading_eq]⟩

/-- A document is kept where the predicate is true of it and dropped where it is false. It is kept
although the predicate is not true exactly where the truth is unknown and the reading says yes. -/
theorem kept_iff_true_unless_unknown {predicate : Predicate}
    (kinds : predicate.WellKinded value) (held : Holds document value predicate) :
    ∃ filter kept, filterOf predicate = .ok filter ∧ passes document filter = .ok kept ∧
      (predicate.truth value = .yes → kept = true) ∧
      (predicate.truth value = .no → kept = false) ∧
      ((kept = true ↔ predicate.truth value = .yes) ↔
        ¬(predicate.truth value = .unknown ∧ predicate.reading value = true)) := by
  obtain ⟨filter, compiled, answer⟩ := passes_filterOf kinds held
  obtain ⟨whenTrue, whenFalse⟩ := Predicate.reading_of_known value predicate
  refine ⟨filter, predicate.reading value, compiled, answer, whenTrue, whenFalse, ?_⟩
  cases known : predicate.truth value with
  | yes => simp [whenTrue known]
  | no => simp [whenFalse known]
  | unknown => simp

end Filters

/-- That the price of a product is not below three. -/
def notBelowThree : Predicate :=
  .not (.compare
    (.direct ⟨2, 1, "price", .integer, none, none, none, 1⟩ ⟨1, 1, "products", none⟩) .less
    (.int64 3))

/-- A product without a price. -/
def unpriced : Document := [("_id", .whole 7)]

theorem notBelowThree_wellKinded : notBelowThree.WellKinded fun _ => .null :=
  .not (.compare (.null _))

theorem unpriced_holds : Holds unpriced (fun _ => .null) notBelowThree := by
  constructor
  · simp [notBelowThree, Predicate.fields, PlanField.direct, PlanField.isJoined]
  · simp only [notBelowThree, Predicate.fields, List.mem_singleton, forall_eq]
    exact ⟨by decide, by decide⟩
  · simp only [notBelowThree, Predicate.fields, List.mem_singleton, forall_eq]
    exact .missing
  · simp only [notBelowThree, Predicate.values, List.mem_singleton, forall_eq]
    exact ⟨rfl, .integer rfl (by decide)⟩

theorem kept_iff_true_unless_unknown_unpriced :
    ∃ filter kept, filterOf notBelowThree = .ok filter ∧ passes unpriced filter = .ok kept ∧
      (notBelowThree.truth (fun _ => .null) = .yes → kept = true) ∧
      (notBelowThree.truth (fun _ => .null) = .no → kept = false) ∧
      ((kept = true ↔ notBelowThree.truth (fun _ => .null) = .yes) ↔
        ¬(notBelowThree.truth (fun _ => .null) = .unknown ∧
          notBelowThree.reading (fun _ => .null) = true)) :=
  kept_iff_true_unless_unknown notBelowThree_wellKinded unpriced_holds

/-- A product without a price passes the filter of a negated comparison of prices, although the
predicate is not true of it. -/
theorem unpriced_kept_though_unknown :
    ∃ filter, filterOf notBelowThree = .ok filter ∧ passes unpriced filter = .ok true ∧
      notBelowThree.truth (fun _ => .null) = .unknown := by
  obtain ⟨filter, compiled, answer⟩ := passes_filterOf notBelowThree_wellKinded unpriced_holds
  exact ⟨filter, compiled, answer, rfl⟩

end CrossQuery.Collection
