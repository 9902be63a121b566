import CrossQuery.Proofs.Relational.Conditions
import CrossQuery.Proofs.Relational.Statements

/-!
# Constants in written conditions

A value that a field is compared with is evaluated to itself once its text has been read. Floats are
left out, and so is the least integer: its magnitude is read first, which no integer has.
-/

set_option autoImplicit false

namespace CrossQuery

/-- A value other than a float that fields are compared with. -/
inductive Cell.Discrete : Cell → Prop where
  | boolean (value : Bool) : Discrete (.bool value)
  | integer (value : Int64) : Discrete (.int64 value)
  | text (value : String) : Discrete (.text value)
  | date (value : Date) : Discrete (.date value)
  | timestamp (value : Timestamp) : Discrete (.timestamp value)

namespace Relational

open Select

variable {scope : Scope} {row : List Cell} {value : Cell} {number : Int64}

theorem minValue_lt_toInt (opposite : number ≠ Int64.minValue) :
    Int64.minValue.toInt < number.toInt := by
  have least := number.minValue_le_toInt
  have apart : Int64.minValue.toInt ≠ number.toInt := by
    intro same
    exact opposite (Int64.toInt_inj.mp same).symm
  rw [Int64.toInt_minValue] at apart ⊢
  exact Int.lt_iff_le_and_ne.mpr ⟨least, apart⟩

theorem Discrete.writable (discrete : value.Discrete) (opposite : value ≠ .int64 Int64.minValue) :
    value.Writable := by
  constructor
  · rintro other rfl
    cases discrete
  · rintro other rfl
    cases discrete
  · intro number isNumber
    cases discrete with
    | integer value =>
        obtain rfl := Option.some.inj isNumber
        apply minValue_lt_toInt
        rintro rfl
        exact opposite rfl
    | _ => cases isNumber

/-- An integer with its sign apart is evaluated to the integer. -/
theorem evaluate_signApart (opposite : number ≠ Int64.minValue) :
    scope.evaluate row (Literal.integer number).signApart = .ok (.int64 number) := by
  have above := minValue_lt_toInt opposite
  have below := number.toInt_lt
  rw [Int64.toInt_minValue] at above
  rw [Literal.signApart]
  split
  · have shown : (-number).toInt = -number.toInt := by
      rw [Int64.toInt_neg]
      apply Int.bmod_eq_of_le <;> omega
    have fits : Cell.fitsInt64 number.toInt = true := by
      simp only [Cell.fitsInt64, Bool.and_eq_true, decide_eq_true_eq]
      omega
    simp [Scope.evaluate, cellOfLiteral, operateUnary, negate, Cell.integer?, shown, fits]
  · rfl

theorem evaluate_signsApart (discrete : value.Discrete) (opposite : value ≠ .int64 Int64.minValue) :
    scope.evaluate row (constantOfCell value).signsApart = .ok value := by
  cases discrete with
  | integer value =>
      have constant : constantOfCell (.int64 value) = .literal (.integer value) := by
        simp [constantOfCell, Cell.integer?]
      rw [constant]
      apply evaluate_signApart
      rintro rfl
      exact opposite rfl
  | boolean value => rfl
  | text value => rfl
  | date value => exact evaluate_constantOfCell (.date value)
  | timestamp value => exact evaluate_constantOfCell (.timestamp value)

/-- The column of a table where it compares with a value. -/
def comparing (table column : String) (comparison : Comparison) (value : Expression) :
    Statement where
  projections := [⟨.column (some table) column, some column⟩]
  source := ⟨table, none⟩
  joins := []
  filter := some (.binary (.compare comparison) (.column (some table) column) value)
  groupBy := []
  orderBy := []
  limit := none
  offset := none

variable {table column : String} {comparison : Comparison}

theorem planned_comparing {fits : Literal → Prop} {constant : Expression}
    (operand : constant.Operand fits) :
    (comparing table column comparison constant).Planned fits := by
  constructor
  · exact List.cons_ne_nil _ _
  · intro projection member
    obtain rfl := List.mem_singleton.mp member
    exact .column
  · exact fun join member => absurd member List.not_mem_nil
  · rintro condition ⟨⟩
    exact .compare operand
  · exact fun key member => absurd member List.not_mem_nil
  · exact fun key member => absurd member List.not_mem_nil
  · exact fun count isLimit => nomatch isLimit
  · exact fun count isOffset => nomatch isOffset

/-- The constant of a value is read as an expression whose value it is on every row. -/
theorem constants_survive (discrete : value.Discrete) (opposite : value ≠ .int64 Int64.minValue)
    (table column : String) (comparison : Comparison) :
    ∃ constant,
      Statement.parse (comparing table column comparison (constantOfCell value)).write =
        .ok (comparing table column comparison constant) ∧
      ∀ scope row, Scope.evaluate scope row constant = .ok value := by
  refine ⟨(constantOfCell value).signsApart, ?_, ?_⟩
  · have operand := operand_constantOfCell (Discrete.writable discrete opposite)
    exact (planned_comparing operand).parse_write
  · exact fun scope row => evaluate_signsApart discrete opposite

theorem second_least_survives :
    ∃ constant,
      Statement.parse
          (comparing "t" "n" .less (constantOfCell (.int64 (Int64.minValue + 1)))).write =
        .ok (comparing "t" "n" .less constant) ∧
      ∀ scope row, Scope.evaluate scope row constant = .ok (.int64 (Int64.minValue + 1)) :=
  constants_survive (.integer _) (fun same => absurd (Cell.int64.inj same) (by decide)) _ _ _

/-- A magnitude that no integer has is read as a float. -/
theorem exists_numberOf_float {magnitude : Nat} (large : 2 ^ 63 ≤ magnitude) :
    ∃ value, numberOf (String.ofList (Text.writeNat magnitude)) = .float value := by
  have isValue := (Numeral.ofNat magnitude).readNumeral?_text
  rw [Numeral.text_ofNat] at isValue
  have beyond : ¬ magnitude < 9223372036854775808 := by omega
  refine ⟨(Numeral.ofNat magnitude).written.toFloat, ?_⟩
  simp [numberOf, readNumber, Text.readNat?_writeNat, beyond, isValue]

/-- The constant of the least integer is read as the opposite of a float. -/
theorem exists_evaluate_least : ∃ value, ∀ scope row,
    Scope.evaluate scope row (constantOfCell (.int64 Int64.minValue)).reread =
      .ok (.float64 value) := by
  obtain ⟨value, isFloat⟩ := exists_numberOf_float (Nat.le_refl (2 ^ 63))
  have spelled : (constantOfCell (.int64 Int64.minValue)).reread =
      .unary .minus (.literal (.float value)) := by
    rw [← isFloat]
    rfl
  refine ⟨-value, fun scope row => ?_⟩
  rw [spelled]
  rfl

theorem least_becomes_float :
    ¬ ∃ constant,
      Statement.parse
          (comparing "t" "n" .equal (constantOfCell (.int64 Int64.minValue))).write =
        .ok (comparing "t" "n" .equal constant) ∧
      ∀ scope row, Scope.evaluate scope row constant = .ok (.int64 Int64.minValue) := by
  rintro ⟨constant, parsed, evaluated⟩
  have anyNumber : Expression.Operand (fun _ => True) (constantOfCell (.int64 Int64.minValue)) :=
    .integer trivial
  rw [(planned_comparing anyNumber).parse_write_reread] at parsed
  cases parsed
  obtain ⟨value, isFloat⟩ := exists_evaluate_least
  cases (isFloat [] []).symm.trans (evaluated [] [])

end Relational

end CrossQuery
