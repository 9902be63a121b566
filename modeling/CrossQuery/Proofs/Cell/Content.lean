import CrossQuery.Cell.Order
import CrossQuery.Proofs.Calendar.RoundTrip

/-!
# What cells hold

Integers of all widths, truth values, texts, dates and timestamps, apart from the cells that hold
them. Cells of one kind are grouped together where they hold the same, or nothing.
-/

set_option autoImplicit false

namespace CrossQuery

/-- What a cell holds. The width of an integer plays no part. -/
inductive Content where
  | integer (value : Int)
  | boolean (value : Bool)
  | text (value : String)
  | date (value : Date)
  | timestamp (value : Timestamp)
deriving DecidableEq

/-- The kinds of what cells hold. -/
inductive Kind where
  | integer
  | boolean
  | text
  | date
  | timestamp
deriving DecidableEq

namespace Content

/-- The kind of what a cell holds. -/
def kind : Content → Kind
  | .integer _ => .integer
  | .boolean _ => .boolean
  | .text _ => .text
  | .date _ => .date
  | .timestamp _ => .timestamp

/-- The key under which a cell is grouped that holds this. -/
def groupKey : Content → String
  | .integer value => "n:" ++ Cell.integerText value
  | .boolean value => "s:" ++ if value then "true" else "false"
  | .text value => "s:" ++ value
  | .date value => "s:" ++ String.ofList value.write
  | .timestamp value => "s:" ++ String.ofList value.write

end Content

namespace Cell

/-- What a cell of one of the kinds holds. -/
def content? : Cell → Option Content
  | .bool value => some (.boolean value)
  | .text value => some (.text value)
  | .date value => some (.date value)
  | .timestamp value => some (.timestamp value)
  | cell => cell.integer?.map .integer

theorem content?_of_integer? {cell : Cell} {value : Int} (isInteger : cell.integer? = some value) :
    cell.content? = some (.integer value) := by
  cases cell <;> cases isInteger <;> rfl

end Cell

/-- A cell that is null or holds something of a kind. -/
inductive Kind.Holds (kind : Kind) : Cell → Prop where
  | null : Holds kind .null
  | content {cell : Cell} {content : Content} :
      cell.content? = some content → content.kind = kind → Holds kind cell

namespace Content

theorem integerText_injective {left right : Int}
    (same : Cell.integerText left = Cell.integerText right) : left = right := by
  have texts := String.ofList_injective same
  have read := congrArg Text.readInt? texts
  simpa using read

/-- What is of one kind has keys of its own. -/
theorem groupKey_injective {left right : Content} (sameKind : left.kind = right.kind)
    (same : left.groupKey = right.groupKey) : left = right := by
  cases left <;> cases right <;> cases sameKind
  all_goals
    have keys := (String.append_right_inj _).mp same
  · exact congrArg _ (integerText_injective keys)
  · next value other =>
      cases value <;> cases other <;> first | rfl | exact absurd keys (by decide)
  · exact congrArg _ keys
  · have read := congrArg Calendar.readDate? (String.ofList_injective keys)
    rw [Calendar.readDate?_write, Calendar.readDate?_write] at read
    exact congrArg _ (Option.some.inj read)
  · have read := congrArg Calendar.readTimestamp? (String.ofList_injective keys)
    rw [Calendar.readTimestamp?_write, Calendar.readTimestamp?_write] at read
    exact congrArg _ (Option.some.inj read)

theorem groupKey_ne_null (content : Content) : content.groupKey ≠ "\x00null" := by
  intro same
  have first := congrArg (fun key => key.toList.head?) same
  cases content <;> simp [groupKey] at first

end Content

namespace Cell

variable {cell other : Cell} {kind : Kind}

theorem groupKey_of_content {content : Content} (holds : cell.content? = some content) :
    cell.groupKey = content.groupKey := by
  cases cell <;> cases holds <;> rfl

/-- Both cells are null, or both hold the same. -/
def Agree (cell other : Cell) : Prop :=
  (cell = .null ∧ other = .null) ∨
    ∃ content, cell.content? = some content ∧ other.content? = some content

/-- Cells of one kind share a key exactly when they agree. -/
theorem groupKey_eq_iff (isLeft : kind.Holds cell) (isRight : kind.Holds other) :
    cell.groupKey = other.groupKey ↔ cell.Agree other := by
  constructor
  · intro same
    cases isLeft with
    | null =>
        cases isRight with
        | null => exact .inl ⟨rfl, rfl⟩
        | content holds =>
            rw [groupKey_of_content holds] at same
            exact absurd same.symm (Content.groupKey_ne_null _)
    | content holds isKind =>
        cases isRight with
        | null =>
            rw [groupKey_of_content holds] at same
            exact absurd same (Content.groupKey_ne_null _)
        | content holdsOther isOther =>
            rw [groupKey_of_content holds, groupKey_of_content holdsOther] at same
            have sameContent := Content.groupKey_injective (isKind.trans isOther.symm) same
            exact .inr ⟨_, holds, sameContent ▸ holdsOther⟩
  · rintro (⟨rfl, rfl⟩ | ⟨content, holds, holdsOther⟩)
    · rfl
    · rw [groupKey_of_content holds, groupKey_of_content holdsOther]

end Cell

end CrossQuery
