import Mathlib
import CrossQuery.Proofs.Plan.WellFormed

/-!
# Names of columns

A column that is reached through a foreign key is named by the key and its own field, with
underscores between them. Both are names that a catalog is free to choose, so such a column may
share its name with a field of the source, or with one behind another key. These are the only ways:
the names of a listing are told apart exactly when none of its fields clash so.
-/

set_option autoImplicit false

namespace CrossQuery

/-- The fields of each table are spelled apart, by themselves and behind a key. -/
def Catalog.NamesApart (catalog : Catalog) (naming : Naming) : Prop :=
  ∀ field ∈ catalog.allFields, ∀ other ∈ catalog.allFields, field.tableId = other.tableId →
    (naming.spellField field = naming.spellField other ∨
      naming.spell field.name = naming.spell other.name) → field.id = other.id

instance (catalog : Catalog) (naming : Naming) : Decidable (catalog.NamesApart naming) :=
  inferInstanceAs (Decidable (∀ field ∈ _, ∀ other ∈ _, _ → _ → _))

/-- Where a primary key is spelled like other fields, the fields of each table have to differ in
nothing but the case of their names. -/
theorem Catalog.namesApart_iff {catalog : Catalog} {naming : Naming}
    (cased : naming ≠ .documentKeys) :
    catalog.NamesApart naming ↔
      ∀ field ∈ catalog.allFields, ∀ other ∈ catalog.allFields, field.tableId = other.tableId →
        naming.spell field.name = naming.spell other.name → field.id = other.id := by
  simp only [NamesApart, Naming.spellField, cased, false_and, if_false, or_self]

/-- The fields that a plan shows, column by column. -/
def Plan.shown (plan : Plan) : List PlanField :=
  plan.columns.flatMap PlanColumn.fields

/-- A field of the source that is spelled like a key with what is reached through it; and a field
behind a key, together with one behind another key that is spelled like the first key and the
beginning of what follows it. -/
inductive PlanField.Clashes (naming : Naming) : PlanField → PlanField → Prop where
  | source {field key other : Field} {table target : Table} :
      naming.spellField field = naming.spell key.name ++ "__" ++ naming.spell other.name →
      Clashes naming ⟨field, table, none⟩ ⟨other, target, some key⟩
  | keys {field key other otherKey : Field} {target otherTarget : Table} {more : String} :
      more ≠ "" → naming.spell otherKey.name = naming.spell key.name ++ more →
      "__" ++ naming.spell field.name = more ++ "__" ++ naming.spell other.name →
      Clashes naming ⟨field, target, some key⟩ ⟨other, otherTarget, some otherKey⟩

section Separated

variable {left right other otherRight : String}

theorem exists_more {more : List Char} (longer : other.toList = left.toList ++ more)
    (same : "__".toList ++ right.toList = more ++ ("__".toList ++ otherRight.toList)) :
    (left = other ∧ right = otherRight) ∨
      ∃ more, more ≠ "" ∧ other = left ++ more ∧ "__" ++ right = more ++ "__" ++ otherRight := by
  by_cases nothing : more = []
  · subst nothing
    left
    constructor <;> rw [← String.toList_inj]
    · simpa using longer.symm
    · simpa using same
  · right
    refine ⟨String.ofList more, ?_, ?_, ?_⟩
    · rwa [Ne, String.ofList_eq_empty_iff]
    · rw [← String.toList_inj]
      simpa using longer
    · rw [← String.toList_inj]
      simpa using same

/-- Names with a separator that are the same have the same parts, or one begins with more than the
first part of the other. -/
theorem cases_separated_eq (same : left ++ "__" ++ right = other ++ "__" ++ otherRight) :
    (left = other ∧ right = otherRight) ∨
      (∃ more, more ≠ "" ∧ other = left ++ more ∧ "__" ++ right = more ++ "__" ++ otherRight) ∨
      (∃ more, more ≠ "" ∧ left = other ++ more ∧ "__" ++ otherRight = more ++ "__" ++ right) := by
  have chars := congrArg String.toList same
  simp only [String.toList_append, List.append_assoc] at chars
  rcases List.append_eq_append_iff.mp chars with ⟨more, longer, rest⟩ | ⟨more, longer, rest⟩
  · rcases exists_more longer rest with parts | found
    · exact .inl parts
    · exact .inr (.inl found)
  · rcases exists_more longer rest with ⟨isLeft, isRight⟩ | found
    · exact .inl ⟨isLeft.symm, isRight.symm⟩
    · exact .inr (.inr found)

end Separated

section Columns

variable {capabilities : Capabilities} {catalog : Catalog} {plan : Plan} {left right : PlanField}

theorem columnName_through (field key : Field) (target : Table) :
    capabilities.columnName (.field ⟨field, target, some key⟩) =
      capabilities.naming.spell key.name ++ "__" ++ capabilities.naming.spell field.name :=
  capabilities.naming.spell_separated key.name field.name

/-- Fields that clash are shown under one name. -/
theorem PlanField.Clashes.columnName_eq (clashes : left.Clashes capabilities.naming right) :
    capabilities.columnName (.field left) = capabilities.columnName (.field right) := by
  cases clashes with
  | source same =>
      rw [columnName_through]
      exact same
  | keys _ longer same =>
      rw [columnName_through, columnName_through, longer, String.append_assoc, same]
      simp only [String.append_assoc]

theorem PlanField.Clashes.ne {naming : Naming} (clashes : left.Clashes naming right) :
    left ≠ right := by
  rintro rfl
  cases clashes with
  | keys someMore longer _ =>
      have chars := congrArg String.toList longer
      exact someMore (by simpa using chars)

theorem PlanField.sameAs_of_ids {field other : Field} {table target : Table} {via : Option Field}
    (sameId : field.id = other.id) :
    PlanField.sameAs ⟨field, table, via⟩ ⟨other, target, via⟩ = true := by
  simp [sameAs, sameId]

/-- Two fields in reach of a plan are shown under one name only if they clash. -/
theorem Plan.Reaches.clashes (isLeft : plan.Reaches catalog left)
    (isRight : plan.Reaches catalog right) (apart : catalog.NamesApart capabilities.naming)
    (different : left.sameAs right = false)
    (same : capabilities.columnName (.field left) = capabilities.columnName (.field right)) :
    left.Clashes capabilities.naming right ∨ right.Clashes capabilities.naming left := by
  have known {field : Field} (found : catalog.field field.id = .ok field) :
      field ∈ catalog.allFields := (CatalogBuilder.mem_of_field_eq_ok found).1
  cases isLeft with
  | @direct field found own =>
      cases isRight with
      | @direct other foundOther ownOther =>
          have sameId := apart field (known found) other (known foundOther)
            (own.trans ownOther.symm) (.inl same)
          rw [PlanField.direct, PlanField.direct, PlanField.sameAs_of_ids sameId] at different
          cases different
      | through =>
          rw [columnName_through] at same
          exact .inl (.source same)
  | @through field key targetKey target found own foundKey ownKey refers =>
      cases isRight with
      | direct =>
          rw [columnName_through] at same
          exact .inr (.source same.symm)
      | @through other otherKey _ otherTarget foundOther ownOther foundOtherKey ownOtherKey
          refersOther =>
          rw [columnName_through, columnName_through] at same
          rcases cases_separated_eq same with
            ⟨sameKeyName, sameName⟩ | ⟨more, someMore, longer, rest⟩ | ⟨more, someMore, longer, rest⟩
          · -- Keys of one name are one key, and what it leads to is in one table.
            have sameKeyId := apart key (known foundKey) otherKey (known foundOtherKey)
              (ownKey.trans ownOtherKey.symm) (.inr sameKeyName)
            rw [sameKeyId, foundOtherKey] at foundKey
            cases foundKey
            have sameTarget : target.id = otherTarget.id :=
              Option.some.inj (refers.symm.trans refersOther)
            have sameId := apart field (known found) other (known foundOther)
              (by rw [own, ownOther, sameTarget]) (.inr sameName)
            rw [PlanField.sameAs_of_ids sameId] at different
            cases different
          · exact .inl (.keys someMore longer rest)
          · exact .inr (.keys someMore longer rest)

end Columns

theorem Plan.shown_of_columns {plan : Plan} {fields : List PlanField}
    (areFields : plan.columns = fields.map .field) : plan.columns = plan.shown.map .field := by
  rw [shown, areFields, List.flatMap_map]
  simp [PlanColumn.fields]

/-- A listing shows a field in each of its columns. -/
theorem Plan.Lists.columns_eq {plan : Plan} {catalog : Catalog} {query : Query}
    (lists : plan.Lists catalog query) : plan.columns = plan.shown.map .field := by
  rcases lists.columns with ⟨_, fields, _, areAll⟩ | ⟨_, fields, areAsked, _⟩
  · exact shown_of_columns (areAll.trans List.map_map.symm)
  · exact shown_of_columns areAsked

/-- The columns of a listing that shows no field twice have names of their own exactly when no two
of the fields clash. -/
theorem Query.columnNames_nodup_iff {builder : CatalogBuilder} {query : Query}
    {capabilities : Capabilities} {databaseId : Int} {maxRows : Option Nat} {plan : Plan}
    (built : builder.Built) (apart : builder.catalog.NamesApart capabilities.naming)
    (isRows : query.aggregation = .rows)
    (compiled : query.compile builder.catalog capabilities databaseId maxRows = .ok plan)
    (different : plan.shown.Pairwise fun left right => left.sameAs right = false) :
    (plan.columns.map capabilities.columnName).Nodup ↔
      ∀ left ∈ plan.shown, ∀ right ∈ plan.shown,
        ¬left.Clashes capabilities.naming right := by
  have wellFormed := compile_wellFormed built compiled
  have columns := (wellFormed.lists isRows).columns_eq
  have reaches : ∀ field ∈ plan.shown, plan.Reaches builder.catalog field :=
    fun field member => wellFormed.reaches field (Plan.mem_fields_of_columns columns member)
  rw [columns, List.map_map]
  constructor
  · intro distinct left isLeft right isRight clashes
    exact clashes.ne (List.inj_on_of_nodup_map distinct isLeft isRight clashes.columnName_eq)
  · intro noClash
    rw [List.Nodup, List.pairwise_map]
    apply different.imp_of_mem
    intro left right isLeft isRight notSame same
    rcases (reaches left isLeft).clashes (reaches right isRight) apart notSame same with
      clashes | clashes
    · exact noClash left isLeft right isRight clashes
    · exact noClash right isRight left isLeft clashes

/-- Venues with a category, and a field that is spelled like the name of the category. -/
def labelledVenues : CatalogBuilder :=
  let plain (name : String) (type : BaseType) : FieldSpec := ⟨name, type, none, none, none⟩
  let categories := (CatalogBuilder.empty.addTable 1 "categories").2
  let categoryFields := ((categories.addField 1 ⟨"id", .integer, some .id, none, none⟩).2.addField 1
    (plain "name" .text)).2
  let venues := (categoryFields.addTable 1 "venues").2
  let venueFields := ((venues.addField 2 ⟨"id", .integer, some .id, none, none⟩).2.addField 2
    (plain "category_id" .integer)).2
  ((venueFields.addField 2 (plain "category_id__name" .text)).2.setForeignKey 4 1)

theorem labelledVenues_built : labelledVenues.Built := by
  apply CatalogBuilder.Built.setForeignKey
  apply CatalogBuilder.Built.addField
  apply CatalogBuilder.Built.addField
  apply CatalogBuilder.Built.addField
  apply CatalogBuilder.Built.addTable
  apply CatalogBuilder.Built.addField
  apply CatalogBuilder.Built.addField
  apply CatalogBuilder.Built.addTable
  exact .empty

theorem labelledVenues_apart : labelledVenues.catalog.NamesApart .upperCase := by
  rw [Catalog.namesApart_iff (by decide)]
  decide +kernel

/-- A listing of venues that shows the given fields. -/
def venuesShowing (fields : List FieldRef) : Query where
  sourceTable := 2
  filter := none
  aggregation := .rows
  breakout := []
  orderBy := []
  fields := fields
  limit := none
  page := none

/-- The names of the columns of a plan, and whether it shows no field twice. -/
def shownNames (plan : Plan) : List String × Bool :=
  (plan.columns.map (Capabilities.relational .upperCase).columnName,
    plan.shown.Pairwise fun left right => left.sameAs right = false)

/-- The label may be shown beside the category and its identifier. -/
theorem labelledVenues_columnNames :
    ∃ plan,
      (venuesShowing [.direct 4, .through 4 1, .direct 5]).compile labelledVenues.catalog
          (.relational .upperCase) 1 (some 100) = .ok plan ∧
        (plan.columns.map (Capabilities.relational .upperCase).columnName).Nodup ∧
        ∀ left ∈ plan.shown, ∀ right ∈ plan.shown, ¬left.Clashes .upperCase right := by
  have computed : ((venuesShowing [.direct 4, .through 4 1, .direct 5]).compile
      labelledVenues.catalog (.relational .upperCase) 1 (some 100)).map shownNames =
        .ok (["CATEGORY_ID", "CATEGORY_ID__ID", "CATEGORY_ID__NAME"], true) := by
    cbv
  obtain ⟨plan, compiled, facts⟩ := Outcome.map_eq_ok.mp computed
  obtain ⟨names, different⟩ := Prod.mk.inj facts
  have distinct : (plan.columns.map (Capabilities.relational .upperCase).columnName).Nodup := by
    rw [names]
    decide
  exact ⟨plan, compiled, distinct, (Query.columnNames_nodup_iff labelledVenues_built
    labelledVenues_apart rfl compiled (of_decide_eq_true different)).mp distinct⟩

/-- The label and the name of the category are shown under one name, though no two fields of a
table are spelled alike, and no field is shown twice. -/
theorem label_named_like_category :
    labelledVenues.Built ∧ labelledVenues.catalog.NamesApart .upperCase ∧
      ∃ plan,
        (venuesShowing [.direct 5, .through 4 2]).compile labelledVenues.catalog
            (.relational .upperCase) 1 (some 100) = .ok plan ∧
          (plan.shown.Pairwise fun left right => left.sameAs right = false) ∧
          ¬(plan.columns.map (Capabilities.relational .upperCase).columnName).Nodup := by
  have computed : ((venuesShowing [.direct 5, .through 4 2]).compile labelledVenues.catalog
      (.relational .upperCase) 1 (some 100)).map shownNames =
        .ok (["CATEGORY_ID__NAME", "CATEGORY_ID__NAME"], true) := by
    cbv
  obtain ⟨plan, compiled, facts⟩ := Outcome.map_eq_ok.mp computed
  obtain ⟨names, different⟩ := Prod.mk.inj facts
  refine ⟨labelledVenues_built, labelledVenues_apart, plan, compiled,
    of_decide_eq_true different, ?_⟩
  rw [names]
  decide

end CrossQuery
