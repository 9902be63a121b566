import CrossQuery.Description
import CrossQuery.Proofs.Plan.ForeignKeys

/-!
# Results as stores describe them

What two stores say of the columns of one plan. They spell names and widths in their own way, and a
foreign key is one only where there are foreign keys. All else is as it is in the catalog, for both.
-/

set_option autoImplicit false

namespace CrossQuery

/-- The fields that the columns of a plan are made from are in the catalog. -/
def Plan.Catalogued (plan : Plan) (catalog : Catalog) : Prop :=
  ∀ column ∈ plan.columns, ∀ field ∈ column.fields,
    ∃ found, catalog.field field.field.id = .ok found

/-- A field that the catalog has in a role. -/
def PlanField.HasRole (field : PlanField) (catalog : Catalog) (role : SpecialType) : Prop :=
  ∃ found, catalog.field field.field.id = .ok found ∧ found.specialType = some role

namespace PlanColumn

/-- A column of a field with a role. -/
def Shows (catalog : Catalog) (role : SpecialType) : PlanColumn → Prop
  | .field shown => shown.HasRole catalog role
  | .aggregate _ _ => False

/-- A column made from a field with a role, whose values mean what those of the field do. -/
def TakesOver (catalog : Catalog) (role : SpecialType) : PlanColumn → Prop
  | .field shown => shown.HasRole catalog role
  | .aggregate .sum (some source) | .aggregate .distinct (some source) =>
    source.HasRole catalog role
  | .aggregate _ _ => False

/-- What the description of a column says in a store. -/
structure Describes (column : PlanColumn) (catalog : Catalog) (capabilities : Capabilities)
    (descriptor : ColumnDescriptor) : Prop where
  name : descriptor.name = capabilities.columnName column
  shown : ∀ field found, column = .field field → catalog.field field.field.id = .ok found →
    descriptor.tableId = some found.tableId ∧ descriptor.fieldId = some found.id ∧
      descriptor.description = found.description
  identifier : column.Shows catalog .id →
    descriptor.baseType = capabilities.identifierWidth.baseType
  foreignKey : column.TakesOver catalog .foreignKey → descriptor.specialType =
    some (if capabilities.supportsForeignKeys then .foreignKey else .category)
  number : ∀ kind source, column = .aggregate kind source → kind = .count ∨ kind = .average →
    descriptor.specialType = some .number
  target : ∀ table, descriptor.targetTable = some table →
    capabilities.supportsForeignKeys = true ∧ column.Shows catalog .foreignKey
  synthetic : column.isAggregate = true →
    descriptor.tableId = none ∧ descriptor.fieldId = none ∧ descriptor.targetTable = none

/-- What the descriptions of a column have in common, whatever stores they come from. -/
structure DescribedAlike (column : PlanColumn) (catalog : Catalog)
    (left right : ColumnDescriptor) : Prop where
  tableId : left.tableId = right.tableId
  fieldId : left.fieldId = right.fieldId
  description : left.description = right.description
  baseType : ¬ column.Shows catalog .id → left.baseType = right.baseType
  specialType : ¬ column.TakesOver catalog .foreignKey → left.specialType = right.specialType

variable {column : PlanColumn} {catalog : Catalog} {capabilities left right : Capabilities}
  {descriptor ofLeft ofRight : ColumnDescriptor}

theorem describe_field {shown : PlanField} {field : Field}
    (found : catalog.field shown.field.id = .ok field) :
    (PlanColumn.field shown).describe catalog capabilities =
      .ok
        { name := capabilities.columnName (.field shown)
          baseType := field.shownType capabilities
          specialType := (field.overlay capabilities).1
          tableId := some field.tableId
          fieldId := some field.id
          targetTable := (field.overlay capabilities).2
          description := field.description } := by
  rw [describe, Catalog.describedField, found]
  rfl

theorem describe_aggregate {kind : AggregateKind} {source : Option PlanField}
    {origin : Option Field} (found : source.mapM catalog.describedField = .ok origin) :
    (PlanColumn.aggregate kind source).describe catalog capabilities =
      .ok
        { name := capabilities.columnName (.aggregate kind source)
          baseType := kind.shownType origin
          specialType := kind.shownRole origin capabilities
          tableId := none
          fieldId := none
          targetTable := none
          description := none } := by
  rw [describe, found]
  rfl

theorem describedSource_eq_ok {source : PlanField} {origin : Option Field} :
    (some source).mapM catalog.describedField = .ok origin ↔
      ∃ field, catalog.field source.field.id = .ok field ∧ some field = origin := by
  change (catalog.describedField source).map some = .ok origin ↔ _
  simp only [Outcome.map_eq_ok, Catalog.describedField, Outcome.mapError_eq_ok]

/-- A column is described if and only if the catalog has the field that it is made from. -/
theorem exists_describe_iff :
    (∃ descriptor, column.describe catalog capabilities = .ok descriptor) ↔
      ∀ field ∈ column.fields, ∃ found, catalog.field field.field.id = .ok found := by
  cases column with
  | field shown =>
      simp only [fields, List.mem_singleton, forall_eq]
      constructor
      · intro described
        obtain ⟨descriptor, described⟩ := described
        obtain ⟨field, found, _⟩ := Outcome.bind_eq_ok.mp described
        exact ⟨field, Outcome.mapError_eq_ok.mp found⟩
      · intro known
        obtain ⟨field, found⟩ := known
        exact ⟨_, describe_field found⟩
  | aggregate kind source =>
      cases source with
      | none => exact iff_of_true ⟨_, describe_aggregate rfl⟩ (List.forall_mem_nil _)
      | some source =>
          simp only [fields, Option.toList_some, List.mem_singleton, forall_eq]
          constructor
          · intro described
            obtain ⟨descriptor, described⟩ := described
            obtain ⟨origin, isOrigin, _⟩ := Outcome.bind_eq_ok.mp described
            obtain ⟨field, found, _⟩ := describedSource_eq_ok.mp isOrigin
            exact ⟨field, found⟩
          · intro known
            obtain ⟨field, found⟩ := known
            exact ⟨_, describe_aggregate (describedSource_eq_ok.mpr ⟨field, found, rfl⟩)⟩

theorem hasRole_iff {shown : PlanField} {field : Field}
    (found : catalog.field shown.field.id = .ok field) (role : SpecialType) :
    shown.HasRole catalog role ↔ field.specialType = some role := by
  simp [PlanField.HasRole, found]

theorem overlay_of_foreignKey {field : Field} (refers : field.specialType = some .foreignKey) :
    (field.overlay capabilities).1 =
      some (if capabilities.supportsForeignKeys then .foreignKey else .category) := by
  rw [Field.overlay, if_pos refers]
  split <;> rfl

theorem overlay_of_other {field : Field} (other : field.specialType ≠ some .foreignKey) :
    field.overlay capabilities = (field.specialType, none) :=
  if_neg other

theorem describes_field {shown : PlanField} {field : Field}
    (found : catalog.field shown.field.id = .ok field)
    (described : (PlanColumn.field shown).describe catalog capabilities = .ok descriptor) :
    (PlanColumn.field shown).Describes catalog capabilities descriptor := by
  rw [describe_field found] at described
  obtain rfl := Except.ok.inj described
  constructor
  case name => rfl
  case shown =>
      intro other known same foundOther
      cases same
      obtain rfl := Except.ok.inj (found.symm.trans foundOther)
      exact ⟨rfl, rfl, rfl⟩
  case identifier =>
      intro shows
      have isId := (hasRole_iff found .id).mp shows
      exact if_pos (beq_iff_eq.mpr isId)
  case foreignKey => exact fun shows => overlay_of_foreignKey ((hasRole_iff found _).mp shows)
  case number => exact fun _ _ impossible => nomatch impossible
  case target =>
      intro table refers
      by_cases isKey : field.specialType = some .foreignKey
      · refine ⟨?_, (hasRole_iff found _).mpr isKey⟩
        cases supported : capabilities.supportsForeignKeys with
        | true => rfl
        | false => simp [Field.overlay, isKey, supported] at refers
      · rw [overlay_of_other isKey] at refers
        cases refers
  case synthetic => exact nofun

theorem describes_aggregate {kind : AggregateKind} {source : Option PlanField}
    {origin : Option Field} (found : source.mapM catalog.describedField = .ok origin)
    (described :
      (PlanColumn.aggregate kind source).describe catalog capabilities = .ok descriptor) :
    (PlanColumn.aggregate kind source).Describes catalog capabilities descriptor := by
  rw [describe_aggregate found] at described
  obtain rfl := Except.ok.inj described
  constructor
  case name => rfl
  case shown => exact fun _ _ impossible => nomatch impossible
  case identifier => exact False.elim
  case foreignKey =>
      intro takesOver
      cases source with
      | none => cases kind <;> cases takesOver
      | some source =>
          obtain ⟨field, isField, rfl⟩ := describedSource_eq_ok.mp found
          cases kind with
          | count | average => cases takesOver
          | sum | distinct => exact overlay_of_foreignKey ((hasRole_iff isField _).mp takesOver)
  case number =>
      intro other otherSource same counted
      cases same
      rcases counted with rfl | rfl <;> rfl
  case target => exact nofun
  case synthetic => exact fun _ => ⟨rfl, rfl, rfl⟩

theorem describedAlike_field {shown : PlanField} {field : Field}
    (found : catalog.field shown.field.id = .ok field)
    (onLeft : (PlanColumn.field shown).describe catalog left = .ok ofLeft)
    (onRight : (PlanColumn.field shown).describe catalog right = .ok ofRight) :
    (PlanColumn.field shown).DescribedAlike catalog ofLeft ofRight := by
  rw [describe_field found] at onLeft onRight
  obtain rfl := Except.ok.inj onLeft
  obtain rfl := Except.ok.inj onRight
  constructor
  case tableId => rfl
  case fieldId => rfl
  case description => rfl
  case baseType =>
      intro plain
      rw [Shows, hasRole_iff found] at plain
      have notKey : field.isPrimaryKey = false := beq_eq_false_iff_ne.mpr plain
      simp only [Field.shownType, notKey, Bool.false_eq_true, if_false]
  case specialType =>
      intro plain
      rw [TakesOver, hasRole_iff found] at plain
      simp only [overlay_of_other plain]

theorem describedAlike_aggregate {kind : AggregateKind} {source : Option PlanField}
    {origin : Option Field} (found : source.mapM catalog.describedField = .ok origin)
    (onLeft : (PlanColumn.aggregate kind source).describe catalog left = .ok ofLeft)
    (onRight : (PlanColumn.aggregate kind source).describe catalog right = .ok ofRight) :
    (PlanColumn.aggregate kind source).DescribedAlike catalog ofLeft ofRight := by
  rw [describe_aggregate found] at onLeft onRight
  obtain rfl := Except.ok.inj onLeft
  obtain rfl := Except.ok.inj onRight
  constructor
  case tableId => rfl
  case fieldId => rfl
  case description => rfl
  case baseType => exact fun _ => rfl
  case specialType =>
      intro plain
      cases source with
      | none =>
          cases found
          cases kind <;> rfl
      | some source =>
          obtain ⟨field, isField, rfl⟩ := describedSource_eq_ok.mp found
          cases kind with
          | count | average => rfl
          | sum | distinct =>
              rw [TakesOver, hasRole_iff isField] at plain
              simp only [AggregateKind.shownRole, Option.bind_some, overlay_of_other plain]

/-- What two stores say of a column. -/
theorem describes_of_describe (onLeft : column.describe catalog left = .ok ofLeft)
    (onRight : column.describe catalog right = .ok ofRight) :
    column.Describes catalog left ofLeft ∧ column.Describes catalog right ofRight ∧
      column.DescribedAlike catalog ofLeft ofRight := by
  cases column with
  | field shown =>
      obtain ⟨field, isField, _⟩ := Outcome.bind_eq_ok.mp onLeft
      have found := Outcome.mapError_eq_ok.mp isField
      exact ⟨describes_field found onLeft, describes_field found onRight,
        describedAlike_field found onLeft onRight⟩
  | aggregate kind source =>
      obtain ⟨origin, found, _⟩ := Outcome.bind_eq_ok.mp onLeft
      exact ⟨describes_aggregate found onLeft, describes_aggregate found onRight,
        describedAlike_aggregate found onLeft onRight⟩

end PlanColumn

namespace Plan

variable {plan : Plan} {catalog : Catalog} {capabilities : Capabilities} {columns : List Column}

theorem exists_describe_iff :
    (∃ described, plan.describe columns catalog capabilities = .ok described) ↔
      columns.map Column.name = plan.columnNames capabilities ∧ plan.Catalogued catalog := by
  unfold describe
  by_cases aligned : columns.map Column.name = plan.columnNames capabilities
  · simp only [aligned, if_true, true_and]
    constructor
    · intro described column member
      obtain ⟨descriptors, done⟩ := described
      exact PlanColumn.exists_describe_iff.mp (Outcome.exists_of_mapM done member)
    · intro catalogued
      exact Outcome.exists_mapM fun column member =>
        PlanColumn.exists_describe_iff.mpr (catalogued column member)
  · simp [aligned]

/-- Each column of the plan has its description at its own place. -/
theorem getElem?_of_describe {descriptors : List ColumnDescriptor}
    (described : plan.describe columns catalog capabilities = .ok descriptors) (place : Nat) :
    plan.columns[place]?.map (fun column => column.describe catalog capabilities) =
      descriptors[place]?.map .ok := by
  unfold describe at described
  simp only at described
  split at described
  · have images := congrArg (·[place]?) (Outcome.mapM_eq_ok_iff.mp described)
    simpa only [List.getElem?_map] using images
  · cases described

theorem length_of_describe {descriptors : List ColumnDescriptor}
    (described : plan.describe columns catalog capabilities = .ok descriptors) :
    descriptors.length = plan.columns.length := by
  unfold describe at described
  simp only at described
  split at described
  · have images := congrArg List.length (Outcome.mapM_eq_ok_iff.mp described)
    simpa using images.symm
  · cases described

end Plan

namespace CompileContext

variable {context : CompileContext}

/-- A field that is compiled is one of the catalog. -/
def Finds (context : CompileContext) (field : PlanField) : Prop :=
  ∃ found, context.catalog.field field.field.id = .ok found

theorem finds_of_fieldOf? {ref : FieldRef} {field : PlanField}
    (isField : context.fieldOf? ref = some field) : context.Finds field := by
  cases ref with
  | direct id =>
      simp only [fieldOf?] at isField
      split at isField
      · next found isFound =>
          cases isField
          exact ⟨found, Catalog.field_self isFound⟩
      · cases isField
  | through key destination =>
      simp only [fieldOf?] at isField
      split at isField
      · next found _ isFound =>
          split at isField
          · cases isField
            exact ⟨found, Catalog.field_self isFound⟩
          · cases isField
      · cases isField

theorem gives_finds (clause : String) (ref : FieldRef) :
    Gives (context.resolve clause ref) context.Finds :=
  (gives_resolve clause ref).imp fun _ => finds_of_fieldOf?

theorem gives_finds_of_lowerBreakout (refs : List FieldRef) {breakout : List PlanField}
    (found : ∀ field ∈ breakout, context.Finds field) :
    Gives (context.lowerBreakout breakout refs) fun fields =>
      ∀ field ∈ fields, context.Finds field := by
  induction refs generalizing breakout with
  | nil => exact gives_pure found
  | cons ref rest ih =>
      rw [lowerBreakout]
      refine gives_bind (gives_finds "breakout" ref) fun field isFound => ?_
      refine gives_check fun _ => ih ?_
      simpa only [List.forall_mem_append, List.forall_mem_singleton] using ⟨found, isFound⟩

theorem gives_finds_of_lowerSource (kind : AggregateKind) (ref : Option FieldRef) :
    Gives (context.lowerSource kind ref) fun source =>
      ∀ field, source = some field → context.Finds field := by
  cases ref with
  | none => exact gives_pure fun field impossible => nomatch impossible
  | some ref =>
      refine gives_bind (gives_finds "aggregation" ref) fun field isFound => ?_
      refine gives_check fun _ => gives_pure fun other same => ?_
      exact Option.some.inj same ▸ isFound

theorem gives_finds_of_lowerRows (query : Query) :
    Gives (context.lowerRows query) fun columns =>
      ∀ column ∈ columns, ∀ field ∈ column.fields, context.Finds field := by
  unfold lowerRows
  split
  · refine gives_bind (gives_look _) fun fields listed => gives_pure ?_
    intro column member field isField
    obtain ⟨own, isOwn, rfl⟩ := List.mem_map.mp member
    obtain rfl := List.mem_singleton.mp isField
    exact ⟨own, Catalog.field_of_mem_fields listed isOwn⟩
  · have each (ref : FieldRef) : Gives (do pure (.field (← context.resolve "fields" ref)))
        fun column : PlanColumn =>
          True ∧ ∀ field ∈ column.fields, context.Finds field := by
      refine gives_bind (gives_finds "fields" ref) fun field isFound => gives_pure ⟨trivial, ?_⟩
      simpa [PlanColumn.fields] using isFound
    exact (gives_mapM each).imp fun _ made => made.2

theorem gives_finds_of_lowerColumns (query : Query) :
    Gives (context.lowerColumns query) fun selected =>
      ∀ column ∈ selected.1, ∀ field ∈ column.fields, context.Finds field := by
  unfold lowerColumns
  cases aggregateOf query.aggregation with
  | none =>
      simp only
      refine gives_check fun _ => ?_
      refine gives_bind (gives_finds_of_lowerRows query) fun columns each => ?_
      exact gives_pure each
  | some aggregate =>
      obtain ⟨kind, ref⟩ := aggregate
      simp only
      refine gives_check fun _ => ?_
      refine gives_bind (gives_finds_of_lowerBreakout query.breakout (List.forall_mem_nil _))
        fun breakout each => ?_
      refine gives_bind (gives_finds_of_lowerSource kind ref) fun source isFound => gives_pure ?_
      intro column member field isField
      rcases List.mem_append.mp member with broken | last
      · obtain ⟨own, isOwn, rfl⟩ := List.mem_map.mp broken
        obtain rfl := List.mem_singleton.mp isField
        exact each field isOwn
      · obtain rfl := List.mem_singleton.mp last
        exact isFound field (Option.mem_toList.mp isField)

theorem gives_catalogued (query : Query) (databaseId : Int) (maxRows : Option Nat) :
    Gives (context.compile databaseId query maxRows) fun plan =>
      plan.Catalogued context.catalog := by
  rw [compile_eq_finish]
  refine gives_bind (gives_any _) fun filter _ => ?_
  unfold finish
  refine gives_bind (gives_finds_of_lowerColumns query) fun selected each => ?_
  refine gives_bind (gives_any _) fun asked _ => ?_
  refine gives_bind (gives_any _) fun window _ => ?_
  refine gives_bind (gives_any _) fun keys _ => ?_
  refine gives_bind (gives_any _) fun joins _ => ?_
  exact gives_pure each

end CompileContext

theorem Query.catalogued_of_compile {query : Query} {catalog : Catalog}
    {capabilities : Capabilities} {databaseId : Int} {maxRows : Option Nat} {plan : Plan}
    (compiled : query.compile catalog capabilities databaseId maxRows = .ok plan) :
    plan.Catalogued catalog := by
  obtain ⟨source, joins, _, _, run⟩ := run_of_compile compiled
  exact CompileContext.gives_catalogued query databaseId maxRows [] plan joins run

/-- The columns of a plan are described in a store just if they carry the names that the store
gives them, and if the catalog has their fields, as it does for every plan that was compiled from
it. Two stores say the same of each column, up to its name, the width of an identifier, and a foreign
key, which is a category where there are none. -/
theorem Plan.described_by_capabilities (plan : Plan) (catalog : Catalog) :
    (∀ capabilities columns,
        (∃ described, plan.describe columns catalog capabilities = .ok described) ↔
          columns.map Column.name = plan.columnNames capabilities ∧ plan.Catalogued catalog) ∧
      (∀ query capabilities databaseId maxRows,
        Query.compile query catalog capabilities databaseId maxRows = .ok plan →
          plan.Catalogued catalog) ∧
      ∀ left right leftColumns rightColumns leftDescribed rightDescribed,
        plan.describe leftColumns catalog left = .ok leftDescribed →
        plan.describe rightColumns catalog right = .ok rightDescribed →
        leftDescribed.length = plan.columns.length ∧ rightDescribed.length = plan.columns.length ∧
          ∀ (place : Nat) (column : PlanColumn) (ofLeft ofRight : ColumnDescriptor),
            plan.columns[place]? = some column →
            leftDescribed[place]? = some ofLeft → rightDescribed[place]? = some ofRight →
            column.Describes catalog left ofLeft ∧ column.Describes catalog right ofRight ∧
              column.DescribedAlike catalog ofLeft ofRight := by
  refine ⟨fun capabilities columns => exists_describe_iff,
    fun query capabilities databaseId maxRows => Query.catalogued_of_compile, ?_⟩
  intro left right leftColumns rightColumns leftDescribed rightDescribed onLeft onRight
  refine ⟨length_of_describe onLeft, length_of_describe onRight, ?_⟩
  intro place column ofLeft ofRight isColumn isLeft isRight
  have leftAt := getElem?_of_describe onLeft place
  have rightAt := getElem?_of_describe onRight place
  rw [isColumn, isLeft] at leftAt
  rw [isColumn, isRight] at rightAt
  exact PlanColumn.describes_of_describe (Option.some.inj leftAt) (Option.some.inj rightAt)

def rentalCar : Field :=
  ⟨3, 2, "car_id", .integer, some .foreignKey, some 1, some "The car.", 1⟩

def rentalCatalog : Catalog where
  tables := [⟨1, 1, "cars", none⟩, ⟨2, 1, "rentals", none⟩]
  allFields :=
    [⟨1, 1, "id", .integer, some .id, none, none, 0⟩,
      ⟨2, 2, "id", .integer, some .id, none, none, 0⟩, rentalCar]
  tableFields := [(1, [1]), (2, [2, 3])]

def rentedCars : Query where
  sourceTable := 2
  filter := none
  aggregation := .rows
  breakout := []
  orderBy := []
  fields := [.direct 3]
  limit := none
  page := none

/-- A mean of references, for whatever it is worth. -/
def meanCar : Query :=
  { rentedCars with aggregation := .average (.direct 3), fields := [] }

theorem rentedCars_described_by_capabilities :
    ∃ plan onTable onDocument,
      rentedCars.compile rentalCatalog (.relational .upperCase) 1 none = .ok plan ∧
        plan.describe [⟨"CAR_ID", "INTEGER"⟩] rentalCatalog (.relational .upperCase) =
          .ok [onTable] ∧
        plan.describe [⟨"car_id", "int"⟩] rentalCatalog .document = .ok [onDocument] ∧
        onTable.specialType = some .foreignKey ∧ onDocument.specialType = some .category ∧
        onTable.tableId = some 2 ∧ onTable.tableId = onDocument.tableId ∧
        onDocument.targetTable = none := by
  have compiles : ((rentedCars.compile rentalCatalog (.relational .upperCase) 1 none).map
      Plan.columns) = .ok [.field (.direct rentalCar ⟨2, 1, "rentals", none⟩)] := by
    cbv
  obtain ⟨plan, compiled, areColumns⟩ := Outcome.map_eq_ok.mp compiles
  obtain ⟨succeeds, catalogued, alike⟩ := plan.described_by_capabilities rentalCatalog
  have known := catalogued _ _ _ _ compiled
  have named (capabilities : Capabilities) : plan.columnNames capabilities =
      [capabilities.columnName (.field (.direct rentalCar ⟨2, 1, "rentals", none⟩))] := by
    rw [Plan.columnNames, areColumns, List.map_singleton]
  obtain ⟨onTables, isTables⟩ := (succeeds (.relational .upperCase) [⟨"CAR_ID", "INTEGER"⟩]).mpr
    ⟨by rw [named]; decide, known⟩
  obtain ⟨onDocuments, isDocuments⟩ := (succeeds .document [⟨"car_id", "int"⟩]).mpr
    ⟨by rw [named]; decide, known⟩
  obtain ⟨tableWidth, documentWidth, each⟩ := alike _ _ _ _ _ _ isTables isDocuments
  rw [areColumns, List.length_singleton, List.length_eq_one_iff] at tableWidth documentWidth
  obtain ⟨onTable, rfl⟩ := tableWidth
  obtain ⟨onDocument, rfl⟩ := documentWidth
  obtain ⟨table, document, same⟩ := each 0 _ onTable onDocument (by rw [areColumns]; rfl) rfl rfl
  have isKey : PlanField.HasRole (.direct rentalCar ⟨2, 1, "rentals", none⟩) rentalCatalog
      .foreignKey := ⟨rentalCar, rfl, rfl⟩
  have noTarget : onDocument.targetTable = none := by
    cases target : onDocument.targetTable with
    | none => rfl
    | some other => cases (document.target other target).1
  exact ⟨plan, onTable, onDocument, compiled, isTables, isDocuments, table.foreignKey isKey,
    document.foreignKey isKey, (table.shown _ rentalCar rfl rfl).1, same.tableId, noTarget⟩

/-- The mean of a foreign key is a number where there are foreign keys, not a foreign key. -/
theorem meanCar_is_number :
    ∃ plan source descriptor,
      meanCar.compile rentalCatalog (.relational .upperCase) 1 none = .ok plan ∧
        plan.columns = [.aggregate .average (some source)] ∧
        source.HasRole rentalCatalog .foreignKey ∧
        (Capabilities.relational .upperCase).supportsForeignKeys = true ∧
        plan.describe [⟨"avg", "DOUBLE"⟩] rentalCatalog (.relational .upperCase) =
          .ok [descriptor] ∧
        descriptor.specialType = some .number ∧ descriptor.specialType ≠ some .foreignKey := by
  have compiles : ((meanCar.compile rentalCatalog (.relational .upperCase) 1 none).map
      Plan.columns) =
      .ok [.aggregate .average (some (.direct rentalCar ⟨2, 1, "rentals", none⟩))] := by
    cbv
  obtain ⟨plan, compiled, areColumns⟩ := Outcome.map_eq_ok.mp compiles
  have described : plan.describe [⟨"avg", "DOUBLE"⟩] rentalCatalog (.relational .upperCase) =
      .ok [⟨"avg", .float, some .number, none, none, none, none⟩] := by
    rw [Plan.describe, Plan.columnNames, areColumns]
    rfl
  exact ⟨plan, _, _, compiled, areColumns, ⟨rentalCar, rfl, rfl⟩, rfl, described, rfl, by simp⟩

end CrossQuery
