import CrossQuery.Proofs.Catalog.Building

/-!
# Catalogs as built

Whatever a builder is asked to do, in whatever order, the list of a table names fields of that
table only. This holds for fields that are added before their table is, too.
-/

set_option autoImplicit false

namespace CrossQuery

/-- A catalog whose lists name fields of their own table. -/
def Catalog.ListsOwn (catalog : Catalog) : Prop :=
  ∀ tableId ids, catalog.tableFields.lookup tableId = some ids →
    ∀ id ∈ ids, ∃ field, catalog.field? id = some field ∧ field.tableId = tableId

namespace CatalogBuilder

/-- The builders that additions and changes lead to from the empty one. -/
inductive Built : CatalogBuilder → Prop where
  | empty : Built empty
  | addTable {builder : CatalogBuilder} (databaseId : Int) (name : String) :
      Built builder → Built (builder.addTable databaseId name).2
  | addField {builder : CatalogBuilder} (tableId : Int) (spec : FieldSpec) :
      Built builder → Built (builder.addField tableId spec).2
  | setForeignKey {builder : CatalogBuilder} (fieldId target : Int) :
      Built builder → Built (builder.setForeignKey fieldId target)

/-- A builder that has handed out the identifiers of its fields and lists them where they
belong. -/
structure Listing (builder : CatalogBuilder) : Prop where
  issued : ∀ field ∈ builder.catalog.allFields, field.id < builder.nextField
  listsOwn : builder.catalog.ListsOwn

variable {builder : CatalogBuilder}

theorem listing_empty : empty.Listing :=
  ⟨fun _ member => absurd member List.not_mem_nil, fun _ _ listed => by cases listed⟩

theorem Listing.addTable (listing : builder.Listing) (databaseId : Int) (name : String) :
    (builder.addTable databaseId name).2.Listing := by
  refine ⟨listing.issued, ?_⟩
  intro tableId ids listed id member
  simp only [CatalogBuilder.addTable, lookup_setFields] at listed
  split at listed
  · cases listed
    cases member
  · exact listing.listsOwn tableId ids listed id member

/-- The field that is added to a table. -/
def newField (builder : CatalogBuilder) (tableId : Int) (spec : FieldSpec) : Field :=
  { id := builder.nextField
    tableId := tableId
    name := spec.name
    baseType := spec.baseType
    specialType := spec.specialType
    target := spec.target
    description := spec.description
    position := ((builder.catalog.tableFields.lookup tableId).getD []).length }

/-- A field that is added is found under the identifier that it was given. -/
theorem Listing.field?_addField (listing : builder.Listing) (tableId : Int) (spec : FieldSpec) :
    (builder.addField tableId spec).2.catalog.field? builder.nextField =
      some (builder.newField tableId spec) := by
  have unused : builder.catalog.allFields.find? (·.id == builder.nextField) = none := by
    rw [List.find?_eq_none]
    intro field member same
    have issued := listing.issued field member
    rw [beq_iff_eq] at same
    omega
  simp only [CatalogBuilder.addField, Catalog.field?, List.find?_append, unused, Option.none_or,
    List.find?_cons, beq_self_eq_true]
  rfl

theorem field?_addField_of_some {id : Int} {field : Field}
    (found : builder.catalog.field? id = some field) (tableId : Int) (spec : FieldSpec) :
    (builder.addField tableId spec).2.catalog.field? id = some field := by
  rw [Catalog.field?] at found
  simp only [CatalogBuilder.addField, Catalog.field?, List.find?_append, found, Option.some_or]

theorem Listing.addField (listing : builder.Listing) (tableId : Int) (spec : FieldSpec) :
    (builder.addField tableId spec).2.Listing := by
  constructor
  · intro field member
    simp only [CatalogBuilder.addField, List.mem_append, List.mem_singleton] at member ⊢
    rcases member with earlier | rfl
    · have issued := listing.issued field earlier
      omega
    · exact Int.lt_succ _
  · intro listedId ids listed id member
    simp only [CatalogBuilder.addField, lookup_setFields] at listed
    have kept : ∀ earlier, builder.catalog.tableFields.lookup listedId = some earlier →
        id ∈ earlier → ∃ field, (builder.addField tableId spec).2.catalog.field? id = some field ∧
          field.tableId = listedId := by
      intro earlier listed member
      obtain ⟨field, found, own⟩ := listing.listsOwn listedId earlier listed id member
      exact ⟨field, field?_addField_of_some found tableId spec, own⟩
    split at listed
    · next same =>
        subst same
        cases listed
        rcases List.mem_append.mp member with before | last
        · cases known : builder.catalog.tableFields.lookup listedId with
          | none =>
              rw [known] at before
              cases before
          | some earlier =>
              rw [known] at before
              exact kept earlier known before
        · obtain rfl := List.mem_singleton.mp last
          exact ⟨_, listing.field?_addField listedId spec, rfl⟩
    · exact kept ids listed member

theorem retarget_id (fieldId target : Int) (field : Field) :
    (retarget fieldId target field).id = field.id := by
  unfold retarget
  split <;> rfl

theorem retarget_tableId (fieldId target : Int) (field : Field) :
    (retarget fieldId target field).tableId = field.tableId := by
  unfold retarget
  split <;> rfl

theorem field?_setForeignKey (fieldId target id : Int) :
    (builder.setForeignKey fieldId target).catalog.field? id =
      (builder.catalog.field? id).map (retarget fieldId target) := by
  have sameTest : (fun field : Field => field.id == id) ∘ retarget fieldId target =
      fun field => field.id == id := by
    funext field
    rw [Function.comp_apply, retarget_id]
  rw [Catalog.field?, setForeignKey_allFields, List.find?_map, sameTest]
  rfl

theorem Listing.setForeignKey (listing : builder.Listing) (fieldId target : Int) :
    (builder.setForeignKey fieldId target).Listing := by
  constructor
  · rw [setForeignKey_allFields]
    intro field member
    obtain ⟨original, isOriginal, rfl⟩ := List.mem_map.mp member
    rw [retarget_id]
    exact listing.issued original isOriginal
  · intro tableId ids listed id member
    obtain ⟨field, found, own⟩ := listing.listsOwn tableId ids listed id member
    refine ⟨retarget fieldId target field, ?_, (retarget_tableId _ _ _).trans own⟩
    rw [field?_setForeignKey, found, Option.map_some]

theorem Built.listing (built : builder.Built) : builder.Listing := by
  induction built with
  | empty => exact listing_empty
  | addTable databaseId name _ ih => exact ih.addTable databaseId name
  | addField tableId spec _ ih => exact ih.addField tableId spec
  | setForeignKey fieldId target _ ih => exact ih.setForeignKey fieldId target

/-- The lists of a catalog that was built name fields of their own table. -/
theorem Built.listsOwn (built : builder.Built) : builder.catalog.ListsOwn :=
  built.listing.listsOwn

end CatalogBuilder

namespace Catalog

variable {catalog : Catalog}

theorem field_self {id : Int} {field : Field} (found : catalog.field id = .ok field) :
    catalog.field field.id = .ok field := by
  rwa [(CatalogBuilder.mem_of_field_eq_ok found).2]

theorem field_of_field? {id : Int} {field : Field} (found : catalog.field? id = some field) :
    catalog.field field.id = .ok field := by
  apply field_self
  rw [Catalog.field, found]

theorem field_of_mem_fields {tableId : Int} {fields : List Field}
    (listed : catalog.fields tableId = .ok fields) {field : Field} (member : field ∈ fields) :
    catalog.field field.id = .ok field := by
  obtain ⟨unsorted, isListed, rfl⟩ := Outcome.map_eq_ok.mp listed
  unfold listedFields at isListed
  split at isListed
  · cases isListed
    obtain ⟨id, _, found⟩ := List.mem_filterMap.mp (List.mem_mergeSort.mp member)
    exact field_of_field? found
  · cases isListed

/-- The fields that are listed for a table are its own. -/
theorem ListsOwn.field_of_mem (listsOwn : catalog.ListsOwn) {tableId : Int} {fields : List Field}
    (listed : catalog.fields tableId = .ok fields) {field : Field} (member : field ∈ fields) :
    catalog.field field.id = .ok field ∧ field.tableId = tableId := by
  obtain ⟨unsorted, isListed, rfl⟩ := Outcome.map_eq_ok.mp listed
  rw [listedFields] at isListed
  cases known : catalog.tableFields.lookup tableId with
  | none =>
      rw [known] at isListed
      cases isListed
  | some ids =>
      rw [known] at isListed
      cases isListed
      obtain ⟨id, isId, found⟩ := List.mem_filterMap.mp (List.mem_mergeSort.mp member)
      obtain ⟨other, foundOther, own⟩ := listsOwn tableId ids known id isId
      obtain rfl := Option.some.inj (found.symm.trans foundOther)
      exact ⟨field_of_field? found, own⟩

/-- The primary key of a table is one of its own fields. -/
theorem ListsOwn.field_of_primaryKey (listsOwn : catalog.ListsOwn) {tableId : Int} {key : Field}
    (isKey : catalog.primaryKey tableId = .ok (some key)) :
    catalog.field key.id = .ok key ∧ key.tableId = tableId ∧ key.isPrimaryKey = true := by
  obtain ⟨fields, listed, found⟩ := Outcome.map_eq_ok.mp isKey
  obtain ⟨known, own⟩ := listsOwn.field_of_mem listed (List.mem_of_find?_eq_some found)
  exact ⟨known, own, List.find?_some found⟩

end Catalog

end CrossQuery
