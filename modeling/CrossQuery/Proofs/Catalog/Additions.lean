import CrossQuery.Proofs.Catalog.Building
import Mathlib.Data.List.Induction

/-!
# What a builder is asked for

Tables and fields may be asked for in any order, a field also before its table. What is asked for
fixes the descriptor of each field: its identifier is its place among all fields, its target the one
that is set last, and its position its place among the fields that its table has had since it was
made.
-/

set_option autoImplicit false

namespace CrossQuery

/-- What a builder can be asked for. -/
inductive BuilderCall where
  | table (databaseId : Int) (name : String)
  | field (tableId : Int) (spec : FieldSpec)
  | foreignKey (fieldId target : Int)

/-- A field that was asked for, with the target that was set for it last. -/
structure Addition where
  id : Int
  tableId : Int
  spec : FieldSpec
  /-- The number of tables that were made before. -/
  tablesBefore : Nat

namespace Addition

def field (addition : Addition) (position : Nat) : Field :=
  { id := addition.id
    tableId := addition.tableId
    name := addition.spec.name
    baseType := addition.spec.baseType
    specialType := addition.spec.specialType
    target := addition.spec.target
    description := addition.spec.description
    position := position }

/-- Whether a field was added to one of so many tables before that table was made. -/
def isEarly (tables : Nat) (addition : Addition) : Bool :=
  addition.tablesBefore < addition.tableId && addition.tableId ≤ tables

/-- An addition with its target set, if it is the one to change. -/
def retarget (fieldId target : Int) (addition : Addition) : Addition :=
  if addition.id = fieldId then
    { addition with spec := { addition.spec with target := some target } }
  else addition

section Retarget

variable (addition : Addition) (fieldId target : Int)

theorem id_retarget : (addition.retarget fieldId target).id = addition.id := by
  unfold retarget
  split <;> rfl

theorem tableId_retarget : (addition.retarget fieldId target).tableId = addition.tableId := by
  unfold retarget
  split <;> rfl

theorem isEarly_retarget (tables : Nat) :
    (addition.retarget fieldId target).isEarly tables = addition.isEarly tables := by
  unfold retarget
  split <;> rfl

theorem field_retarget (position : Nat) :
    (addition.retarget fieldId target).field position =
      CatalogBuilder.retarget fieldId target (addition.field position) := by
  by_cases isChanged : addition.id = fieldId <;>
    simp [retarget, CatalogBuilder.retarget, field, isChanged]

end Retarget

end Addition

/-- The descriptors of fields that are listed in this order. -/
def describedFields (additions : List Addition) : List Field :=
  additions.mapIdx fun position addition => addition.field position

section Described

variable {additions : List Addition}

theorem length_describedFields : (describedFields additions).length = additions.length :=
  List.length_mapIdx

theorem map_position_describedFields :
    (describedFields additions).map Field.position = List.range additions.length := by
  apply List.ext_getElem
  · simp [describedFields]
  · intro place _ _
    simp [describedFields, Addition.field]

end Described

namespace BuilderCall

/-- The number of tables that are made. -/
def tableCount : List BuilderCall → Nat
  | [] => 0
  | .table _ _ :: rest => tableCount rest + 1
  | _ :: rest => tableCount rest

/-- The target that is set last for a field, or the one that it has already. -/
def lastTarget (fieldId : Int) (target : Option Int) : List BuilderCall → Option Int
  | [] => target
  | .foreignKey id newTarget :: rest =>
    lastTarget fieldId (if fieldId = id then some newTarget else target) rest
  | _ :: rest => lastTarget fieldId target rest

/-- The fields that are asked for once there are so many tables and fields. Identifiers count
the fields from one. -/
def additionsAfter (tables fields : Nat) : List BuilderCall → List Addition
  | [] => []
  | .table _ _ :: rest => additionsAfter (tables + 1) fields rest
  | .field tableId spec :: rest =>
    -- The target is the only part of a field that a later call can change.
    { id := fields + 1
      tableId := tableId
      spec := { spec with target := lastTarget (fields + 1) spec.target rest }
      tablesBefore := tables } :: additionsAfter tables (fields + 1) rest
  | .foreignKey _ _ :: rest => additionsAfter tables fields rest

def additions (calls : List BuilderCall) : List Addition :=
  additionsAfter 0 0 calls

/-- The fields that are asked for with a table. -/
def addedTo (calls : List BuilderCall) (tableId : Int) : List Addition :=
  (additions calls).filter fun addition => addition.tableId == tableId

/-- The fields of a table that were not added before the table was made. -/
def listedFor (calls : List BuilderCall) (tableId : Int) : List Addition :=
  (addedTo calls tableId).filter fun addition => !addition.isEarly (tableCount calls)

/-- Whether a table was made or was given a field. -/
def isKnown (calls : List BuilderCall) (tableId : Int) : Bool :=
  (1 ≤ tableId && tableId ≤ tableCount calls) ||
    (additions calls).any fun addition => addition.tableId == tableId

section Calls

variable {calls : List BuilderCall}

theorem tableCount_append (calls others : List BuilderCall) :
    tableCount (calls ++ others) = tableCount calls + tableCount others := by
  fun_induction tableCount calls with
  | case1 => simp
  | case2 _ _ rest ih =>
      rw [List.cons_append, tableCount, ih]
      omega
  | case3 first rest notTable ih =>
      cases first with
      | table databaseId name => exact absurd rfl (notTable databaseId name)
      | _ => exact ih

theorem tableCount_table (databaseId : Int) (name : String) :
    tableCount (calls ++ [.table databaseId name]) = tableCount calls + 1 :=
  tableCount_append calls _

theorem tableCount_field (tableId : Int) (spec : FieldSpec) :
    tableCount (calls ++ [.field tableId spec]) = tableCount calls :=
  tableCount_append calls _

theorem tableCount_foreignKey (fieldId target : Int) :
    tableCount (calls ++ [.foreignKey fieldId target]) = tableCount calls :=
  tableCount_append calls _

theorem lastTarget_append (fieldId : Int) (target : Option Int) (calls others : List BuilderCall) :
    lastTarget fieldId target (calls ++ others) =
      lastTarget fieldId (lastTarget fieldId target calls) others := by
  fun_induction lastTarget fieldId target calls with
  | case1 => rfl
  | case2 target id newTarget rest ih => exact ih
  | case3 target first rest notKey ih =>
      cases first with
      | foreignKey id newTarget => exact absurd rfl (notKey id newTarget)
      | _ => exact ih

theorem additionsAfter_table (tables fields : Nat) (databaseId : Int) (name : String) :
    additionsAfter tables fields (calls ++ [.table databaseId name]) =
      additionsAfter tables fields calls := by
  fun_induction additionsAfter tables fields calls with
  | case1 => rfl
  | case2 _ _ _ _ _ ih => exact ih
  | case3 _ _ _ _ _ ih => simp [additionsAfter, lastTarget_append, lastTarget, ih]
  | case4 _ _ _ _ _ ih => exact ih

theorem additionsAfter_field (tables fields : Nat) (tableId : Int) (spec : FieldSpec) :
    additionsAfter tables fields (calls ++ [.field tableId spec]) =
      additionsAfter tables fields calls ++
        [⟨fields + (additionsAfter tables fields calls).length + 1, tableId, spec,
          tables + tableCount calls⟩] := by
  fun_induction additionsAfter tables fields calls with
  | case1 => simp [additionsAfter, lastTarget, tableCount]
  | case2 _ _ _ _ _ ih =>
      simp [additionsAfter, tableCount, ih]
      omega
  | case3 _ _ _ _ _ ih =>
      simp [additionsAfter, lastTarget_append, lastTarget, tableCount, ih]
      omega
  | case4 _ _ _ _ _ ih => simp [additionsAfter, tableCount, ih]

theorem additionsAfter_foreignKey (tables fields : Nat) (fieldId target : Int) :
    additionsAfter tables fields (calls ++ [.foreignKey fieldId target]) =
      (additionsAfter tables fields calls).map (Addition.retarget fieldId target) := by
  fun_induction additionsAfter tables fields calls with
  | case1 => rfl
  | case2 _ _ _ _ _ ih => exact ih
  | case3 _ _ _ _ _ ih =>
      simp [additionsAfter, lastTarget_append, lastTarget, ih, Addition.retarget]
      split <;> rfl
  | case4 _ _ _ _ _ ih => exact ih

end Calls

section Calls

variable {calls : List BuilderCall}

theorem additions_table (databaseId : Int) (name : String) :
    additions (calls ++ [.table databaseId name]) = additions calls :=
  additionsAfter_table 0 0 databaseId name

theorem additions_field (tableId : Int) (spec : FieldSpec) :
    additions (calls ++ [.field tableId spec]) =
      additions calls ++ [⟨(additions calls).length + 1, tableId, spec, tableCount calls⟩] := by
  simp [additions, additionsAfter_field]

theorem additions_foreignKey (fieldId target : Int) :
    additions (calls ++ [.foreignKey fieldId target]) =
      (additions calls).map (Addition.retarget fieldId target) :=
  additionsAfter_foreignKey 0 0 fieldId target

theorem tablesBefore_le {addition : Addition} (member : addition ∈ additions calls) :
    addition.tablesBefore ≤ tableCount calls := by
  induction calls using List.reverseRecOn generalizing addition with
  | nil => cases member
  | append_singleton calls call ih =>
      rw [tableCount_append]
      cases call with
      | table databaseId name =>
          rw [additions_table] at member
          exact Nat.le_add_right_of_le (ih member)
      | field tableId spec =>
          rw [additions_field, List.mem_append, List.mem_singleton] at member
          rcases member with earlier | rfl
          · exact ih earlier
          · exact Nat.le_refl _
      | foreignKey fieldId target =>
          rw [additions_foreignKey] at member
          obtain ⟨original, isOriginal, rfl⟩ := List.mem_map.mp member
          have bound := ih isOriginal
          unfold Addition.retarget
          split <;> exact bound

theorem addedTo_field (tableId other : Int) (spec : FieldSpec) :
    addedTo (calls ++ [.field tableId spec]) other =
      addedTo calls other ++
        if other = tableId then
          [⟨(additions calls).length + 1, tableId, spec, tableCount calls⟩]
        else [] := by
  rw [addedTo, additions_field, List.filter_append]
  by_cases same : other = tableId
  · simp [addedTo, same]
  · simp [addedTo, same, Ne.symm same]

theorem addedTo_foreignKey (fieldId target tableId : Int) :
    addedTo (calls ++ [.foreignKey fieldId target]) tableId =
      (addedTo calls tableId).map (Addition.retarget fieldId target) := by
  rw [addedTo, additions_foreignKey, List.filter_map, addedTo]
  congr 2
  funext addition
  simp [Addition.tableId_retarget]

/-- A table that is made has no fields, whatever was added to it before. -/
theorem listedFor_table (databaseId : Int) (name : String) (tableId : Int) :
    listedFor (calls ++ [.table databaseId name]) tableId =
      if tableId = tableCount calls + 1 then [] else listedFor calls tableId := by
  have sameAdditions : addedTo (calls ++ [.table databaseId name]) tableId =
      addedTo calls tableId := by
    rw [addedTo, additions_table, addedTo]
  rw [listedFor, sameAdditions, tableCount_table]
  split
  · next isNew =>
      -- All that was added to the table so far was added before it was made.
      apply List.filter_eq_nil_iff.mpr
      intro addition member
      obtain ⟨member, isTable⟩ := List.mem_filter.mp member
      have before := tablesBefore_le member
      rw [beq_iff_eq] at isTable
      simp only [Addition.isEarly, Bool.not_eq_true, Bool.not_eq_false', Bool.and_eq_true,
        decide_eq_true_eq]
      omega
  · next isOld =>
      -- The new table is another one, so no field of this one becomes early.
      apply List.filter_congr
      intro addition member
      have isTable := (List.mem_filter.mp member).2
      rw [beq_iff_eq] at isTable
      have sameRange : (addition.tableId ≤ ((tableCount calls + 1 : Nat) : Int)) ↔
          addition.tableId ≤ (tableCount calls : Int) := by
        omega
      simp only [Addition.isEarly, sameRange]

theorem listedFor_field (tableId other : Int) (spec : FieldSpec) :
    listedFor (calls ++ [.field tableId spec]) other =
      listedFor calls other ++
        if other = tableId then
          [⟨(additions calls).length + 1, tableId, spec, tableCount calls⟩]
        else [] := by
  rw [listedFor, addedTo_field, tableCount_field, List.filter_append, ← listedFor]
  congr 1
  split
  · have inTime : tableId ≤ tableCount calls ∨ (tableCount calls : Int) < tableId := by
      omega
    simp [Addition.isEarly, inTime]
  · rfl

/-- A field of a table that was given another one is an earlier one in its place, or is the new
one and the last. -/
theorem listedFor_field_cases {tableId other : Int} {spec : FieldSpec} {place : Nat}
    {addition : Addition}
    (found : (listedFor (calls ++ [.field tableId spec]) other)[place]? = some addition) :
    (listedFor calls other)[place]? = some addition ∨
      other = tableId ∧ place = (listedFor calls other).length ∧
        addition = ⟨(additions calls).length + 1, tableId, spec, tableCount calls⟩ := by
  rw [listedFor_field] at found
  rcases Nat.lt_or_ge place (listedFor calls other).length with earlier | last
  · left
    rwa [List.getElem?_append_left earlier] at found
  · right
    rw [List.getElem?_append_right last] at found
    split at found
    · next same =>
        rw [List.getElem?_singleton] at found
        split at found
        · next isFirst =>
            obtain rfl := Option.some.inj found
            exact ⟨same, by omega, rfl⟩
        · cases found
    · cases found

theorem listedFor_foreignKey (fieldId target tableId : Int) :
    listedFor (calls ++ [.foreignKey fieldId target]) tableId =
      (listedFor calls tableId).map (Addition.retarget fieldId target) := by
  rw [listedFor, addedTo_foreignKey, tableCount_foreignKey, List.filter_map, listedFor]
  congr 2
  funext addition
  simp [Addition.isEarly_retarget]

theorem isKnown_table (databaseId : Int) (name : String) (tableId : Int) :
    isKnown (calls ++ [.table databaseId name]) tableId =
      (decide (tableId = tableCount calls + 1) || isKnown calls tableId) := by
  rw [Bool.eq_iff_iff, isKnown, isKnown, additions_table, tableCount_table]
  simp only [Bool.or_eq_true, Bool.and_eq_true, decide_eq_true_eq, ← or_assoc]
  refine or_congr_left ?_
  omega

theorem isKnown_field (tableId other : Int) (spec : FieldSpec) :
    isKnown (calls ++ [.field tableId spec]) other =
      (decide (other = tableId) || isKnown calls other) := by
  rw [Bool.eq_iff_iff, isKnown, isKnown, additions_field, tableCount_field, List.any_append]
  simp only [List.any_cons, List.any_nil, Bool.or_false, Bool.or_eq_true, beq_iff_eq,
    decide_eq_true_eq, ← or_assoc, @eq_comm _ tableId]
  rw [or_comm, ← or_assoc]

theorem isKnown_foreignKey (fieldId target tableId : Int) :
    isKnown (calls ++ [.foreignKey fieldId target]) tableId = isKnown calls tableId := by
  rw [isKnown, isKnown, additions_foreignKey, tableCount_foreignKey, List.any_map]
  simp only [Function.comp_def, Addition.tableId_retarget]

theorem listedFor_eq_nil {tableId : Int} (unknown : isKnown calls tableId = false) :
    listedFor calls tableId = [] := by
  rw [isKnown, Bool.or_eq_false_iff, List.any_eq_false] at unknown
  have noField : addedTo calls tableId = [] := List.filter_eq_nil_iff.mpr unknown.2
  rw [listedFor, noField, List.filter_nil]

theorem listedFor_eq_addedTo_iff {tableId : Int} :
    listedFor calls tableId = addedTo calls tableId ↔
    ∀ addition ∈ addedTo calls tableId, addition.isEarly (tableCount calls) = false := by
  rw [listedFor, List.filter_eq_self]
  simp only [Bool.not_eq_true']

end Calls

end BuilderCall

end CrossQuery
