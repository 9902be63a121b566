import CrossQuery.Proofs.Json.Codec
import CrossQuery.Request.Reader
import CrossQuery.Request.Writer

/-!
# Requests are read back

Every part of a request is read back from the JSON that is written of it, whatever filters nest in
it and whatever values they compare with.
-/

set_option autoImplicit false

namespace CrossQuery

open Json (Codec codec_int64 codec_unsigned codec_any)

/-- A reference by identifiers of 64 bits. -/
def FieldRef.Representable : FieldRef → Prop
  | .direct id => Json.Int64 id
  | .through key destination => Json.Int64 key ∧ Json.Int64 destination

theorem FieldRef.codec : Codec Representable read? toJson where
  read_write ref valid := by
    cases ref with
    | direct id => simp [toJson, read?, codec_int64.read_write id valid]
    | through key destination =>
        simp [toJson, read?, Json.record?_object, Json.lookup?,
          codec_int64.read_write key valid.1, codec_int64.read_write destination valid.2]
  valid_of_read json ref given := by
    unfold read? at given
    split at given
    · obtain ⟨record, -, given⟩ := Option.bind_eq_some_iff.mp given
      obtain ⟨key, isKey, given⟩ := Option.bind_eq_some_iff.mp given
      obtain ⟨destination, isDestination, given⟩ := Option.bind_eq_some_iff.mp given
      obtain rfl := Option.some.inj given
      exact ⟨codec_int64.valid_of_required isKey, codec_int64.valid_of_required isDestination⟩
    · obtain ⟨id, isId, rfl⟩ := Option.map_eq_some_iff.mp given
      exact codec_int64.valid_of_read _ id isId
  merged ref _ := by
    cases ref with
    | direct id => exact .whole
    | through key destination => exact .object (by simp) (by simp [Json.Merged.whole])

/-- An aggregation of a field by identifiers of 64 bits. -/
def Aggregation.Representable (aggregation : Aggregation) : Prop :=
  ∀ field ∈ aggregation.source?, field.Representable

theorem Aggregation.readField?_object {field : FieldRef} (valid : field.Representable) :
    readField? (.object [("field", field.toJson)]) = some field := by
  simp [readField?, Json.record?_object, Json.lookup?, FieldRef.codec.read_write field valid]

theorem Aggregation.valid_of_readField? {content : Json} {field : FieldRef}
    (given : readField? content = some field) : field.Representable := by
  obtain ⟨record, -, given⟩ := Option.bind_eq_some_iff.mp given
  exact FieldRef.codec.valid_of_required given

theorem Aggregation.codec : Codec Representable read? toJson where
  read_write aggregation valid := by
    cases aggregation with
    | rows | count =>
        simp [toJson, read?, Json.tagged?_object, Json.readText?, Json.record?_object]
    | sum field | distinct field | average field =>
        simp [toJson, read?, Json.tagged?_object, Json.readText?,
          readField?_object (valid field rfl)]
  valid_of_read json aggregation given := by
    obtain ⟨⟨tag, content⟩, -, given⟩ := Option.bind_eq_some_iff.mp given
    obtain ⟨kind, -, given⟩ := Option.bind_eq_some_iff.mp given
    split at given
    case h_1 | h_2 =>
      obtain ⟨record, -, rfl⟩ := Option.map_eq_some_iff.mp given
      rintro field ⟨⟩
    case h_3 | h_4 | h_5 =>
      obtain ⟨field, isField, rfl⟩ := Option.map_eq_some_iff.mp given
      rintro other ⟨⟩
      exact valid_of_readField? isField
    case h_6 => cases given
  merged aggregation valid := by
    cases aggregation with
    | rows | count => exact .object (by simp) (by simp [Json.Merged.string])
    | sum field | distinct field | average field =>
        have ofField := FieldRef.codec.merged field (valid field rfl)
        exact .object (by simp) (by simp [Json.Merged.string, ofField])

theorem Direction.codec : Codec (fun _ => True) read? fun direction => .string direction.name where
  read_write direction _ := by cases direction <;> rfl
  valid_of_read _ _ _ := trivial
  merged _ _ := .string

theorem OrderKey.codec : Codec (fun key => key.field.Representable) read? toJson where
  read_write key valid := by
    simp [toJson, read?, Json.record?_object, Json.lookup?,
      FieldRef.codec.read_write key.field valid, Direction.codec.read_write key.direction trivial]
  valid_of_read json key given := by
    obtain ⟨record, -, given⟩ := Option.bind_eq_some_iff.mp given
    obtain ⟨field, isField, given⟩ := Option.bind_eq_some_iff.mp given
    obtain ⟨direction, -, given⟩ := Option.bind_eq_some_iff.mp given
    obtain rfl := Option.some.inj given
    exact FieldRef.codec.valid_of_required isField
  merged key valid := by
    have ofField := FieldRef.codec.merged key.field valid
    exact .object (by simp) (by simp [Json.Merged.string, ofField])

/-- A page whose size and number have 64 bits. -/
structure Page.Representable (page : Page) : Prop where
  items : Json.Unsigned 64 page.items
  page : Json.Unsigned 64 page.page

theorem Page.codec : Codec Representable read? toJson where
  read_write page valid := by
    simp [toJson, read?, Json.record?_object, Json.lookup?,
      (codec_unsigned 64).read_write page.items valid.items,
      (codec_unsigned 64).read_write page.page valid.page]
  valid_of_read json page given := by
    obtain ⟨record, -, given⟩ := Option.bind_eq_some_iff.mp given
    obtain ⟨items, isItems, given⟩ := Option.bind_eq_some_iff.mp given
    obtain ⟨number, isNumber, given⟩ := Option.bind_eq_some_iff.mp given
    obtain rfl := Option.some.inj given
    exact ⟨(codec_unsigned 64).valid_of_required isItems,
      (codec_unsigned 64).valid_of_required isNumber⟩
  merged page valid := by
    have ofItems := (codec_unsigned 64).merged page.items valid.items
    have ofPage := (codec_unsigned 64).merged page.page valid.page
    exact .object (by simp) (by simp [ofItems, ofPage])

namespace Filter

/-- A filter whose fields have identifiers of 64 bits and whose values repeat no key. -/
inductive Representable : Filter → Prop
  | and {clauses} : (∀ clause ∈ clauses, Representable clause) → Representable (.and clauses)
  | or {clauses} : (∀ clause ∈ clauses, Representable clause) → Representable (.or clauses)
  | not {clause} : Representable clause → Representable (.not clause)
  | compare {comparison field value} :
      field.Representable → value.Merged → Representable (.compare comparison field value)
  | between {field least greatest} :
      field.Representable → least.Merged → greatest.Merged →
      Representable (.between field least greatest)
  | isNull {field} : field.Representable → Representable (.isNull field)
  | notNull {field} : field.Representable → Representable (.notNull field)
  | startsWith {field value} : field.Representable → Representable (.startsWith field value)
  | contains {field value} : field.Representable → Representable (.contains field value)
  | all : Representable .all

theorem toJsonClauses_eq_map (clauses : List Filter) :
    toJsonClauses clauses = clauses.map toJson := by
  induction clauses with
  | nil => rfl
  | cons clause rest ih => rw [toJsonClauses, ih, List.map_cons]

section Leaves

variable {field : FieldRef} (valid : field.Representable)
include valid

theorem readCompare?_object (comparison : Comparison) {value : Json} (merged : value.Merged) :
    readCompare? comparison (.object [("field", field.toJson), ("value", value)]) =
      some (.compare comparison field value) := by
  simp [readCompare?, Json.record?_object, Json.lookup?, FieldRef.codec.read_write field valid,
    codec_any.read_write value merged]

theorem readBetween?_object {least greatest : Json} (leastMerged : least.Merged)
    (greatestMerged : greatest.Merged) :
    readBetween? (.object [("field", field.toJson), ("min", least), ("max", greatest)]) =
      some (.between field least greatest) := by
  simp [readBetween?, Json.record?_object, Json.lookup?, FieldRef.codec.read_write field valid,
    codec_any.read_write least leastMerged, codec_any.read_write greatest greatestMerged]

theorem readOnField?_object (build : FieldRef → Filter) :
    readOnField? build (.object [("field", field.toJson)]) = some (build field) := by
  simp [readOnField?, Json.record?_object, Json.lookup?, FieldRef.codec.read_write field valid]

theorem readOnText?_object (build : FieldRef → String → Filter) (text : String) :
    readOnText? build (.object [("field", field.toJson), ("value", .string text)]) =
      some (build field text) := by
  simp [readOnText?, Json.record?_object, Json.lookup?, FieldRef.codec.read_write field valid,
    Json.readText?]

end Leaves

theorem depth_clause_lt {clauses : List Filter} {clause : Filter} (mem : clause ∈ clauses)
    (operator : String) :
    clause.toJson.depth + 1 <
      (Json.object
        [("op", .string operator), ("clauses", .array (toJsonClauses clauses))]).depth := by
  have within : clause.toJson.depth ≤ Json.depthItems (toJsonClauses clauses) := by
    rw [toJsonClauses_eq_map]
    exact Json.depth_le_depthItems (List.mem_map_of_mem mem)
  simp only [Json.depth, Json.depthEntries]
  omega

theorem depth_toJson_not (clause : Filter) :
    (Filter.not clause).toJson.depth = clause.toJson.depth + 1 := by
  simp [toJson, Json.depth, Json.depthEntries]

/-- Fuel for the depth of what is written suffices to read the filter back. -/
theorem Representable.readTagged?_toJson {filter : Filter} (valid : filter.Representable) :
    ∀ {fuel : Nat} {inner : Bool}, filter.toJson.depth ≤ fuel →
      readTagged? (fuel + 1) inner filter.toJson = some filter := by
  -- A clause takes one unit of fuel, and lies at least one level deeper in what is written.
  induction valid with
  | @and clauses _ ih | @or clauses _ ih =>
      intro fuel inner enough
      have each : ∀ clause ∈ clauses, readTagged? fuel true clause.toJson = some clause := by
        intro clause mem
        have shallower := Nat.lt_of_lt_of_le (depth_clause_lt mem _) enough
        obtain ⟨less, rfl⟩ := Nat.exists_eq_add_one_of_ne_zero (Nat.ne_zero_of_lt shallower)
        exact ih clause mem (by omega)
      simp [toJson, readTagged?, Json.tagged?_object, readOperator?, Json.record?_object,
        Json.lookup?, Json.readList?, toJsonClauses_eq_map, Json.mapM_map_write each]
  | @not clause _ ih =>
      intro fuel inner enough
      have back : readTagged? fuel true clause.toJson = some clause := by
        rw [depth_toJson_not] at enough
        obtain ⟨less, rfl⟩ := Nat.exists_eq_add_one_of_ne_zero (Nat.ne_zero_of_lt enough)
        exact ih (by omega)
      simp [toJson, readTagged?, Json.tagged?_object, readOperator?, Json.record?_object,
        Json.lookup?, back]
  | @compare comparison _ _ isField merged =>
      intro fuel inner _
      cases comparison <;>
        simp [toJson, readTagged?, Json.tagged?_object, readOperator?, Comparison.sign,
          readCompare?_object isField _ merged]
  | between isField leastMerged greatestMerged =>
      intro fuel inner _
      simp [toJson, readTagged?, Json.tagged?_object, readOperator?,
        readBetween?_object isField leastMerged greatestMerged]
  | isNull isField | notNull isField =>
      intro fuel inner _
      simp [toJson, readTagged?, Json.tagged?_object, readOperator?, readOnField?_object isField]
  | startsWith isField | contains isField =>
      intro fuel inner _
      simp [toJson, readTagged?, Json.tagged?_object, readOperator?, readOnText?_object isField]
  | all =>
      intro fuel inner _
      simp [toJson, readTagged?, Json.tagged?_object, readOperator?, Json.record?_object]

theorem merged_toJson {filter : Filter} (valid : filter.Representable) :
    filter.toJson.Merged := by
  induction valid with
  | and each ih | or each ih =>
      have listed := Json.Merged.array fun item (mem : item ∈ toJsonClauses _) => by
        rw [toJsonClauses_eq_map] at mem
        obtain ⟨clause, among, rfl⟩ := List.mem_map.mp mem
        exact ih clause among
      exact .object (by simp) (by simp [Json.Merged.string, listed])
  | not _ ih => exact .object (by simp) (by simp [Json.Merged.string, ih])
  | @compare comparison field value isField merged =>
      have ofField := FieldRef.codec.merged field isField
      exact .object (by simp) (by simp [Json.Merged.string, ofField, merged])
  | @between field _ _ isField leastMerged greatestMerged =>
      have ofField := FieldRef.codec.merged field isField
      exact .object (by simp) (by simp [Json.Merged.string, ofField, leastMerged, greatestMerged])
  | @isNull field isField | @notNull field isField
  | @startsWith field _ isField | @contains field _ isField =>
      have ofField := FieldRef.codec.merged field isField
      exact .object (by simp) (by simp [Json.Merged.string, ofField])
  | all => exact .object (by simp) (by simp [Json.Merged.string])

theorem representable_of_readCompare? {comparison : Comparison} {content : Json} {filter : Filter}
    (given : readCompare? comparison content = some filter) : filter.Representable := by
  obtain ⟨record, -, given⟩ := Option.bind_eq_some_iff.mp given
  obtain ⟨field, isField, given⟩ := Option.bind_eq_some_iff.mp given
  obtain ⟨value, isValue, given⟩ := Option.bind_eq_some_iff.mp given
  obtain rfl := Option.some.inj given
  exact .compare (FieldRef.codec.valid_of_required isField) (codec_any.valid_of_required isValue)

theorem representable_of_readBetween? {content : Json} {filter : Filter}
    (given : readBetween? content = some filter) : filter.Representable := by
  obtain ⟨record, -, given⟩ := Option.bind_eq_some_iff.mp given
  obtain ⟨field, isField, given⟩ := Option.bind_eq_some_iff.mp given
  obtain ⟨least, isLeast, given⟩ := Option.bind_eq_some_iff.mp given
  obtain ⟨greatest, isGreatest, given⟩ := Option.bind_eq_some_iff.mp given
  obtain rfl := Option.some.inj given
  exact .between (FieldRef.codec.valid_of_required isField)
    (codec_any.valid_of_required isLeast) (codec_any.valid_of_required isGreatest)

theorem representable_of_readOnField? {build : FieldRef → Filter}
    (builds : ∀ field : FieldRef, field.Representable → (build field).Representable)
    {content : Json} {filter : Filter} (given : readOnField? build content = some filter) :
    filter.Representable := by
  obtain ⟨record, -, given⟩ := Option.bind_eq_some_iff.mp given
  obtain ⟨field, isField, rfl⟩ := Option.map_eq_some_iff.mp given
  exact builds field (FieldRef.codec.valid_of_required isField)

theorem representable_of_readOnText? {build : FieldRef → String → Filter}
    (builds : ∀ field : FieldRef, field.Representable → ∀ text, (build field text).Representable)
    {content : Json} {filter : Filter} (given : readOnText? build content = some filter) :
    filter.Representable := by
  obtain ⟨record, -, given⟩ := Option.bind_eq_some_iff.mp given
  obtain ⟨field, isField, given⟩ := Option.bind_eq_some_iff.mp given
  obtain ⟨text, -, given⟩ := Option.bind_eq_some_iff.mp given
  obtain rfl := Option.some.inj given
  exact builds field (FieldRef.codec.valid_of_required isField) text

/-- Only representable filters are read, with whatever fuel. -/
theorem representable_of_readTagged? {fuel : Nat} {inner : Bool} {json : Json} {filter : Filter}
    (given : readTagged? fuel inner json = some filter) : filter.Representable := by
  induction fuel generalizing inner json filter with
  | zero => cases given
  | succ fuel ih =>
      have only (json) (filter) (given : readTagged? fuel true json = some filter) := ih given
      obtain ⟨⟨tag, content⟩, -, given⟩ := Option.bind_eq_some_iff.mp given
      obtain ⟨operator, -, given⟩ := Option.bind_eq_some_iff.mp given
      split at given
      case h_1 =>
        obtain ⟨record, -, given⟩ := Option.bind_eq_some_iff.mp given
        obtain ⟨clauses, areClauses, rfl⟩ := Option.map_eq_some_iff.mp given
        exact .and (Json.valid_of_required (Json.valid_of_readList? only) areClauses)
      case h_2 =>
        obtain ⟨record, -, given⟩ := Option.bind_eq_some_iff.mp given
        obtain ⟨clauses, areClauses, rfl⟩ := Option.map_eq_some_iff.mp given
        exact .or (Json.valid_of_required (Json.valid_of_readList? only) areClauses)
      case h_3 =>
        obtain ⟨record, -, given⟩ := Option.bind_eq_some_iff.mp given
        obtain ⟨clause, isClause, rfl⟩ := Option.map_eq_some_iff.mp given
        exact .not (Json.valid_of_required only isClause)
      case h_4 | h_5 | h_6 | h_7 | h_8 | h_9 => exact representable_of_readCompare? given
      case h_10 => exact representable_of_readBetween? given
      case h_11 => exact representable_of_readOnField? (fun _ => .isNull) given
      case h_12 => exact representable_of_readOnField? (fun _ => .notNull) given
      case h_13 => exact representable_of_readOnText? (fun _ valid _ => .startsWith valid) given
      case h_14 => exact representable_of_readOnText? (fun _ valid _ => .contains valid) given
      case h_15 =>
        obtain ⟨record, -, rfl⟩ := Option.map_eq_some_iff.mp given
        exact .all
      case h_16 => cases given

theorem exists_object (filter : Filter) : ∃ entries, filter.toJson = .object entries := by
  cases filter <;> exact ⟨_, rfl⟩

/-- The filter clause of a request, where null is the absence of a filter. -/
theorem codec :
    Codec (fun filter? => ∀ filter ∈ filter?, filter.Representable) read?
      (Json.ofOption toJson) where
  read_write filter? all := by
    cases filter? with
    | none => rfl
    | some filter =>
        have valid : filter.Representable := all filter rfl
        have asItIs : filter.toJson.normalise = filter.toJson := (merged_toJson valid).normalise_eq
        have back : readTagged? (filter.toJson.depth + 1) false filter.toJson = some filter :=
          valid.readTagged?_toJson (Nat.le_refl _)
        obtain ⟨entries, written⟩ := exists_object filter
        rw [written] at asItIs back
        simp [Json.ofOption, read?, written, asItIs, back]
  valid_of_read json filter? given := by
    unfold read? at given
    split at given
    · cases given
      rintro filter ⟨⟩
    · split at given
      · cases given
        rintro filter ⟨⟩
        exact .all
      · obtain ⟨filter, isFilter, rfl⟩ := Option.map_eq_some_iff.mp given
        rintro other ⟨⟩
        exact representable_of_readTagged? isFilter
    · obtain ⟨filter, isFilter, rfl⟩ := Option.map_eq_some_iff.mp given
      rintro other ⟨⟩
      exact representable_of_readTagged? isFilter
  merged filter? all := by
    cases filter? with
    | none => exact .null
    | some filter => exact merged_toJson (all filter rfl)

end Filter

/-- Clauses with identifiers and numbers of 64 bits and values that repeat no key. -/
structure Query.Representable (query : Query) : Prop where
  sourceTable : Json.Int64 query.sourceTable
  filter : ∀ filter ∈ query.filter, filter.Representable
  aggregation : query.aggregation.Representable
  breakout : ∀ field ∈ query.breakout, field.Representable
  orderBy : ∀ key ∈ query.orderBy, key.field.Representable
  fields : ∀ field ∈ query.fields, field.Representable
  limit : ∀ limit ∈ query.limit, Json.Unsigned 64 limit
  page : ∀ page ∈ query.page, page.Representable

theorem codec_limit :
    Codec (fun limit? => ∀ limit ∈ limit?, Json.Unsigned 64 limit)
      (Json.nullable (Json.readUnsigned? 64)) (Json.ofOption Json.ofNat) :=
  (codec_unsigned 64).nullable nofun

theorem codec_page :
    Codec (fun page? => ∀ page ∈ page?, page.Representable) (Json.nullable Page.read?)
      (Json.ofOption Page.toJson) :=
  Page.codec.nullable nofun

theorem Query.codec : Codec Representable read? toJson where
  read_write query valid := by
    simp [toJson, read?, Json.record?_object, Json.lookup?,
      codec_int64.read_write query.sourceTable valid.sourceTable,
      Filter.codec.read_write query.filter valid.filter,
      Aggregation.codec.read_write query.aggregation valid.aggregation,
      FieldRef.codec.list.read_write query.breakout valid.breakout,
      OrderKey.codec.list.read_write query.orderBy valid.orderBy,
      FieldRef.codec.list.read_write query.fields valid.fields,
      codec_limit.read_write query.limit valid.limit,
      codec_page.read_write query.page valid.page]
  valid_of_read json query given := by
    obtain ⟨record, -, given⟩ := Option.bind_eq_some_iff.mp given
    obtain ⟨sourceTable, isTable, given⟩ := Option.bind_eq_some_iff.mp given
    obtain ⟨filter, isFilter, given⟩ := Option.bind_eq_some_iff.mp given
    obtain ⟨aggregation, isAggregation, given⟩ := Option.bind_eq_some_iff.mp given
    obtain ⟨breakout, isBreakout, given⟩ := Option.bind_eq_some_iff.mp given
    obtain ⟨orderBy, isOrder, given⟩ := Option.bind_eq_some_iff.mp given
    obtain ⟨fields, areFields, given⟩ := Option.bind_eq_some_iff.mp given
    obtain ⟨limit, isLimit, given⟩ := Option.bind_eq_some_iff.mp given
    obtain ⟨page, isPage, given⟩ := Option.bind_eq_some_iff.mp given
    obtain rfl := Option.some.inj given
    exact
      { sourceTable := codec_int64.valid_of_required isTable
        filter := Filter.codec.valid_of_defaulted (by simp) isFilter
        aggregation := Aggregation.codec.valid_of_defaulted (by rintro _ ⟨⟩) isAggregation
        breakout := FieldRef.codec.list.valid_of_defaulted (by simp) isBreakout
        orderBy := OrderKey.codec.list.valid_of_defaulted (by simp) isOrder
        fields := FieldRef.codec.list.valid_of_defaulted (by simp) areFields
        limit := codec_limit.valid_of_defaulted (by simp) isLimit
        page := codec_page.valid_of_defaulted (by simp) isPage }
  merged query valid := by
    have ofFilter := Filter.codec.merged query.filter valid.filter
    have ofAggregation := Aggregation.codec.merged query.aggregation valid.aggregation
    have ofBreakout := FieldRef.codec.list.merged query.breakout valid.breakout
    have ofOrder := OrderKey.codec.list.merged query.orderBy valid.orderBy
    have ofFields := FieldRef.codec.list.merged query.fields valid.fields
    have ofLimit := codec_limit.merged query.limit valid.limit
    have ofPage := codec_page.merged query.page valid.page
    exact .object (by simp) (by
      simp [Json.Merged.whole, ofFilter, ofAggregation, ofBreakout, ofOrder, ofFields, ofLimit,
        ofPage])

/-- A request with identifiers and numbers of 64 bits and values that repeat no key. -/
structure Request.Representable (request : Request) : Prop where
  databaseId : Json.Int64 request.databaseId
  query : request.query.Representable

theorem Request.codec : Codec Representable read? toJson where
  read_write request valid := by
    simp [toJson, read?, Json.record?_object, Json.lookup?,
      codec_int64.read_write request.databaseId valid.databaseId,
      Query.codec.read_write request.query valid.query]
  valid_of_read json request given := by
    obtain ⟨record, -, given⟩ := Option.bind_eq_some_iff.mp given
    obtain ⟨databaseId, isId, given⟩ := Option.bind_eq_some_iff.mp given
    obtain ⟨query, isQuery, given⟩ := Option.bind_eq_some_iff.mp given
    obtain rfl := Option.some.inj given
    exact ⟨codec_int64.valid_of_required isId, Query.codec.valid_of_required isQuery⟩
  merged request valid := by
    have ofQuery := Query.codec.merged request.query valid.query
    exact .object (by simp) (by simp [Json.Merged.whole, ofQuery])

/-- What is written of a request reads as that request. Every JSON value that is read as a request
is read as one that can be written, so writing it again gives a form that reads as the same. -/
theorem Request.read_back_from_json :
    (∀ request : Request, request.Representable →
        Request.read? request.toJson = some request) ∧
      ∀ (json : Json) (request : Request), Request.read? json = some request →
        request.Representable ∧ Request.read? request.toJson = some request := by
  refine ⟨Request.codec.read_write, fun json request given => ?_⟩
  have valid : request.Representable := Request.codec.valid_of_read json request given
  exact ⟨valid, Request.codec.read_write request valid⟩

/-- A value that looks like a filter itself. -/
def filterLike : Json :=
  .object [("op", .string "and"), ("clauses", .array [.null, .bool false])]

/-- A filter that nests and compares with such a value. -/
def nestedFilter : Filter :=
  .not (.or
    [.and [],
      .compare .lessOrEqual (.through 7 2) filterLike,
      .between (.direct (-4)) .null (.whole 18446744073709551615),
      .and [.startsWith (.direct 5) "op", .all]])

/-- A request with every clause but a list of fields. -/
def nestedRequest : Request where
  databaseId := 1
  query :=
    { sourceTable := 3
      filter := some nestedFilter
      aggregation := .average (.through 7 9)
      breakout := [.direct 5, .through 7 2]
      orderBy := [⟨.through 7 2, .descending⟩]
      fields := []
      limit := some 10
      page := some ⟨25, 0⟩ }

theorem nestedFilter_representable : nestedFilter.Representable := by
  have ofValue : filterLike.Merged := by
    have listed : (Json.array [.null, .bool false]).Merged :=
      .array (by simp [Json.Merged.null, Json.Merged.bool])
    exact .object (by simp) (by simp [Json.Merged.string, listed])
  have compared : (Filter.compare .lessOrEqual (.through 7 2) filterLike).Representable :=
    .compare (by simp [FieldRef.Representable, Json.Int64]) ofValue
  have ranged : (Filter.between (.direct (-4)) .null (.whole 18446744073709551615)).Representable :=
    .between (by simp [FieldRef.Representable, Json.Int64]) .null .whole
  have started : (Filter.startsWith (.direct 5) "op").Representable :=
    .startsWith (by simp [FieldRef.Representable, Json.Int64])
  refine .not (.or ?_)
  simp only [List.forall_mem_cons]
  exact ⟨.and (by simp), compared, ranged, .and (by simp [started, Filter.Representable.all]),
    by simp⟩

theorem nestedRequest_read_back :
    nestedRequest.Representable ∧ Request.read? nestedRequest.toJson = some nestedRequest := by
  have valid : nestedRequest.Representable :=
    { databaseId := by simp [nestedRequest, Json.Int64]
      query :=
        { sourceTable := by simp [nestedRequest, Json.Int64]
          filter := by rintro _ ⟨⟩; exact nestedFilter_representable
          aggregation := by rintro _ ⟨⟩; simp [FieldRef.Representable, Json.Int64]
          breakout := by simp [nestedRequest, FieldRef.Representable, Json.Int64]
          orderBy := by simp [nestedRequest, FieldRef.Representable, Json.Int64]
          fields := by simp [nestedRequest]
          limit := by simp [nestedRequest, Json.Unsigned]
          page := by rintro _ ⟨⟩; constructor <;> simp [Json.Unsigned] } }
  exact ⟨valid, Request.read_back_from_json.1 nestedRequest valid⟩

end CrossQuery
