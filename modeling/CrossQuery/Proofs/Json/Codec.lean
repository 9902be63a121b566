import CrossQuery.Json.Shape
import CrossQuery.Proofs.Json.Merged

/-!
# Readers and writers that fit

A reader and a writer of one kind of data fit when what is written of a valid value reads as that
value and only valid values are read. Fitting pairs compose: of lists, of values that may be
absent, and of the fields of a record.
-/

set_option autoImplicit false

namespace CrossQuery.Json

variable {α : Type}

/-- A reader and a writer of the same data. -/
structure Codec (valid : α → Prop) (read : Json → Option α) (write : α → Json) : Prop where
  /-- What is written of a valid value reads as that value. -/
  read_write : ∀ value, valid value → read (write value) = some value
  /-- Only valid values are read. -/
  valid_of_read : ∀ json value, read json = some value → valid value
  /-- What is written of a valid value repeats no key. -/
  merged : ∀ value, valid value → (write value).Merged

/-- Whole numbers that fit 64 bits with a sign. -/
def Int64 (value : Int) : Prop :=
  -9223372036854775808 ≤ value ∧ value ≤ 9223372036854775807

theorem readWhole?_eq_some {least greatest value : Int} {json : Json} :
    readWhole? least greatest json = some value ↔
      json = .whole value ∧ least ≤ value ∧ value ≤ greatest := by
  cases json with
  | whole given =>
      simp only [readWhole?, Option.ite_none_right_eq_some, Option.some.injEq, whole.injEq]
      exact ⟨fun ⟨bounds, same⟩ => ⟨same, same ▸ bounds⟩,
        fun ⟨same, bounds⟩ => ⟨same ▸ bounds, same⟩⟩
  | _ => simp [readWhole?]

theorem codec_int64 : Codec Int64 readInt64? .whole where
  read_write _ bounds := readWhole?_eq_some.mpr ⟨rfl, bounds⟩
  valid_of_read _ _ read := (readWhole?_eq_some.mp read).2
  merged _ _ := .whole

/-- Naturals of the given number of bits. -/
def Unsigned (bits value : Nat) : Prop :=
  value < Nat.pow 2 bits

theorem codec_unsigned (bits : Nat) : Codec (Unsigned bits) (readUnsigned? bits) ofNat where
  read_write value bound := by
    have greatest : (value : Int) ≤ (Nat.pow 2 bits : Nat) - 1 := by
      unfold Unsigned at bound
      omega
    have whole : readWhole? 0 ((Nat.pow 2 bits : Nat) - 1) (ofNat value) = some (value : Int) :=
      readWhole?_eq_some.mpr ⟨rfl, Int.natCast_nonneg value, greatest⟩
    rw [readUnsigned?, whole, Option.map_some, Int.toNat_natCast]
  valid_of_read _ value read := by
    obtain ⟨whole, given, rfl⟩ := Option.map_eq_some_iff.mp read
    obtain ⟨-, least, greatest⟩ := readWhole?_eq_some.mp given
    show whole.toNat < Nat.pow 2 bits
    omega
  merged _ _ := .whole

/-- Any value without repeated keys stands for itself. -/
theorem codec_any : Codec Merged readAny? fun value => value where
  read_write _ merged := congrArg some merged.normalise_eq
  valid_of_read json _ read := Option.some.inj read ▸ merged_normalise json
  merged _ merged := merged

section Compound

variable {valid : α → Prop} {read : Json → Option α} {write : α → Json}

theorem mapM_map_write {values : List α}
    (back : ∀ value ∈ values, read (write value) = some value) :
    (values.map write).mapM read = some values := by
  induction values with
  | nil => rfl
  | cons value rest ih =>
      have first := back value List.mem_cons_self
      have others := ih fun other mem => back other (List.mem_cons_of_mem _ mem)
      simp [first, others]

theorem valid_of_mapM {items : List Json} {values : List α}
    (only : ∀ item value, read item = some value → valid value)
    (given : items.mapM read = some values) : ∀ value ∈ values, valid value := by
  induction items generalizing values with
  | nil =>
      obtain rfl : [] = values := Option.some.inj given
      simp
  | cons item rest ih =>
      rw [List.mapM_cons] at given
      obtain ⟨first, isFirst, given⟩ := Option.bind_eq_some_iff.mp given
      obtain ⟨others, areOthers, given⟩ := Option.bind_eq_some_iff.mp given
      obtain rfl : first :: others = values := Option.some.inj given
      exact List.forall_mem_cons.mpr ⟨only item first isFirst, ih areOthers⟩

theorem valid_of_readList? (only : ∀ item value, read item = some value → valid value)
    (json : Json) (values : List α) (given : readList? read json = some values) :
    ∀ value ∈ values, valid value := by
  cases json with
  | array items => exact valid_of_mapM only given
  | _ => cases given

/-- A list is read item by item. -/
theorem Codec.list (codec : Codec valid read write) :
    Codec (fun values => ∀ value ∈ values, valid value) (readList? read)
      (fun values => .array (values.map write)) where
  read_write values all :=
    mapM_map_write fun value mem => codec.read_write value (all value mem)
  valid_of_read := valid_of_readList? codec.valid_of_read
  merged values all := by
    refine .array fun item mem => ?_
    obtain ⟨value, among, rfl⟩ := List.mem_map.mp mem
    exact codec.merged value (all value among)

/-- The absence of a value is null, which no value is written as. -/
theorem Codec.nullable (codec : Codec valid read write)
    (present : ∀ value, write value ≠ .null) :
    Codec (fun value? => ∀ value ∈ value?, valid value) (nullable read) (ofOption write) where
  read_write value? all := by
    cases value? with
    | none => rfl
    | some value =>
        have back := codec.read_write value (all value rfl)
        simp only [ofOption]
        unfold Json.nullable
        split
        · rename_i null
          exact absurd null (present value)
        · rw [back, Option.map_some]
  valid_of_read json value? given := by
    unfold Json.nullable at given
    split at given
    · cases given
      simp
    · obtain ⟨value, reads, rfl⟩ := Option.map_eq_some_iff.mp given
      rintro other ⟨⟩
      exact codec.valid_of_read json value reads
  merged value? all := by
    cases value? with
    | none => exact .null
    | some value => exact codec.merged value (all value rfl)

theorem valid_of_required (only : ∀ item value, read item = some value → valid value)
    {record : Record} {name : String} {value : α}
    (given : record.required name read = some value) : valid value := by
  unfold Record.required at given
  split at given
  · exact only _ value given
  · cases given

theorem Codec.valid_of_required (codec : Codec valid read write) {record : Record}
    {name : String} {value : α} (given : record.required name read = some value) : valid value :=
  Json.valid_of_required codec.valid_of_read given

theorem Codec.valid_of_defaulted (codec : Codec valid read write) {record : Record}
    {name : String} {default value : α} (atDefault : valid default)
    (given : record.defaulted name default read = some value) : valid value := by
  unfold Record.defaulted at given
  split at given
  · exact codec.valid_of_read _ value given
  · exact Option.some.inj given ▸ atDefault

end Compound

section Records

variable {names : List String} {name : String} {entries : List (String × Json)}

@[simp] theorem required_slotOfEntry (read : Json → Option α) :
    Record.required ⟨slotOfEntry entries⟩ name read = (lookup? name entries).bind read := by
  simp only [Record.required, slotOfEntry]
  cases lookup? name entries <;> rfl

@[simp] theorem defaulted_slotOfEntry (default : α) (read : Json → Option α) :
    Record.defaulted ⟨slotOfEntry entries⟩ name default read =
      (lookup? name entries).elim (some default) read := by
  simp only [Record.defaulted, slotOfEntry]
  cases lookup? name entries <;> rfl

theorem namesOnce_of_nodup (distinct : (entries.map Prod.fst).Nodup) :
    namesOnce names entries = true := by
  refine List.all_eq_true.mpr fun name _ => decide_eq_true ?_
  have once := List.nodup_iff_count_le_one.mp distinct name
  rwa [List.count, List.countP_map, List.countP_eq_length_filter] at once

/-- An object without repeated keys is a record of its entries. -/
theorem record?_object (distinct : (entries.map Prod.fst).Nodup) :
    (Json.object entries).record? names = some ⟨slotOfEntry entries⟩ :=
  if_pos (namesOnce_of_nodup distinct)

/-- A tag in front of other entries is the tag of the object. -/
theorem tagged?_object {key : String} (tag : Json) (fresh : key ∉ entries.map Prod.fst) :
    (Json.object ((key, tag) :: entries)).tagged? key = some (tag, .object entries) := by
  have others : ∀ entry ∈ entries, entry.1 ≠ key := fun entry mem same =>
    fresh (same ▸ List.mem_map_of_mem mem)
  have noTag : entries.filter (·.1 == key) = [] :=
    List.filter_eq_nil_iff.mpr fun entry mem => by simpa using others entry mem
  have allOthers : entries.filter (·.1 != key) = entries :=
    List.filter_eq_self.mpr fun entry mem => by simpa using others entry mem
  simp [tagged?, noTag, allOthers]

end Records

end CrossQuery.Json
