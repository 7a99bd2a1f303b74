import Introspect.Proofs.LiveValue.Laws
import Introspect.Proofs.Profile.Discovery
import Introspect.Record.Stock

/-!
# Records keep the laws

The bodies that a record gives its fields are replacements of one named value among others, so they
keep all the laws of accessors: a write that fails changes nothing, reading and writing a field are
two sides of one thing, and fields do not interfere. What a type needs for that is a declaration in
which no identifier and no described name stands twice.

Main results:

* `Record.writeField_atomic`: writes to fields are atomic.
* `Record.field_isLens`: reading and writing a field are two sides of one thing.
* `Catalog.laws_of_records`: the profiles of records keep the laws.

Parcels are a sample: the address that a parcel comes from can be read and not written, and the one
that it goes to may be absent.
-/

namespace Introspect

/-! ## Named values -/

section NamedValues

variable {entries : List (String × Option Value)} {name other : String}
  {value content : Option Value}

/-- Putting a value under a name leaves the names and their order as they are. -/
theorem map_fst_replaceNamed :
    (replaceNamed entries name value).map Prod.fst = entries.map Prod.fst := by
  unfold replaceNamed
  rw [List.map_map]
  refine List.map_congr_left fun entry _ => ?_
  show (if entry.1 = name then (name, value) else entry).1 = entry.1
  split
  · rename_i hName
    exact hName.symm
  · rfl

/-- What is found under any name after one value was put under a name. -/
theorem lookup_replaceNamed :
    (replaceNamed entries name value).lookup other =
      if other = name then (entries.lookup other).map fun _ => value else entries.lookup other := by
  unfold replaceNamed
  -- by the entries: the first one keeps its name, whatever it holds afterwards
  induction entries with
  | nil => simp
  | cons entry rest ih =>
    obtain ⟨key, held⟩ := entry
    have hFirst : (if key = name then (name, value) else (key, held)) =
        (key, if key = name then value else held) := by
      split
      · rename_i hKey
        rw [hKey]
      · rfl
    rw [List.map_cons, hFirst, List.lookup_cons, List.lookup_cons, ih]
    by_cases hOther : other = key
    · subst hOther
      rw [beq_self_eq_true]
      show some (if other = name then value else held) =
        if other = name then some value else some held
      split <;> rfl
    · rw [beq_eq_false_iff_ne.mpr hOther]

/-- A value that was put under a name is found there. -/
theorem namedValue_replaceNamed_self (hName : name ∈ entries.map Prod.fst) :
    namedValue (replaceNamed entries name value) name = value := by
  obtain ⟨entry, hEntry, hSame⟩ := List.mem_map.mp hName
  have hHeld : entries.lookup name ≠ none := by
    rw [Ne, List.lookup_eq_none_iff]
    intro hNone
    have := hNone entry hEntry
    simp [hSame] at this
  obtain ⟨held, hHeld⟩ := Option.ne_none_iff_exists'.mp hHeld
  unfold namedValue
  rw [lookup_replaceNamed, if_pos rfl, hHeld]
  rfl

theorem namedValue_replaceNamed_of_ne (hOther : other ≠ name) :
    namedValue (replaceNamed entries name value) other = namedValue entries other := by
  unfold namedValue
  rw [lookup_replaceNamed, if_neg hOther]

/-- Where every name stands once, each entry is found. -/
theorem namedValue_of_mem {entry : String × Option Value}
    (hNodup : (entries.map Prod.fst).Nodup) (hEntry : entry ∈ entries) :
    namedValue entries entry.1 = entry.2 := by
  unfold namedValue
  induction entries with
  | nil => cases hEntry
  -- by the entries; the one in question is the first or stands behind it
  | cons first rest ih =>
    rw [List.map_cons, List.nodup_cons] at hNodup
    rcases List.mem_cons.mp hEntry with rfl | hRest
    · rw [List.lookup_cons, beq_self_eq_true]
      rfl
    · -- an entry farther back has another name than the first
      have hOther : entry.1 ≠ first.1 := by
        intro hSame
        exact hNodup.1 (hSame ▸ List.mem_map_of_mem hRest)
      rw [List.lookup_cons, beq_eq_false_iff_ne.mpr hOther]
      exact ih hNodup.2 hRest

/-- Putting back the value of a name changes nothing. -/
theorem replaceNamed_namedValue (hNodup : (entries.map Prod.fst).Nodup) :
    replaceNamed entries name (namedValue entries name) = entries := by
  unfold replaceNamed
  refine (List.map_congr_left fun entry hEntry => ?_).trans (List.map_id entries)
  show (if entry.1 = name then (name, namedValue entries name) else entry) = entry
  split
  · rename_i hName
    rw [← hName, namedValue_of_mem hNodup hEntry]
  · rfl

/-- Of two values put under one name the second stays. -/
theorem replaceNamed_replaceNamed :
    replaceNamed (replaceNamed entries name value) name content =
      replaceNamed entries name content := by
  unfold replaceNamed
  rw [List.map_map]
  refine List.map_congr_left fun entry _ => ?_
  by_cases hName : entry.1 = name <;> simp [hName]

/-- Values under different names are put there in any order. -/
theorem replaceNamed_comm (hOther : other ≠ name) :
    replaceNamed (replaceNamed entries name value) other content =
      replaceNamed (replaceNamed entries other content) name value := by
  unfold replaceNamed
  rw [List.map_map, List.map_map]
  -- an entry has one of the two names or neither, and they are different
  refine List.map_congr_left fun entry _ => ?_
  by_cases hName : entry.1 = name
  · simp [hName, hOther.symm]
  · by_cases hSame : entry.1 = other <;> simp [hName, hSame, hOther]

end NamedValues

/-! ## The bodies of a field -/

namespace Record

variable {record : Record} {field other : RecordField} {instance_ after : Value}
  {value : Option Value} {fields : List (String × Option Value)}

/-- No identifier and no described name stands twice. -/
structure Distinct (record : Record) : Prop where
  idents : (record.fields.map RecordField.ident).Nodup
  names : (record.describedFields.map RecordField.name).Nodup

theorem mem_fields_of_described (h : field ∈ record.describedFields) : field ∈ record.fields :=
  List.mem_of_mem_filter h

/-- An instance of a record is a value of its own identifier and type with all the fields declared.
-/
theorem instanceFields?_eq_some_iff :
    record.instanceFields? instance_ = some fields ↔
      instance_ = .record record.ident record.type fields ∧
        fields.map Prod.fst = record.fields.map RecordField.ident := by
  cases instance_ with
  | record ident type held =>
    unfold instanceFields?
    rw [Option.ite_none_right_eq_some]
    constructor
    · rintro ⟨⟨rfl, rfl, hFields⟩, hSame⟩
      cases hSame
      exact ⟨rfl, hFields⟩
    · rintro ⟨hSame, hFields⟩
      cases hSame
      exact ⟨⟨rfl, rfl, hFields⟩, rfl⟩
  | _ => simp [instanceFields?]

/-- What is stored is what was written. -/
theorem takeField_eq_ok {stored : Option Value} (h : takeField field value = .ok stored) :
    stored = value := by
  unfold takeField Shape.takeOptional Shape.take at h
  cases value with
  | none =>
    -- only an optional field takes a value that is absent
    split at h
    · exact (Except.ok.inj h).symm
    · cases h
  | some held =>
    by_cases hShape : held.shape = field.shape
    -- a value of the field's shape is stored as it is, and any other is refused
    · simp only [hShape, if_true, Except.map] at h
      split at h <;> cases h <;> rfl
    · simp only [hShape, if_false, Except.map] at h
      split at h <;> cases h

/-- A field is read from instances of the record alone, and reads as what they hold under its
identifier. -/
theorem readField_eq_ok_iff :
    record.readField field instance_ = .ok value ↔
      ∃ fields, record.instanceFields? instance_ = some fields ∧
        value = namedValue fields field.ident := by
  unfold readField
  cases record.instanceFields? instance_ with
  | none => simp
  | some fields => simp [eq_comm]

/-- A field is written where the instance is one of the record and the field takes the value. -/
theorem writeField_eq_ok_iff :
    record.writeField field instance_ value = (after, .ok ()) ↔
      ∃ fields, record.instanceFields? instance_ = some fields ∧
        takeField field value = .ok value ∧
        after = .record record.ident record.type (replaceNamed fields field.ident value) := by
  unfold writeField
  cases record.instanceFields? instance_ with
  | none => simp
  | some fields =>
    cases hTake : takeField field value with
    | error cause => simp
    | ok stored =>
      obtain rfl := takeField_eq_ok hTake
      simp [eq_comm]

/-- A write to a field leaves an instance of the record. -/
theorem instanceFields?_replaceNamed {name : String}
    (h : record.instanceFields? instance_ = some fields) :
    record.instanceFields? (.record record.ident record.type (replaceNamed fields name value)) =
      some (replaceNamed fields name value) := by
  rw [instanceFields?_eq_some_iff] at h ⊢
  exact ⟨rfl, map_fst_replaceNamed.trans h.2⟩

/-- **A write to a field that fails changes nothing.** -/
theorem writeField_atomic (record : Record) (field : RecordField) :
    Writer.Atomic (record.writeField field) := by
  intro instance_ value after cause hFails
  unfold writeField at hFails
  split at hFails
  · -- the instance is not one of the record, and is handed back
    cases hFails
    rfl
  · -- the field does not take the value, and the instance is handed back as well
    split at hFails <;> cases hFails
    rfl

/-- **Reading and writing a field of a record are two sides of one thing.** -/
theorem field_isLens {reading writing : Accessor Value} (hRecord : record.Distinct)
    (hField : field ∈ record.fields) (hReading : reading.get = record.readField field)
    (hWriting : writing.set = record.writeField field) : reading.IsLens writing where
  put_get := by
    intro object value after hSet
    rw [hWriting, writeField_eq_ok_iff] at hSet
    obtain ⟨fields, hInstance, -, rfl⟩ := hSet
    rw [hReading, readField_eq_ok_iff]
    refine ⟨_, instanceFields?_replaceNamed hInstance, ?_⟩
    -- an instance has all the fields that are declared, so there is a value to replace
    have hNames := (instanceFields?_eq_some_iff.mp hInstance).2
    have hMem : field.ident ∈ fields.map Prod.fst := by
      rw [hNames]
      exact List.mem_map_of_mem hField
    exact (namedValue_replaceNamed_self hMem).symm
  get_put := by
    intro object value after hGet hSet
    rw [hReading, readField_eq_ok_iff] at hGet
    rw [hWriting, writeField_eq_ok_iff] at hSet
    obtain ⟨fields, hInstance, rfl⟩ := hGet
    obtain ⟨fields', hInstance', -, rfl⟩ := hSet
    obtain rfl : fields = fields' := Option.some.inj (hInstance.symm.trans hInstance')
    obtain ⟨rfl, hNames⟩ := instanceFields?_eq_some_iff.mp hInstance
    -- no identifier stands twice, so the value is put back where it was found
    have hNodup : (fields.map Prod.fst).Nodup := by
      rw [hNames]
      exact hRecord.idents
    rw [replaceNamed_namedValue hNodup]
  put_put := by
    intro object first second between after hFirst hSecond
    rw [hWriting, writeField_eq_ok_iff] at hFirst hSecond ⊢
    obtain ⟨fields, hInstance, -, rfl⟩ := hFirst
    obtain ⟨fields', hInstance', hTake, rfl⟩ := hSecond
    rw [instanceFields?_replaceNamed hInstance] at hInstance'
    obtain rfl := Option.some.inj hInstance'
    -- whether a field takes a value does not depend on what it holds
    exact ⟨fields, hInstance, hTake, by rw [replaceNamed_replaceNamed]⟩

/-- Two fields of one identifier are one field. -/
theorem Distinct.eq_of_ident_eq (h : record.Distinct) (hField : field ∈ record.fields)
    (hOther : other ∈ record.fields) (hSame : field.ident = other.ident) : field = other :=
  List.inj_on_of_nodup_map h.idents hField hOther hSame

/-- Two described fields of one name are one field. -/
theorem Distinct.eq_of_name_eq (h : record.Distinct) (hField : field ∈ record.describedFields)
    (hOther : other ∈ record.describedFields) (hSame : field.name = other.name) : field = other :=
  List.inj_on_of_nodup_map h.names hField hOther hSame

/-- Described fields of different names have different identifiers. -/
theorem Distinct.ident_ne (h : record.Distinct) (hField : field ∈ record.describedFields)
    (hOther : other ∈ record.describedFields) (hNames : field.name ≠ other.name) :
    other.ident ≠ field.ident := by
  intro hSame
  obtain rfl := h.eq_of_ident_eq (mem_fields_of_described hOther) (mem_fields_of_described hField)
    hSame
  exact hNames rfl

/-- Writing one field leaves another as it reads. -/
theorem readField_writeField (hOther : other.ident ≠ field.ident)
    (hWrite : record.writeField field instance_ value = (after, .ok ())) :
    record.readField other after = record.readField other instance_ := by
  obtain ⟨fields, hInstance, -, rfl⟩ := writeField_eq_ok_iff.mp hWrite
  unfold readField
  rw [instanceFields?_replaceNamed hInstance, hInstance]
  show Except.ok (namedValue (replaceNamed fields field.ident value) other.ident) = _
  rw [namedValue_replaceNamed_of_ne hOther]

/-- Two fields are written in any order. -/
theorem writeField_comm {content : Option Value} {first second both both' : Value}
    (hOther : other.ident ≠ field.ident)
    (hFirst : record.writeField field instance_ value = (first, .ok ()))
    (hBoth : record.writeField other first content = (both, .ok ()))
    (hSecond : record.writeField other instance_ content = (second, .ok ()))
    (hBoth' : record.writeField field second value = (both', .ok ())) : both = both' := by
  obtain ⟨fields, hInstance, -, rfl⟩ := writeField_eq_ok_iff.mp hFirst
  obtain ⟨fields', hInstance', -, rfl⟩ := writeField_eq_ok_iff.mp hSecond
  obtain rfl : fields = fields' := Option.some.inj (hInstance.symm.trans hInstance')
  obtain ⟨one, hOne, -, rfl⟩ := writeField_eq_ok_iff.mp hBoth
  obtain ⟨two, hTwo, -, rfl⟩ := writeField_eq_ok_iff.mp hBoth'
  rw [instanceFields?_replaceNamed hInstance] at hOne hTwo
  cases hOne
  cases hTwo
  rw [replaceNamed_comm hOther]

/-! ## The profile of a record -/

section Profiles

variable {source : Source Value} {type : TypeName} {profile : Profile Value} {newInstance : Value}

/-- A record extends nothing, so the chain from it upwards is the record alone. -/
theorem superclassChain_of_record {owner : Described Value}
    (hDescribed : source.describe type = some (record.describe newInstance))
    (hOwner : owner ∈ source.superclassChain [] type) :
    owner = (type, record.describe newInstance) := by
  rw [Source.superclassChain] at hOwner
  split at hOwner
  · cases hOwner
  · split at hOwner
    · cases hOwner
    · rename_i description hFound
      rw [hDescribed] at hFound
      cases hFound
      exact List.mem_singleton.mp hOwner

/-- A record has no methods, its own or inherited, that could be accessors. -/
theorem candidates_of_record
    (hDescribed : source.describe type = some (record.describe newInstance)) :
    source.candidates type = [] := by
  unfold Source.candidates
  rw [Source.methodOwners]
  split
  · rfl
  · split
    · rfl
    · rename_i description hFound
      rw [hDescribed] at hFound
      cases hFound
      -- a record extends nothing, and it has no methods of its own
      have hInterfaces :
          source.interfacesOf [] type (record.describe newInstance) = [] := by
        unfold Source.interfacesOf
        exact Source.walk.eq_1 ..
      simp only [hInterfaces]
      rfl

/-- The field that a described member of the chain comes from. -/
theorem of_mem_chainFields {declared : TypeName × Field Value}
    (hDescribed : source.describe type = some (record.describe newInstance))
    (hDeclared : declared ∈ source.chainFields type) :
    ∃ field ∈ record.describedFields, declared = (type, record.describeField field) := by
  obtain ⟨owner, hOwner, hType, hField⟩ := Source.mem_chainFields_iff.mp hDeclared
  obtain rfl := superclassChain_of_record hDescribed hOwner
  obtain ⟨field, hMem, hSame⟩ := List.mem_map.mp hField
  exact ⟨field, hMem, Prod.ext hType hSame.symm⟩

/-- A property that is found in the profile of a record is a field of its name. -/
theorem exists_field_of_find? {name : String} {property : Property Value}
    {keep : TypeName × Field Value → Bool}
    (hDescribed : source.describe type = some (record.describe newInstance))
    (hFirst : ∃ declared, ((source.chainFields type).filter keep).find? (·.2.name == name) =
      some declared ∧ property = source.fieldProperty type declared) :
    ∃ field ∈ record.describedFields, field.name = name ∧
      keep (type, record.describeField field) = true ∧
      property.accessor = .ofField type (record.describeField field) := by
  obtain ⟨declared, hFound, rfl⟩ := hFirst
  obtain ⟨hMem, hKeep⟩ := List.mem_filter.mp (List.mem_of_find?_eq_some hFound)
  have hName := List.find?_some hFound
  obtain ⟨field, hField, rfl⟩ := of_mem_chainFields hDescribed hMem
  exact ⟨field, hField, beq_iff_eq.mp hName, hKeep, rfl⟩

/-- **What a record's profile reads** are its fields. -/
theorem reads_of_profile {name : String} {property : Property Value}
    (hDescribed : source.describe type = some (record.describe newInstance))
    (hProfile : source.profile type = .ok profile)
    (hFound : profile.readable.find? name = some property) :
    ∃ field ∈ record.describedFields, field.name = name ∧
      property.accessor.get = record.readField field := by
  obtain ⟨getters, readers, writers, hMakes⟩ := Source.profile_makes hProfile
  -- a property comes from a method or from a field, and a record has no methods
  rcases Source.backed_of_parts hMakes.readers_settled hMakes.readable_lists hFound with
    ⟨claim, hClaim, -⟩ | ⟨-, hField⟩
  · -- there is no method that the property could come from
    rw [candidates_of_record hDescribed] at hClaim
    cases hClaim
  · rw [← List.filter_true (source.chainFields type)] at hField
    obtain ⟨field, hMem, hName, -, hAccessor⟩ := exists_field_of_find? hDescribed hField
    exact ⟨field, hMem, hName, by rw [hAccessor]; rfl⟩

/-- **What a record's profile writes** are its fields. -/
theorem writes_of_profile {name : String} {property : Property Value}
    (hDescribed : source.describe type = some (record.describe newInstance))
    (hProfile : source.profile type = .ok profile)
    (hFound : profile.writable.find? name = some property) :
    ∃ field ∈ record.describedFields, field.name = name ∧
      property.accessor.writer? = some (record.writeField field) ∧
      property.accessor.set = record.writeField field := by
  obtain ⟨getters, readers, writers, hMakes⟩ := Source.profile_makes hProfile
  rcases Source.backed_of_parts hMakes.writers_settled hMakes.writable_lists hFound with
    ⟨claim, hClaim, -⟩ | ⟨-, hField⟩
  · -- there is no method that the property could come from
    rw [candidates_of_record hDescribed] at hClaim
    cases hClaim
  · obtain ⟨field, hMem, hName, hWritable, hAccessor⟩ := exists_field_of_find? hDescribed hField
    -- a field that counts as writable has a body that writes
    have hWriter : (record.describeField field).writer? = some (record.writeField field) := by
      unfold Source.isWritableField Field.isReadOnly describeField at hWritable
      unfold describeField
      cases hReadOnly : field.isReadOnly with
      | true => simp [hReadOnly] at hWritable
      | false => rfl
    refine ⟨field, hMem, hName, by rw [hAccessor]; exact hWriter, ?_⟩
    funext instance_ value
    rw [hAccessor]
    unfold Accessor.set
    rw [show (Accessor.ofField type (record.describeField field)).writer? = _ from hWriter]

/-- **The profile of a record writes atomically.** -/
theorem writesAtomically_of_profile
    (hDescribed : source.describe type = some (record.describe newInstance))
    (hProfile : source.profile type = .ok profile) : profile.WritesAtomically := by
  intro name property body hFound hBody
  obtain ⟨field, -, -, hWriter, -⟩ := writes_of_profile hDescribed hProfile hFound
  rw [hBody] at hWriter
  rw [Option.some.inj hWriter]
  exact writeField_atomic record field

/-- **The profile of a record is lawful.** -/
theorem lawful_of_profile (hRecord : record.Distinct)
    (hDescribed : source.describe type = some (record.describe newInstance))
    (hProfile : source.profile type = .ok profile) : profile.Lawful := by
  intro name reading writing hReading hWriting
  obtain ⟨field, hField, hName, hGet⟩ := reads_of_profile hDescribed hProfile hReading
  obtain ⟨field', hField', hName', -, hSet⟩ := writes_of_profile hDescribed hProfile hWriting
  obtain rfl := hRecord.eq_of_name_eq hField hField' (hName.trans hName'.symm)
  exact field_isLens hRecord (mem_fields_of_described hField) hGet hSet

/-- **The properties of a record are independent.** -/
theorem independent_of_profile (hRecord : record.Distinct)
    (hDescribed : source.describe type = some (record.describe newInstance))
    (hProfile : source.profile type = .ok profile) : profile.Independent where
  get_set := by
    rintro name other reading object value after hNames ⟨writing, hWriting, hSet⟩ hReading
    obtain ⟨field, hField, rfl, -, hWrite⟩ := writes_of_profile hDescribed hProfile hWriting
    obtain ⟨field', hField', rfl, hRead⟩ := reads_of_profile hDescribed hProfile hReading
    rw [hWrite] at hSet
    rw [hRead]
    exact readField_writeField (hRecord.ident_ne hField hField' hNames) hSet
  set_set := by
    rintro name other object value content first second both both' hNames
      ⟨writing, hWriting, hFirst⟩ ⟨writing', hWriting', hBoth⟩ ⟨again', hAgain', hSecond⟩
      ⟨again, hAgain, hBoth'⟩
    -- under each name one property is written, both times
    rw [hWriting] at hAgain
    rw [hWriting'] at hAgain'
    cases hAgain
    cases hAgain'
    obtain ⟨field, hField, rfl, -, hWrite⟩ := writes_of_profile hDescribed hProfile hWriting
    obtain ⟨field', hField', rfl, -, hWrite'⟩ := writes_of_profile hDescribed hProfile hWriting'
    rw [hWrite] at hFirst hBoth'
    rw [hWrite'] at hBoth hSecond
    exact writeField_comm (hRecord.ident_ne hField hField' hNames) hFirst hBoth hSecond hBoth'

end Profiles

end Record

/-! ## Catalogs of records -/

/-- **A catalog of records keeps the laws**, whatever type is asked for: one that is not described
has no properties. -/
theorem Catalog.laws_of_records {catalog : Catalog Value} {type : TypeName}
    {profile : Profile Value}
    (hRecords : ∀ description ∈ catalog.descriptions, ∃ record newInstance,
      Record.Distinct record ∧ description = record.describe newInstance)
    (hProfile : catalog.toSource.profile type = .ok profile) :
    profile.WritesAtomically ∧ profile.Lawful ∧ profile.Independent := by
  cases hDescribed : catalog.toSource.describe type with
  | some description =>
    obtain ⟨record, newInstance, hRecord, rfl⟩ :=
      hRecords description (List.mem_of_find?_eq_some hDescribed)
    exact ⟨Record.writesAtomically_of_profile hDescribed hProfile,
      Record.lawful_of_profile hRecord hDescribed hProfile,
      Record.independent_of_profile hRecord hDescribed hProfile⟩
  | none =>
    -- the profile is empty, so nothing is found in it
    unfold Source.profile at hProfile
    rw [hDescribed] at hProfile
    cases hProfile
    refine ⟨?_, ?_, ?_, ?_⟩
    · intro name property body hFound
      cases hFound
    · intro name reading writing hReading
      cases hReading
    · intro name other reading object value after hNames hSets hReading
      cases hReading
    · rintro name other object value content first second both both' hNames ⟨writing, hWriting, -⟩
      cases hWriting

namespace Sample

/-- A parcel: the address that it comes from, which stays as it is, the one that it goes to, and a
note. -/
def parcel : Record := Stock.record "Parcel" false
  [{ Stock.field "origin" (Stock.recordShape "Address") with isReadOnly := true },
    Stock.optionalField "target" (Stock.recordShape "Address"), Stock.field "note" .text]

/-- Parcels and addresses. -/
def parcelCatalog : Catalog Value :=
  ⟨[parcel.describe (parcel.initial []), Stock.address.describe (Stock.address.initial [])]⟩

/-- Parcels and addresses as their catalog describes them. -/
def parcels : Source Value := parcelCatalog.toSource

/-- The profile of parcels. -/
def parcelProfile : Profile Value :=
  match parcels.profile parcel.type with
  | .ok profile => profile
  | .error _ => .empty parcel.type

theorem profile_parcel : parcels.profile parcel.type = .ok parcelProfile := by
  have hBuilt : (parcels.profile parcel.type).isOk = true := by cbv
  exact profile_eq_profileOf hBuilt

/-- The catalog of parcels and addresses keeps the laws, as all catalogs of records do. -/
theorem parcels_laws {type : TypeName} {profile : Profile Value}
    (hProfile : parcels.profile type = .ok profile) :
    profile.WritesAtomically ∧ profile.Lawful ∧ profile.Independent := by
  refine Catalog.laws_of_records (fun description hDescription => ?_) hProfile
  rcases List.mem_pair.mp hDescription with rfl | rfl
  · exact ⟨parcel, _, ⟨by decide, by decide⟩, rfl⟩
  · exact ⟨Stock.address, _, ⟨by decide, by decide⟩, rfl⟩

/-- An address. -/
def address (city : String) (zip : Option String) : Value :=
  .record "Address" ⟨"Address"⟩ [("city", some (.text city)), ("zip", zip.map .text)]

/-- An address without a postal code. -/
def addressIn (city : String) : Value := address city none

/-- A parcel from Oslo. -/
def parcelTo (target : Option Value) : Value :=
  .record "Parcel" ⟨"Parcel"⟩
    [("origin", some (addressIn "Oslo")), ("target", target), ("note", some (.text "fragile"))]

/-- A parcel that is not addressed yet. -/
def blankParcel : Value := parcelTo none

/-- Sends a parcel to a city. -/
def send (parcel : Value) (city : String) : Inquiry Value (Value × Except PropertyError Unit) :=
  parcelProfile.writeAt parcel (.parse "target.city") (some (.text city))

/-- Puts a postal code on a parcel. -/
def code (parcel : Value) (zip : String) : Inquiry Value (Value × Except PropertyError Unit) :=
  parcelProfile.writeAt parcel (.parse "target.zip") (some (.text zip))

end Sample

end Introspect
