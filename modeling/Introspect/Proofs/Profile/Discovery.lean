import Mathlib
import Introspect.Catalog
import Introspect.Proofs.PropertyName
import Introspect.Proofs.Profile.Settlement
import Introspect.SlotBody

/-!
# Which properties a type has

The properties of a type are those that its methods name, and those that the fields of its class and
superclasses add. A method wins over any field, and a nearer field over one that is farther up.

Main results:

* `profile_makes`: a profile is made of the settled claims of methods, followed by fields.
* `profile_discovers`: which names are readable and writable, what backs them, and in which order
  they stand.

The orders of a shop are a sample on which this is seen: `Sample.order` shadows a field of the type
that it extends, has methods and fields that reserved names keep out, and a customer that is read
and never written.
-/

namespace Introspect

variable {V : Type} {source : Source V} {type : TypeName}

/-! ## The properties that methods name -/

namespace Candidate

/-- The method is a getter of the property: it takes nothing and returns something, and it is named
`getX`, or `isX` if what it returns is a truth value. -/
def Reads (source : Source V) (candidate : Candidate V) (name : String) : Prop :=
  candidate.method.parameters = [] ∧
    ∃ declared, candidate.method.returns? = some declared ∧
      ∃ rest, rest ≠ [] ∧ name = String.ofList (PropertyName.decapitalize rest) ∧
        (candidate.method.name.toList = "get".toList ++ rest ∨
          candidate.method.name.toList = "is".toList ++ rest ∧
            source.erase declared candidate.declaring = .bool)

/-- The method is a setter of the property: it takes one value and is named `setX`. -/
def Writes (candidate : Candidate V) (name : String) : Prop :=
  (∃ declared, candidate.method.parameters = [declared]) ∧
    ∃ rest, rest ≠ [] ∧ name = String.ofList (PropertyName.decapitalize rest) ∧
      candidate.method.name.toList = "set".toList ++ rest

end Candidate

namespace Source

/-- A candidate is a getter of the property that its name and its shape say, and of no other. -/
theorem getterProperty?_eq_some_iff {candidate : Candidate V} {name : String} :
    source.getterProperty? candidate = some name ↔ candidate.Reads source name := by
  unfold getterProperty? Candidate.Reads
  constructor
  · intro h
    -- the shape of the method comes first, and its name after that
    split at h
    · rename_i hShape
      rw [Bool.and_eq_true, List.isEmpty_iff] at hShape
      obtain ⟨declared, hReturns⟩ := Option.isSome_iff_exists.mp hShape.2
      refine ⟨hShape.1, declared, hReturns, ?_⟩
      rw [PropertyName.ofGetter?_eq_some_iff] at h
      simpa [Candidate.erasedReturn, hReturns] using h
    · cases h
  · rintro ⟨hParameters, declared, hReturns, hName⟩
    rw [if_pos (by simp [hParameters, hReturns]), PropertyName.ofGetter?_eq_some_iff]
    simpa [Candidate.erasedReturn, hReturns] using hName

/-- A candidate is a setter of the property that its name and its shape say, and of no other. -/
theorem setterProperty?_eq_some_iff {candidate : Candidate V} {name : String} :
    setterProperty? candidate = some name ↔ candidate.Writes name := by
  unfold setterProperty? Candidate.Writes
  -- a setter takes one value, which is what the list of parameters having one member says
  rw [← List.length_eq_one_iff, ← PropertyName.ofSetter?_eq_some_iff]
  split
  · rename_i hLength
    simp [hLength]
  · rename_i hLength
    simp [hLength]

/-! ## What a profile is made of -/

/-- A profile with the properties that methods read and write, claim by claim. -/
structure Makes (source : Source V) (type : TypeName) (profile : Profile V) (getters : Table V)
    (readers writers : List (String × Property V)) : Prop where
  type_eq : profile.type = type
  readers_settled : List.Forall₂
    (fun claim pair => pair.1 = claim.property ∧ source.ReadsBy type claim pair.2)
    (source.getterClaims (source.candidates type)) readers
  getters_lists : getters.Lists (unreserved readers)
  writers_settled : List.Forall₂
    (fun claim pair => pair.1 = claim.property ∧ source.WritesBy type getters claim pair.2)
    (setterClaims (source.candidates type)) writers
  readable_lists : profile.readable.Lists
    (unreserved (readers ++ source.fieldPairs type (source.chainFields type)))
  writable_lists : profile.writable.Lists
    (unreserved (writers ++
      source.fieldPairs type ((source.chainFields type).filter (isWritableField ·.2))))
  spellings_eq : profile.spellings = .ofNames (profile.readable.names ++ profile.writable.names)

/-- Without a description there are no candidates. -/
theorem candidates_of_undescribed (h : source.describe type = none) :
    source.candidates type = [] := by
  unfold candidates
  rw [methodOwners]
  -- an undescribed type is walked no further, so its visits are over before they begin
  split
  · rfl
  · split
    · rfl
    · rename_i description hDescribed
      rw [h] at hDescribed
      cases hDescribed

/-- Without a description there are no fields. -/
theorem chainFields_of_undescribed (h : source.describe type = none) :
    source.chainFields type = [] := by
  unfold chainFields
  -- a chain does not begin at a type without a description either
  rw [superclassChain]
  split
  · rfl
  · split
    · rfl
    · rename_i description hDescribed
      rw [h] at hDescribed
      cases hDescribed

/-- **Every profile is made of settled claims and fields**, that of an undescribed type of none. -/
theorem profile_makes {profile : Profile V} (h : source.profile type = .ok profile) :
    ∃ getters readers writers, source.Makes type profile getters readers writers := by
  unfold Source.profile at h
  split at h
  · -- without a description there are neither candidates nor fields
    rename_i hNone
    cases h
    refine ⟨.empty, [], [], rfl, ?_, Table.lists_empty, ?_, ?_, ?_, rfl⟩
    · rw [candidates_of_undescribed hNone]
      exact List.Forall₂.nil
    · rw [candidates_of_undescribed hNone]
      exact List.Forall₂.nil
    · rw [chainFields_of_undescribed hNone]
      exact Table.lists_empty
    · rw [chainFields_of_undescribed hNone]
      exact Table.lists_empty
  · rename_i description hDescribed
    cases hGetters : source.methodGetters type with
    | error cause =>
      rw [hGetters] at h
      cases h
    | ok getters =>
      cases hSetters : source.methodSetters type getters with
      | error cause =>
        rw [hGetters] at h
        simp only [bind, Except.bind, hSetters] at h
        cases h
      | ok setters =>
        rw [hGetters] at h
        simp only [bind, Except.bind, hSetters] at h
        -- fields extend what the methods have listed
        obtain ⟨readers, hReaders, hRead⟩ := methodGetters_lists hGetters
        obtain ⟨writers, hWriters, hWritten⟩ := methodSetters_lists hSetters
        cases h
        exact ⟨getters, readers, writers, rfl, hReaders, hRead, hWriters,
          hRead.addFields source type _, hWritten.addFields source type _, rfl⟩

/-! ## Reading tables off their parts -/

/-- Fields are found by name, and of several the first is. -/
theorem lookup_fieldPairs (fields : List (TypeName × Field V)) (name : String) :
    (source.fieldPairs type fields).lookup name =
      (fields.find? (·.2.name == name)).map (source.fieldProperty type) := by
  unfold fieldPairs
  -- the list of fields and the list of their properties are searched in step
  induction fields with
  | nil => rfl
  | cons declared rest ih =>
    rw [List.map_cons, List.lookup_cons, List.find?_cons, ih]
    by_cases hSame : name = declared.2.name
    · simp [hSame]
    · simp [beq_eq_false_iff_ne.mpr hSame, beq_eq_false_iff_ne.mpr (Ne.symm hSame)]

section Parts

variable {property? : Candidate V → Option String} {candidates : List (Candidate V)}
  {backs : Claim V → Property V → Prop} {settled : List (String × Property V)}
  {fields : List (TypeName × Field V)} {table : Table V} {name : String}

/-- Each claim is settled for its own property. -/
theorem map_fst_settled {claims : List (Claim V)}
    (hSettled : List.Forall₂ (fun claim pair => pair.1 = claim.property ∧ backs claim pair.2)
      claims settled) : settled.map Prod.fst = claims.map Claim.property := by
  -- claim by claim, each with its own name
  induction hSettled with
  | nil => rfl
  | cons hHead _ ih => rw [List.map_cons, List.map_cons, hHead.1, ih]

/-- What is found among settled claims backs the claim of its name. -/
theorem of_lookup_settled {claims : List (Claim V)} {property : Property V}
    (hSettled : List.Forall₂ (fun claim pair => pair.1 = claim.property ∧ backs claim pair.2)
      claims settled) (hFound : settled.lookup name = some property) :
    ∃ claim ∈ claims, claim.property = name ∧ backs claim property := by
  induction hSettled with
  | nil => cases hFound
  | @cons claim pair claims settled hHead _ ih =>
    rw [List.lookup_cons] at hFound
    split at hFound
    · rename_i hSame
      cases hFound
      exact ⟨claim, List.mem_cons_self, by rw [← hHead.1, beq_iff_eq.mp hSame], hHead.2⟩
    · -- the name is another, and is looked for in what follows
      obtain ⟨other, hOther, hClaims⟩ := ih hFound
      exact ⟨other, List.mem_cons_of_mem _ hOther, hClaims⟩

/-- The names of a table are the names that methods claim, then those of fields, each once. -/
theorem names_of_parts
    (hSettled : List.Forall₂ (fun claim pair => pair.1 = claim.property ∧ backs claim pair.2)
      (Claim.gather property? candidates) settled)
    (hTable : table.Lists (unreserved (settled ++ source.fieldPairs type fields))) :
    table.names =
      ((candidates.filterMap property? ++ fields.map (·.2.name)).eraseDups).filter
        (!PropertyName.isReserved ·) := by
  -- what methods claim comes before the fields, whose names are listed behind
  have hMethods := (map_fst_settled hSettled).trans (Claim.map_property_gather _ _)
  have hFields : (source.fieldPairs type fields).map Prod.fst = fields.map (·.2.name) := by
    rw [fieldPairs, List.map_map]
    rfl
  calc table.names
      = ((settled ++ source.fieldPairs type fields).map Prod.fst |>.filter
          (!PropertyName.isReserved ·)).eraseDups := by
        rw [hTable.names_eq, unreserved, List.filter_map]
        -- names are listed once, and the reserved ones are left out before or after that
        rfl
    _ = ((candidates.filterMap property?).eraseDups ++ fields.map (·.2.name)).eraseDups.filter
          (!PropertyName.isReserved ·) := by
        rw [List.map_append, hMethods, hFields, ← filter_eraseDups]
    _ = _ := by rw [eraseDups_append_left]

/-- A name is in a table when a method claims it or a field has it, unless it is reserved. -/
theorem contains_of_parts
    (hSettled : List.Forall₂ (fun claim pair => pair.1 = claim.property ∧ backs claim pair.2)
      (Claim.gather property? candidates) settled)
    (hTable : table.Lists (unreserved (settled ++ source.fieldPairs type fields))) :
    table.contains name = true ↔
      PropertyName.isReserved name = false ∧
        ((∃ candidate ∈ candidates, property? candidate = some name) ∨
          ∃ declared ∈ fields, declared.2.name = name) := by
  -- the names of the parts tell what is in the table, and nothing more is needed of either
  rw [← hTable.mem_names_iff, names_of_parts hSettled hTable, List.mem_filter,
    List.mem_eraseDups, List.mem_append, List.mem_filterMap, List.mem_map, Bool.not_eq_true',
    and_comm]

/-- A method that claims a name backs it; where there is none, the first field of the name does. -/
theorem backed_of_parts {property : Property V}
    (hSettled : List.Forall₂ (fun claim pair => pair.1 = claim.property ∧ backs claim pair.2)
      (Claim.gather property? candidates) settled)
    (hTable : table.Lists (unreserved (settled ++ source.fieldPairs type fields)))
    (hFound : table.find? name = some property) :
    (∃ claim ∈ Claim.gather property? candidates, claim.property = name ∧ backs claim property) ∨
      (∀ candidate ∈ candidates, property? candidate ≠ some name) ∧
        ∃ declared, fields.find? (·.2.name == name) = some declared ∧
          property = source.fieldProperty type declared := by
  -- what is found has a name that is not reserved, so the list may be taken as a whole
  have hFree : PropertyName.isReserved name = false :=
    ((contains_of_parts hSettled hTable).mp (by rw [Table.contains, hFound]; rfl)).1
  rw [hTable.find?_eq, lookup_unreserved hFree, List.lookup_append, Option.or_eq_some_iff] at hFound
  rcases hFound with hMethod | ⟨hNone, hField⟩
  · -- the claims come first, so one of them is found before any field
    exact Or.inl (of_lookup_settled hSettled hMethod)
  · refine Or.inr ⟨?_, ?_⟩
    · -- every candidate is in a claim, and every claim was settled
      intro candidate hCandidate hClaims
      have hName : name ∈ settled.map Prod.fst := by
        rw [map_fst_settled hSettled, Claim.map_property_gather, List.mem_eraseDups,
          List.mem_filterMap]
        exact ⟨candidate, hCandidate, hClaims⟩
      obtain ⟨pair, hPair, hSame⟩ := List.mem_map.mp hName
      rw [List.lookup_eq_none_iff] at hNone
      have := hNone pair hPair
      simp [hSame] at this
    · -- the first field of the name
      rw [lookup_fieldPairs, Option.map_eq_some_iff] at hField
      obtain ⟨declared, hFirst, hProperty⟩ := hField
      exact ⟨declared, hFirst, hProperty.symm⟩

end Parts

end Source

/-! ## A sample -/

namespace Sample

/-- What all records of the shop have in common. -/
def entity : TypeName := ⟨"Entity"⟩

def customer : TypeName := ⟨"Customer"⟩

def order : TypeName := ⟨"Order"⟩

/-- A field over the slot of its own name. -/
def field (owner : TypeName) (name : String) (type : TypeName) (isWritable : Bool) : Field Value :=
  { name, type := .named type, isStatic := false, isFinal := false
    reader? := some (SlotBody.reader owner name)
    writer? := if isWritable then some (SlotBody.writer owner name .anything) else none }

/-- A method that nothing reads or writes through. -/
def method (name : String) (returns? : Option TypeName) (parameters : List TypeName) :
    Method Value :=
  { name, returns? := returns?.map .named, parameters := parameters.map .named, isBridge := false
    body? := none }

/-- The records of the shop: orders, and the customers that they are for. -/
def catalog : Catalog Value :=
  ⟨[{ Description.plain entity .concrete with
      fields := [field entity "id" ⟨"i64"⟩ true, field entity "$revision" ⟨"i64"⟩ true,
        { field entity "KIND" ⟨"String"⟩ false with isStatic := true, isFinal := true },
        field entity "TOTAL" ⟨"i64"⟩ true] },
    { Description.plain customer .concrete with fields := [field customer "name" ⟨"String"⟩ true] },
    { Description.plain order .concrete with
      superclass? := some (.named entity)
      methods := [method "getTotal" (some ⟨"i64"⟩) [], method "setTotal" none [⟨"i64"⟩],
        method "isOpen" (some .bool) [], method "getClass" (some ⟨"String"⟩) []]
      fields := [field order "customer" customer false, field order "id" ⟨"String"⟩ true] }]⟩

/-- The shop as its catalog describes it. -/
def shop : Source Value := catalog.toSource

/-- The profile of a type, for types that have one. -/
def profileOf (source : Source Value) (type : TypeName) : Profile Value :=
  match source.profile type with
  | .ok profile => profile
  | .error _ => .empty type

/-- A profile that is built is the one that the sample names. -/
theorem profile_eq_profileOf {source : Source Value} {type : TypeName}
    (hBuilt : (source.profile type).isOk = true) :
    source.profile type = .ok (profileOf source type) := by
  unfold profileOf
  cases hProfile : source.profile type with
  | ok profile => rfl
  | error cause =>
    rw [hProfile] at hBuilt
    cases hBuilt

/-- The profile of orders. -/
def orderProfile : Profile Value :=
  match shop.profile order with
  | .ok profile => profile
  | .error _ => .empty order

theorem profile_order : shop.profile order = .ok orderProfile := by
  have hBuilt : (shop.profile order).isOk = true := by cbv
  exact profile_eq_profileOf hBuilt

end Sample

namespace Source

/-! ## The main result -/

/-- Fields stand in the chain with the class that declares them. -/
theorem mem_chainFields_iff {declared : TypeName × Field V} :
    declared ∈ source.chainFields type ↔
      ∃ owner ∈ source.superclassChain [] type,
        declared.1 = owner.1 ∧ declared.2 ∈ owner.2.fields := by
  unfold chainFields
  rw [List.mem_flatMap]
  constructor
  · rintro ⟨owner, hOwner, hDeclared⟩
    obtain ⟨field, hField, rfl⟩ := List.mem_map.mp hDeclared
    exact ⟨owner, hOwner, rfl, hField⟩
  · rintro ⟨owner, hOwner, hType, hField⟩
    exact ⟨owner, hOwner, List.mem_map.mpr ⟨declared.2, hField, by rw [← hType]⟩⟩

/-- A field that meets a test stands on the chain exactly when one of its classes declares it. -/
theorem exists_chainFields_iff (test : Field V → Prop) :
    (∃ declared ∈ source.chainFields type, test declared.2) ↔
      ∃ owner ∈ source.superclassChain [] type, ∃ field ∈ owner.2.fields, test field := by
  constructor
  · rintro ⟨declared, hDeclared, hTest⟩
    obtain ⟨owner, hOwner, -, hField⟩ := mem_chainFields_iff.mp hDeclared
    exact ⟨owner, hOwner, declared.2, hField, hTest⟩
  · rintro ⟨owner, hOwner, field, hField, hTest⟩
    exact ⟨(owner.1, field), mem_chainFields_iff.mpr ⟨owner, hOwner, rfl, hField⟩, hTest⟩

/--
**A build discovers exactly the properties of a type.** A name that is not reserved is readable when
a candidate is a getter of it or a class of the chain declares a field of it, and writable when a
candidate is a setter of it or the chain declares such a field that is neither constant nor
read-only. A method backs the property wherever there is one, and otherwise the first such field of
the chain. Names stand in the order in which candidates, and after them fields, first mention them.
-/
theorem profile_discovers {profile : Profile V} (h : source.profile type = .ok profile) :
    (∀ name, profile.has .getter name = true ↔
      PropertyName.isReserved name = false ∧
        ((∃ candidate ∈ source.candidates type, candidate.Reads source name) ∨
          ∃ owner ∈ source.superclassChain [] type, ∃ field ∈ owner.2.fields,
            field.name = name)) ∧
    (∀ name, profile.has .setter name = true ↔
      PropertyName.isReserved name = false ∧
        ((∃ candidate ∈ source.candidates type, candidate.Writes name) ∨
          ∃ owner ∈ source.superclassChain [] type, ∃ field ∈ owner.2.fields,
            field.name = name ∧ field.isConstant = false ∧ field.isReadOnly = false)) ∧
    (∀ name property, profile.readable.find? name = some property →
      (∃ candidate ∈ source.candidates type, candidate.Reads source name ∧
        ∃ declared, candidate.method.returns? = some declared ∧
          property = source.methodProperty type candidate declared) ∨
      (∀ candidate ∈ source.candidates type, ¬candidate.Reads source name) ∧
        ∃ declared, (source.chainFields type).find? (·.2.name == name) = some declared ∧
          property = source.fieldProperty type declared) ∧
    (∀ name property, profile.writable.find? name = some property →
      (∃ candidate ∈ source.candidates type, candidate.Writes name ∧
        ∃ declared, candidate.method.parameters = [declared] ∧
          property = source.methodProperty type candidate declared) ∨
      (∀ candidate ∈ source.candidates type, ¬candidate.Writes name) ∧
        ∃ declared, ((source.chainFields type).filter (isWritableField ·.2)).find?
            (·.2.name == name) = some declared ∧
          property = source.fieldProperty type declared) ∧
    profile.readable.names =
      (((source.candidates type).filterMap source.getterProperty? ++
        (source.chainFields type).map (·.2.name)).eraseDups).filter
          (!PropertyName.isReserved ·) ∧
    profile.writable.names =
      (((source.candidates type).filterMap setterProperty? ++
        ((source.chainFields type).filter (isWritableField ·.2)).map (·.2.name)).eraseDups).filter
          (!PropertyName.isReserved ·) := by
  obtain ⟨getters, readers, writers, hMakes⟩ := profile_makes h
  refine ⟨?_, ?_, ?_, ?_, names_of_parts hMakes.readers_settled hMakes.readable_lists,
    names_of_parts hMakes.writers_settled hMakes.writable_lists⟩
  · -- what is readable
    intro name
    rw [Profile.has, contains_of_parts hMakes.readers_settled hMakes.readable_lists,
      exists_chainFields_iff (·.name = name)]
    simp only [getterProperty?_eq_some_iff]
  · -- what is writable
    intro name
    rw [Profile.has, contains_of_parts hMakes.writers_settled hMakes.writable_lists,
      ← exists_chainFields_iff fun field =>
        field.name = name ∧ field.isConstant = false ∧ field.isReadOnly = false]
    simp only [setterProperty?_eq_some_iff, List.mem_filter, isWritableField, Bool.and_eq_true,
      Bool.not_eq_true']
    simp only [and_assoc, and_comm]
  · -- what backs a readable property
    intro name property hFound
    rcases backed_of_parts hMakes.readers_settled hMakes.readable_lists hFound with
      ⟨claim, hClaim, rfl, winner, declared, hWinner, hReturns, hProperty⟩ | ⟨hNone, hField⟩
    · -- the winner of a claim is a candidate of it
      obtain ⟨hCandidate, hReads⟩ := Claim.of_mem_gather hClaim (chooseGetter_mem hWinner)
      exact Or.inl ⟨winner, hCandidate, getterProperty?_eq_some_iff.mp hReads, declared, hReturns,
        hProperty⟩
    · refine Or.inr ⟨?_, hField⟩
      intro candidate hCandidate hReads
      exact hNone candidate hCandidate (getterProperty?_eq_some_iff.mpr hReads)
  · -- what backs a writable one
    intro name property hFound
    rcases backed_of_parts hMakes.writers_settled hMakes.writable_lists hFound with
      ⟨claim, hClaim, rfl, winner, declared, hWinner, hParameters, hProperty⟩ | ⟨hNone, hField⟩
    · -- the winner of a claim is a candidate of it
      obtain ⟨hCandidate, hWrites⟩ := Claim.of_mem_gather hClaim (chooseSetter_mem hWinner)
      exact Or.inl ⟨winner, hCandidate, setterProperty?_eq_some_iff.mp hWrites, declared,
        hParameters, hProperty⟩
    · refine Or.inr ⟨?_, hField⟩
      intro candidate hCandidate hWrites
      exact hNone candidate hCandidate (setterProperty?_eq_some_iff.mpr hWrites)

/-- Of an order the total comes from a method, the identifier from its own field and not from that
of the type it extends, and the customer is not writable. -/
theorem profile_discovers_order :
    Sample.shop.profile Sample.order = .ok Sample.orderProfile ∧
      Sample.orderProfile.readable.names = ["total", "open", "customer", "id", "KIND", "TOTAL"] ∧
      Sample.orderProfile.writable.names = ["total", "id", "TOTAL"] ∧
      ∃ declared, Sample.orderProfile.readable.find? "id" =
        some (Sample.shop.fieldProperty Sample.order declared) ∧ declared.1 = Sample.order := by
  obtain ⟨-, -, hBacked, -, hReadable, hWritable⟩ := profile_discovers Sample.profile_order
  refine ⟨Sample.profile_order, hReadable.trans (by cbv), hWritable.trans (by cbv), ?_⟩
  have hHeld : (Sample.orderProfile.readable.find? "id").isSome = true := by cbv
  obtain ⟨property, hFound⟩ := Option.isSome_iff_exists.mp hHeld
  rcases hBacked "id" property hFound with ⟨getter, hGetter, hReads, -⟩ | ⟨-, declared, hFirst, rfl⟩
  · -- no method of an order is a getter of the identifier
    have hNone : (Sample.shop.candidates Sample.order).all
        (Sample.shop.getterProperty? · != some "id") = true := by cbv
    have := List.all_eq_true.mp hNone getter hGetter
    simp [getterProperty?_eq_some_iff.mpr hReads] at this
  · refine ⟨declared, hFound, ?_⟩
    have hOwner : ((Sample.shop.chainFields Sample.order).find? (·.2.name == "id")).map Prod.fst =
        some Sample.order := by cbv
    rw [hFirst] at hOwner
    exact Option.some.inj hOwner

end Source

end Introspect
