import Introspect.Proofs.Profile.Correspondence
import Introspect.Proofs.Profile.Discovery

/-!
# What a profile depends on

The build of a type looks at few descriptions: at those of the type, of what extends leads to, and of
the types that methods return and take. Whatever else is described, and however, makes no difference.

* `Source.Reaches` — the types that a build may look at.
* `Source.isClosed` — a list of types beyond which nothing is reached.

Main results:

* `mem_of_reaches`: a closed list holds all that is reached from its members.
* `profile_local`: sources that agree on what is reached give the same profile, so that inserting an
  unrelated description changes none.
-/

namespace Introspect

variable {V : Type} {source target : Source V} {start type other : TypeName}

namespace Source

/-! ## What a build may look at -/

/-- The type itself and, from any type that is reached, the types that it extends, the erased types
that its methods return and take, and the bounds of its parameters. -/
inductive Reaches (source : Source V) (start : TypeName) : TypeName → Prop where
  | start : Reaches source start start
  | supertype {type other : TypeName} (hType : Reaches source start type)
      (hExtends : source.Extends type other) : Reaches source start other
  | erased {type : TypeName} {declared : TypeExpr} (hType : Reaches source start type)
      (hDeclares : source.Declares type declared) : Reaches source start (source.erase declared type)
  | bound {type : TypeName} {description : Description V} {parameter : Parameter}
      (hType : Reaches source start type) (hSome : source.describe type = some description)
      (hParameter : parameter ∈ description.parameters) : Reaches source start parameter.bound

/-- Whether the types of a list reach no type but those of the list. -/
def isClosed (source : Source V) (types : List TypeName) : Bool :=
  types.all fun type =>
    (source.describe type).all fun description =>
      description.supertypeNames.all (· ∈ types) &&
        description.methods.all (fun method =>
          method.types.all fun declared => source.erase declared type ∈ types) &&
        description.parameters.all (·.bound ∈ types)

/-- **A closed list holds all that is reached** from its members. -/
theorem mem_of_reaches {types : List TypeName} (hClosed : source.isClosed types = true)
    (hStart : start ∈ types) (h : source.Reaches start type) : type ∈ types := by
  -- a description of the list names types of the list only, of whatever kind the reference is
  have hDescribed : ∀ {type description}, type ∈ types →
      source.describe type = some description →
      (∀ other ∈ description.supertypeNames, other ∈ types) ∧
        (∀ method ∈ description.methods, ∀ declared ∈ method.types,
          source.erase declared type ∈ types) ∧
        ∀ parameter ∈ description.parameters, parameter.bound ∈ types := by
    intro type description hType hSome
    have hHere := List.all_eq_true.mp hClosed type hType
    rw [hSome] at hHere
    simpa [and_assoc] using hHere
  -- along the way that the type is reached, no step leaves the list
  induction h with
  | start => exact hStart
  | supertype _ hExtends ih =>
    obtain ⟨description, hSome, hOther⟩ := hExtends
    exact (hDescribed ih hSome).1 _ hOther
  | erased _ hDeclares ih =>
    obtain ⟨description, hSome, method, hMethod, hDeclared⟩ := hDeclares
    exact (hDescribed ih hSome).2.1 method hMethod _ hDeclared
  | bound _ hSome hParameter ih => exact (hDescribed ih hSome).2.2 _ hParameter

/-! ## Sources that agree -/

/-- The sources describe alike all that is reached from a type. -/
def AgreeFrom (source target : Source V) (start : TypeName) : Prop :=
  ∀ other, source.Reaches start other → target.describe other = source.describe other

namespace AgreeFrom

/-- What agrees around a type has the same hierarchies and parameters there. -/
theorem rescopes (h : source.AgreeFrom target start) :
    source.Rescopes target (source.Reaches start) fun _ description => description where
  describe_eq hType := by rw [h _ hType, Option.map_id']
  closed hType hExtends := hType.supertype hExtends
  kind_eq _ _ := rfl
  superclass?_eq _ description := by rw [Option.map_id']
  interfaces_eq _ description := by rw [List.map_id']
  raw?_eq _ _ := rfl
  parameters_eq _ _ := rfl

/-- What agrees around a type has the same members there, of the same types. -/
theorem retypes (h : source.AgreeFrom target start) :
    source.Retypes target (source.Reaches start) (fun _ description => description)
      fun _ expr => expr where
  toRedescribes := h.rescopes.toRedescribes
  methods_eq _ description := by
    refine (List.map_id'' (fun method => ?_) description.methods).symm
    unfold Method.mapTypes
    rw [Option.map_id', List.map_id']
  fields_eq _ description := (List.map_id'' (fun _ => rfl) description.fields).symm
  constructor?_eq _ _ := rfl
  erase_eq hOwner _ := h.rescopes.erase_eq hOwner _
  within_erase hOwner hDeclares := hOwner.erased hDeclares

/-- All that a build has to resolve is declared in types that are reached. -/
theorem reaches_of_resolves (h : source.AgreeFrom target start) {declaring : TypeName}
    {declared : TypeExpr} (hResolves : source.Resolves start declaring declared) :
    source.Reaches start declaring := by
  rcases hResolves with ⟨candidate, hCandidate, rfl, -⟩ | ⟨field, hField, rfl, -⟩
  · exact (h.retypes.fair_of_mem_candidates .start hCandidate).1
  · obtain ⟨owner, hOwner, hSame, -⟩ := mem_chainFields_iff.mp hField
    rw [hSame]
    exact h.rescopes.within_of_reflTransGen .start (of_mem_superclassChain hOwner).2

/-- Sources that agree on what is reached give the same profile. -/
theorem profile_eq (h : source.AgreeFrom target start) :
    target.profile start = source.profile start := by
  -- profiles are alike, with types that are equal, and so they are the same
  refine (SameOutcome.eq_of_eq ?_).symm
  refine (h.retypes.profile_alike .start ?_ ?_).mono fun _ _ hAlike => hAlike.eq
  · intro declaring declared hResolves
    exact (h.rescopes.memberType_eq (h.reaches_of_resolves hResolves) .start declared).symm
  · rintro seen _ rfl
    rfl

end AgreeFrom

/--
**A profile depends only on what its type reaches.** Two sources that describe alike all that is
reached from a type give it the same profile, or fail with the same error. So a description that is
put into a catalog, be it a new one or one that takes the place of another, changes the profile of no
type that does not reach it.
-/
theorem profile_local (source target : Source V) (catalog : Catalog V)
    (description : Description V) (type : TypeName) :
    (source.AgreeFrom target type → target.profile type = source.profile type) ∧
      (¬catalog.toSource.Reaches type description.type →
        (catalog.insert description).toSource.profile type = catalog.toSource.profile type) := by
  refine ⟨AgreeFrom.profile_eq, fun hUnrelated => AgreeFrom.profile_eq ?_⟩
  intro other hOther
  show (catalog.insert description).get? other = catalog.get? other
  rw [Catalog.get?_insert, if_neg]
  -- the new description would be reached, and it is not
  rintro rfl
  exact hUnrelated hOther

end Source

/-! ## A sample -/

namespace Sample

/-- A description of customers after which their name is a number that is not for writing. -/
def numberedCustomer : Description Value :=
  { Description.plain customer .concrete with fields := [field customer "name" ⟨"i64"⟩ false] }

/-- The shop without any description of customers. -/
def anonymous : Source Value :=
  (Catalog.mk (catalog.descriptions.filter (·.type != customer))).toSource

/-- All that is reached from orders. -/
def aroundOrders : List TypeName := [order, entity, ⟨"i64"⟩, .bool, ⟨"String"⟩]

/-- From an order, nothing is reached but the types of its members and what it extends. -/
theorem mem_aroundOrders {type : TypeName} (h : shop.Reaches order type) : type ∈ aroundOrders :=
  Source.mem_of_reaches (by cbv) List.mem_cons_self h

end Sample

namespace Source

/-- An order has a customer, but does not depend on what is known of customers: nothing at all may be
known, or something else. -/
theorem profile_local_order :
    Sample.shop.AgreeFrom Sample.anonymous Sample.order ∧
      ¬Sample.catalog.toSource.Reaches Sample.order Sample.customer ∧
      Sample.anonymous.profile Sample.order = .ok Sample.orderProfile ∧
      (Sample.catalog.insert Sample.numberedCustomer).toSource.profile Sample.order =
        .ok Sample.orderProfile := by
  have hAgree : Sample.shop.AgreeFrom Sample.anonymous Sample.order := by
    intro other hOther
    have hMember := Sample.mem_aroundOrders hOther
    simp only [Sample.aroundOrders, List.mem_cons, List.not_mem_nil, or_false] at hMember
    -- all of these are described alike, customers being none of them
    rcases hMember with rfl | rfl | rfl | rfl | rfl <;> rfl
  have hUnrelated : ¬Sample.catalog.toSource.Reaches Sample.order Sample.numberedCustomer.type :=
    fun hReaches => absurd (Sample.mem_aroundOrders hReaches) (by decide)
  obtain ⟨hSame, hInserted⟩ := profile_local Sample.shop Sample.anonymous Sample.catalog
    Sample.numberedCustomer Sample.order
  exact ⟨hAgree, hUnrelated, (hSame hAgree).trans Sample.profile_order,
    (hInserted hUnrelated).trans Sample.profile_order⟩

end Source

end Introspect
