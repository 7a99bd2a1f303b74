import Introspect.Accessor
import Introspect.Blueprint
import Introspect.Blueprint.Expansion
import Introspect.Blueprint.Setting
import Introspect.Cache
import Introspect.Cache.Interleaving
import Introspect.Candidate
import Introspect.Catalog
import Introspect.Catalog.Submission
import Introspect.Code.Declaration
import Introspect.Code.Grammar
import Introspect.Code.Literal
import Introspect.Code.Scan
import Introspect.Code.Tree
import Introspect.Code.Type
import Introspect.Conflict
import Introspect.Copy
import Introspect.Description
import Introspect.Description.Outline
import Introspect.Error
import Introspect.Event
import Introspect.Hierarchy
import Introspect.Inquiry
import Introspect.Json
import Introspect.LiveValue
import Introspect.Manifest
import Introspect.Manifest.Store
import Introspect.MemberType
import Introspect.Path
import Introspect.Path.Token
import Introspect.Profile
import Introspect.Profile.Build
import Introspect.PropertyName
import Introspect.Question
import Introspect.Record
import Introspect.Record.Stock
import Introspect.Resolution
import Introspect.Settings
import Introspect.SlotBody
import Introspect.Source
import Introspect.Substitution
import Introspect.Text.Blank
import Introspect.Text.Bytes
import Introspect.Text.Case
import Introspect.Text.CaseTable
import Introspect.Text.EscapeTable
import Introspect.Text.Hexadecimal
import Introspect.Text.Identifier
import Introspect.Text.IdentifierTable
import Introspect.Text.Outline
import Introspect.Text.Quoted
import Introspect.Toml.Document
import Introspect.Toml.Line
import Introspect.Toml.Scalar
import Introspect.Toml.Value
import Introspect.TypeExpr
import Introspect.Value
import Introspect.Proofs.Cache.Content
import Introspect.Proofs.Inquiry
import Introspect.Proofs.Profile.Settlement
import Introspect.Proofs.PropertyName
import Introspect.Proofs.PropertyName.Decapitalize
import Introspect.Proofs.Profile.Discovery
import Introspect.Proofs.Profile.Spelling
import Introspect.Proofs.Resolution.Walk
import Introspect.Proofs.Resolution.Agreement
import Introspect.Proofs.LiveValue.Writability
import Introspect.Proofs.LiveValue.Success
import Introspect.Proofs.LiveValue.Laws
import Introspect.Proofs.Record.Laws
import Introspect.Proofs.LiveValue.Failure
import Introspect.Proofs.LiveValue.Lens
import Introspect.Proofs.LiveValue.Disjoint
import Introspect.Proofs.LiveValue.Resolved
import Introspect.Proofs.Path
import Introspect.Proofs.Text.Case
import Introspect.Proofs.Text.Cut
import Introspect.Proofs.Text.Lower
import Introspect.Proofs.Resolution.Canonical
import Introspect.Proofs.Resolution.Composition
import Introspect.Proofs.Resolution.Shadowing
import Introspect.Proofs.Resolution.Underscores
import Introspect.Proofs.Cache.Modes
import Introspect.Proofs.Session.Transparency
import Introspect.Proofs.Conflict.Getters
import Introspect.Proofs.MemberType
import Introspect.Proofs.Profile.Registration
import Introspect.Proofs.Cache.Entries
import Introspect.Proofs.Cache.Warm
import Introspect.Proofs.Candidate
import Introspect.Proofs.Candidate.Owners
import Introspect.Proofs.Candidate.Collection
import Introspect.Proofs.Candidate.Signature
import Introspect.Proofs.Conflict.Overrides
import Introspect.Proofs.Conflict.Setters
import Introspect.Proofs.Workspace.Accesses
import Introspect.Proofs.Workspace.Account
import Introspect.Proofs.Profile.FieldBacking
import Introspect.Proofs.MemberType.Ascents
import Introspect.Proofs.Hierarchy.Walk
import Introspect.Proofs.Hierarchy.Subtyping
import Introspect.Proofs.Redescription
import Introspect.Proofs.Profile.Alike
import Introspect.Proofs.Resolution.Indexes
import Introspect.Proofs.Profile.Correspondence
import Introspect.Proofs.Profile.Chain
import Introspect.Proofs.Profile.Locality
import Introspect.Proofs.Profile.Reserved
import Introspect.Proofs.Renaming
import Introspect.Proofs.Profile.ParameterNames
import Introspect.Proofs.MemberType.Ways
import Introspect.Proofs.MemberType.Composition
import Introspect.Proofs.MemberType.Depth
import Introspect.Proofs.Path.Token
import Introspect.Proofs.Catalog.Closure
import Introspect.Proofs.Catalog.Registration
import Introspect.Proofs.Manifest.Freshness
import Introspect.Proofs.Conflict.Narrowest
import Introspect.Proofs.Conflict.Redeclared
import Introspect.Proofs.Interleaving.Steps
import Introspect.Proofs.Interleaving.Soundness
import Introspect.Proofs.Interleaving.Sharing
import Introspect.Proofs.Interleaving.Clearing
import Introspect.Proofs.Copy
import Introspect.Proofs.Manifest.Words
import Introspect.Proofs.Manifest.Priorities
import Introspect.Proofs.Manifest.Keys
import Introspect.Proofs.Blueprint.Merging
import Introspect.Proofs.Blueprint.Naming
import Introspect.Proofs.Blueprint.Expansion
