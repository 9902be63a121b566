import CrossQuery.Proofs.Plan.Meaning
import CrossQuery.Proofs.Plan.Visited

/-!
# Stores without foreign keys

Two stores compile a query differently only if one of them supports foreign keys and the other does
not. A store that lacks them compiles no query that refers through a key, wherever it does so: every
clause of a query that compiles has been resolved, or was empty.
-/

set_option autoImplicit false

namespace CrossQuery

namespace CompileContext

section Local

variable {context : CompileContext}

theorem gives_local_of_resolve (unsupported : context.capabilities.supportsForeignKeys = false)
    (clause : String) (ref : FieldRef) :
    Gives (context.resolve clause ref) fun _ => ref.IsLocal := by
  cases ref with
  | direct id => exact gives_known (.direct id)
  | through key destination =>
      rw [resolve, unsupported]
      exact gives_throw

/-- References that a store without foreign keys resolves are to fields of the source. -/
theorem ResolvesAll.isLocal {refs : List FieldRef} {joins after : List PlanJoin}
    (resolved : context.ResolvesAll refs joins after)
    (unsupported : context.capabilities.supportsForeignKeys = false) :
    ∀ ref ∈ refs, ref.IsLocal := by
  induction resolved with
  | nil => exact List.forall_mem_nil _
  | @cons clause ref _ _ _ _ _ first _ ih =>
      have isLocal := gives_local_of_resolve unsupported clause ref _ _ _ first
      exact List.forall_mem_cons.mpr ⟨isLocal, ih⟩

end Local

end CompileContext

/-- What a store without foreign keys compiles refers to fields of the source table only. -/
theorem Query.references_local_of_compile {query : Query} {catalog : Catalog}
    {capabilities : Capabilities} {databaseId : Int} {maxRows : Option Nat} {plan : Plan}
    (unsupported : capabilities.supportsForeignKeys = false)
    (compiled : query.compile catalog capabilities databaseId maxRows = .ok plan) :
    ∀ ref ∈ query.references, ref.IsLocal := by
  obtain ⟨source, joins, _, _, run⟩ := run_of_compile compiled
  obtain ⟨refs, same, resolved⟩ := CompileContext.resolvesAll_of_compile run
  exact fun ref member => resolved.isLocal unsupported ref (same.mem_iff.mpr member)

/-- The capabilities of stores take part in compilation by their support of foreign keys alone: two
stores that both support them, or both do not, compile every query alike, and so do any two stores
where nothing refers through a key. Where something does, a store without foreign keys fails. -/
theorem Query.compile_by_foreignKeys (query : Query) (catalog : Catalog) (databaseId : Int)
    (maxRows : Option Nat) :
    (∀ left right : Capabilities,
        left.supportsForeignKeys = right.supportsForeignKeys ∨
          (∀ key destination, .through key destination ∉ query.references) →
        query.compile catalog left databaseId maxRows =
          query.compile catalog right databaseId maxRows) ∧
      ∀ capabilities : Capabilities, capabilities.supportsForeignKeys = false →
        (∃ key destination, .through key destination ∈ query.references) →
        ∃ failure, query.compile catalog capabilities databaseId maxRows = .error failure := by
  constructor
  · intro left right alike
    apply compile_of_resolveAlike
    intro source
    cases alike with
    | inl same => exact CompileContext.resolveAlike_of_support same _
    | inr never =>
        apply CompileContext.resolveAlike_of_local
        intro ref member
        cases ref with
        | direct id => exact .direct id
        | through key destination => exact absurd member (never key destination)
  · intro capabilities unsupported refers
    obtain ⟨key, destination, member⟩ := refers
    cases compiled : query.compile catalog capabilities databaseId maxRows with
    | error failure => exact ⟨failure, rfl⟩
    | ok plan => cases references_local_of_compile unsupported compiled _ member

/-- The number of venues in each category. -/
def venuesByCategory : Query where
  sourceTable := 2
  filter := none
  aggregation := .count
  breakout := [.direct 4]
  orderBy := []
  fields := []
  limit := none
  page := none

theorem pricesByCategory_compile_by_foreignKeys :
    (pricesByCategory.compile venueCatalog.catalog (.relational .upperCase) 1 none).isOk = true ∧
      pricesByCategory.compile venueCatalog.catalog (.relational .upperCase) 1 none =
        pricesByCategory.compile venueCatalog.catalog (.relational .lowerCase) 1 none ∧
      (∃ failure,
        pricesByCategory.compile venueCatalog.catalog .document 1 none = .error failure) ∧
      (venuesByCategory.compile venueCatalog.catalog .document 1 none).isOk = true ∧
      venuesByCategory.compile venueCatalog.catalog (.relational .upperCase) 1 none =
        venuesByCategory.compile venueCatalog.catalog .document 1 none := by
  have prices := Query.compile_by_foreignKeys pricesByCategory venueCatalog.catalog 1 none
  have venues := Query.compile_by_foreignKeys venuesByCategory venueCatalog.catalog 1 none
  refine ⟨by cbv, prices.1 _ _ (.inl rfl), prices.2 _ rfl ?_, by cbv, venues.1 _ _ (.inr ?_)⟩
  · exact ⟨4, 1, by simp [Query.references, pricesByCategory, Filter.references]⟩
  · simp [Query.references, venuesByCategory, Aggregation.source?]

end CrossQuery
