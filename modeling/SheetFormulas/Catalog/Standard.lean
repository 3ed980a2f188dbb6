import SheetFormulas.Catalog.Calendar
import SheetFormulas.Catalog.Conditions
import SheetFormulas.Catalog.Finance
import SheetFormulas.Catalog.Lookups

/-!
The catalogue of the built-in functions.
-/

namespace SheetFormulas.Catalog

/-- The built-in functions. -/
def standard : Catalog :=
  ⟨aggregates ++ choices ++ errorTests ++ dates ++ lookups ++ annuities ++ cashFlows
    ++ depreciation⟩

end SheetFormulas.Catalog
