import Warehouse.Column
import Warehouse.Text.Listing

/-!
Filters on columns, which say what a statement is about: all columns, those named, those not named,
those set by hand, or any test.
-/

namespace Warehouse

/-- A choice of columns. -/
inductive Filter where
  | all
  | only (names : List String)
  | except (names : List String)
  | manuallySet
  | custom (test : Column → Bool)

namespace Filter

instance : Inhabited Filter := ⟨all⟩

/-- Whether the filter lets a column through. -/
def accepts : Filter → Column → Bool
  | all, _ => true
  | only names, c => names.contains c.name
  | except names, c => !names.contains c.name
  | manuallySet, c => c.manuallySet
  | custom test, c => test c

/-- The filter of the columns that both let through. -/
def and : Filter → Filter → Filter
  | all, f => f
  | f, all => f
  | f, g => custom fun c => f.accepts c && g.accepts c

/-- The filter as text for people. -/
def describe : Filter → String
  | all => "All"
  | only names => "Only(" ++ Text.shownList names ++ ")"
  | except names => "Except(" ++ Text.shownList names ++ ")"
  | manuallySet => "ManuallySet"
  | custom _ => "Custom(..)"

end Filter

end Warehouse
