/-!
# Version

The version of an installed distribution.
-/

namespace ExprScript.Version

/-- The distribution of the language. -/
def distribution : String := "slate-lang"

/-- The version of a distribution; only the distribution of the language is installed. -/
def ofDistribution (name : String) : String :=
  if name = distribution then "0.1.0" else "0+unknown"

end ExprScript.Version
