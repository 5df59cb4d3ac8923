/-!
# What is logged
-/

namespace ContentModels

/-- What is logged unless the environment says otherwise. -/
def logFilter (verbose : Bool) : String :=
  if verbose then "modelgen=debug,modelgen_cli=debug" else "warn"

end ContentModels
