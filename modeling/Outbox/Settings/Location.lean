/-! # Where settings are kept

Which file holds the settings: the one that the environment names, else the first standard place
that has one.
-/

set_option autoImplicit false

namespace Outbox.Settings

/-- The environment variable that names the settings file. -/
def environmentName : String := "HERALD_CONFIG"

/-- The standard places, first choice first. -/
def places : List String := ["./herald.config.ron", "/etc/herald/herald.config.ron"]

/-- Why there is no settings file. -/
inductive LocationError where
  | namedMissing (path : String)
  | noneFound
  deriving DecidableEq, Repr

def LocationError.message : LocationError → String
  | namedMissing path => environmentName ++ " points to non-existent file: " ++ path
  | noneFound =>
    "No configuration file found. Tried:\n  - " ++ environmentName ++ " environment variable\n" ++
      String.intercalate "\n" (places.map fun p => "  - " ++ p)

/-- The settings file, given the value of the environment variable and which paths exist. A named
file that is missing is an error, whatever the standard places hold. -/
def locate (named : Option String) (isThere : String → Bool) : Except LocationError String :=
  match named with
  | some path => if isThere path then .ok path else .error (.namedMissing path)
  | none =>
    match places.find? isThere with
    | some path => .ok path
    | none => .error .noneFound

end Outbox.Settings
