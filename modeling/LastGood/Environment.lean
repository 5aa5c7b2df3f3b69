/-!
# Environments

An environment is a list of variables with their values, in the order in which they were
first set. Setting a variable again keeps its place.
-/

namespace LastGood

/-- Variables and their values. -/
abbrev Environment := List (String × String)

namespace Environment

/-- The environment without a variable. -/
def unset (name : String) (environment : Environment) : Environment :=
  environment.filter fun entry => entry.1 != name

/-- The environment with a variable set. -/
def set (name value : String) : Environment → Environment
  | [] => [(name, value)]
  | (other, old) :: rest =>
      if other == name then (name, value) :: rest else (other, old) :: set name value rest

/-- The value of a variable. -/
def get? (environment : Environment) (name : String) : Option String :=
  (environment.find? fun entry => entry.1 == name).map Prod.snd

end Environment

end LastGood
