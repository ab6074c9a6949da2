/-
# Deployment profiles

A profile selects the overlay files of a deployment.  Two profiles have short forms, and
those four names are read in any case; every other name is taken as it is.
-/

namespace BotHost

/-- A deployment profile. -/
inductive Profile where
  /-- The profile of a host that names none. -/
  | development
  | production
  | custom (name : String)
deriving DecidableEq

namespace Profile

/-- The name of a profile, as it stands in the name of an overlay file. -/
def name : Profile → String
  | development => "development"
  | production => "production"
  | custom name => name

/-- The profile that a name stands for. -/
def ofName (text : String) : Profile :=
  let lower := String.ofList (text.toList.map Char.toLower)
  if lower = "production" ∨ lower = "prod" then production
  else if lower = "development" ∨ lower = "dev" then development
  else custom text

end Profile

end BotHost
