set_option autoImplicit false

namespace EventSchema

/-- How the generated backend modules reach their files. -/
inductive Layout where
  | tree
  | wrapper
deriving DecidableEq, Repr

structure Config where
  backendRoot : String := "crate::generated"
  /-- What import specifiers of frontend modules start with. -/
  frontendRoot : String := "generated/"
  layout : Layout := .tree
deriving DecidableEq, Repr

namespace Config

def typesPath (c : Config) (moduleId : String) : String :=
  c.backendRoot ++ "::" ++ moduleId ++ "::types"

def clientPath (c : Config) (moduleId : String) : String :=
  c.frontendRoot ++ moduleId ++ "_api"

end Config

end EventSchema
