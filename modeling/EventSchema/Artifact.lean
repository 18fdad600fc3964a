set_option autoImplicit false

namespace EventSchema

inductive Target where
  | backend
  | frontend
deriving DecidableEq, Repr

def Target.text : Target → String
  | .backend => "backend"
  | .frontend => "frontend"

structure Artifact where
  target : Target
  /-- Relative to the output directory of the target. -/
  path : String
  content : String
deriving DecidableEq, Repr

namespace Artifact

def header : String := "// Code generated by eventkit-codegen. DO NOT EDIT."

end Artifact

end EventSchema
