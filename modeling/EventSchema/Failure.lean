import EventSchema.Check.Schema
import EventSchema.Disk.Tree

set_option autoImplicit false

namespace EventSchema

open Disk (Path DiskFault)

inductive Failure where
  | read (path : Path) (fault : DiskFault)
  | write (path : Path) (fault : DiskFault)
  | parse (path : Path)
  | schema (fault : ModuleFault)
  | noOutput
deriving DecidableEq, Repr

def Failure.message : Failure → String
  | .read path fault => "failed to read " ++ path.text ++ ": " ++ fault.message
  | .write path fault => "failed to write " ++ path.text ++ ": " ++ fault.message
  | .parse path => "failed to parse " ++ path.text ++ ": <json error>"
  | .schema fault => fault.message
  | .noOutput => "OUT_DIR is not set; call from build.rs"

end EventSchema
