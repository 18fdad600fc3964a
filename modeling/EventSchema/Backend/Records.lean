import EventSchema.Backend.Code
import EventSchema.Backend.Drafts

set_option autoImplicit false

namespace EventSchema.Backend

def fieldCode (config : Config) (f : RecordField) : List Code :=
  [.line ("#[serde(rename = " ++ literal f.key ++ ")]"),
   .line ("pub " ++ f.ident ++ ": " ++ f.type.render config ++ ",")]

def Record.code (config : Config) (strict : Bool) (r : Record) : List Code :=
  [.line "#[derive(Debug, Clone, PartialEq, Eq, serde::Serialize, serde::Deserialize)]"] ++
    (if strict then [.line "#[serde(deny_unknown_fields)]"] else []) ++
    [.item ("pub struct " ++ r.name) (r.fields.flatMap (fieldCode config))]

end EventSchema.Backend
