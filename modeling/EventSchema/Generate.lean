import EventSchema.Backend.EventsFile
import EventSchema.Backend.RestFile
import EventSchema.Backend.TypesFile
import EventSchema.Check.Schema
import EventSchema.Frontend.Client
import EventSchema.Frontend.CommandForms

/-!
All files of a schema. Every section of a module is made on its own; the files that join the
backend sections are made last, from those that are there.
-/

set_option autoImplicit false

namespace EventSchema

inductive Section where
  | types
  | commands
  | events
  | rest
  | client
  | commandForms
deriving DecidableEq, Repr

namespace Section

def all : List Section := [.types, .commands, .events, .rest, .client, .commandForms]

def backend : List Section := [.types, .commands, .events, .rest]

def title : Section → String
  | .types => "backend types"
  | .commands => "backend commands"
  | .events => "backend events"
  | .rest => "backend rest"
  | .client => "frontend client"
  | .commandForms => "frontend commands"

def target : Section → Target
  | .types | .commands | .events | .rest => .backend
  | .client | .commandForms => .frontend

/-- The Rust module of a backend section, and the last part of a frontend file's name. -/
def stem : Section → String
  | .types => "types"
  | .commands => "commands"
  | .events => "events"
  | .rest => "rest"
  | .client => "api"
  | .commandForms => "commands"

def path (moduleId : String) (s : Section) : String :=
  match s.target with
  | .backend => moduleId ++ "/" ++ s.stem ++ ".rs"
  | .frontend => moduleId ++ "_" ++ s.stem ++ ".ts"

def isPresent (m : SchemaModule) : Section → Bool
  | .types | .client => true
  | .commands | .commandForms => !m.commands.isEmpty
  | .events => !m.events.isEmpty
  | .rest => !m.types.endpoints.isEmpty

def content (config : Config) (m : SchemaModule) : Section → Except Fault String
  | .types => (Backend.TypesFile.ofModule m).map (Backend.TypesFile.render config)
  | .commands => (Backend.CommandsFile.ofCommands m.commands).map Backend.CommandsFile.render
  | .events => (Backend.EventsFile.ofEvents m.id m.events).map (Backend.EventsFile.render config)
  | .rest =>
    (Backend.RestFile.ofEndpoints m.id m.types.endpoints).map (Backend.RestFile.render config)
  | .client => (Frontend.Client.ofModule config m).map Frontend.Module.render
  | .commandForms => .ok (Frontend.CommandForms.ofCommands m.commands).render

def emit (config : Config) (m : SchemaModule) (s : Section) : Except ModuleFault (List Artifact) :=
  if s.isPresent m then
    match s.content config m with
    | .ok text => .ok [⟨s.target, s.path m.id, text⟩]
    | .error fault => .error ⟨m.id, fault⟩
  else .ok []

end Section

namespace Glue

/-- Lints that generated modules are exempt from. -/
def allows : String :=
  "clippy::all, clippy::pedantic, dead_code, unused_imports, unused_qualifications"

def wrapperPath : String := "eventkit_generated.rs"

/-- Module ids in order, each with the backend sections that have a file. -/
def sections (s : SchemaSet) (files : List Artifact) : List (String × List Section) :=
  let paths := (files.filter (·.target == .backend)).map Artifact.path
  (Text.sortNames (s.modules.map SchemaModule.id)).map fun id =>
    (id, Section.backend.filter fun part => paths.contains (part.path id))

def declare (name : String) : String := "pub mod " ++ name ++ ";\n"

def treeRoot (modules : List (String × List Section)) : Artifact where
  target := .backend
  path := "mod.rs"
  content := Artifact.header ++ "\n\n#![allow(" ++ allows ++ ")]\n\n" ++
    String.join (modules.map fun m => declare m.1)

def treeModule (m : String × List Section) : Artifact where
  target := .backend
  path := m.1 ++ "/mod.rs"
  content := Artifact.header ++ "\n\n" ++ String.join (m.2.map fun part => declare part.stem)

def wrapperSection (id : String) (part : Section) : String :=
  "    pub mod " ++ part.stem ++ " \x7b\n        include!(concat!(env!(\"OUT_DIR\"), \"/" ++ id ++
    "/" ++ part.stem ++ ".rs\"));\n    \x7d\n"

def wrapperModule (m : String × List Section) : String :=
  "\n#[allow(" ++ allows ++ ")]\npub mod " ++ m.1 ++ " \x7b\n" ++
    String.join (m.2.map (wrapperSection m.1)) ++ "\x7d\n"

def wrapper (modules : List (String × List Section)) : Artifact where
  target := .backend
  path := wrapperPath
  content := Artifact.header ++ "\n" ++ String.join (modules.map wrapperModule)

def files (layout : Layout) (modules : List (String × List Section)) : List Artifact :=
  match layout with
  | .tree => treeRoot modules :: modules.map treeModule
  | .wrapper => [wrapper modules]

end Glue

namespace SchemaSet

/-- The sections of all modules, without any check. -/
def emit (config : Config) (s : SchemaSet) : Except ModuleFault (List Artifact) := do
  let files ← s.modules.mapM fun m => Section.all.mapM (Section.emit config m)
  .ok (files.flatMap List.flatten)

/-- Checks the schema and gives all its files. -/
def generate (config : Config) (s : SchemaSet) : Except ModuleFault (List Artifact) := do
  s.check
  let files ← s.emit config
  .ok (files ++ Glue.files config.layout (Glue.sections s files))

end SchemaSet

end EventSchema
