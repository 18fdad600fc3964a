import EventSchema.CommandLine.Arguments
import EventSchema.Diff.Hunks
import EventSchema.Disk.Schema
import EventSchema.Json.Writer
import EventSchema.Summary

set_option autoImplicit false

namespace EventSchema.CommandLine

open Disk (Path FileTree StaleFile Staleness)

inductive Problem where
  | misuse
  | settings (fault : SettingsFault)
  | failure (cause : Failure)
  | unknownModule (id : String)
  | stale (count : Nat)
deriving DecidableEq, Repr

namespace Problem

def message : Problem → String
  | .misuse => "usage: eventkit-codegen <generate|check|inspect> [options]"
  | .settings fault => fault.message
  | .failure cause => cause.message
  | .unknownModule id => "Unknown module '" ++ id ++ "'"
  | .stale count =>
    toString count ++ " generated file(s) are stale; run \x60eventkit-codegen generate\x60"

def exitCode : Problem → Nat
  | .misuse => 2
  | _ => 1

end Problem

structure Report where
  tree : FileTree
  output : String := ""
  problem : Option Problem := none

namespace Report

def exitCode (r : Report) : Nat :=
  match r.problem with
  | none => 0
  | some problem => problem.exitCode

end Report

/-- The settings, the schema and its files, all before anything is written. -/
structure Plan where
  settings : Settings
  schema : SchemaSet
  files : List Artifact

def loadSettings (t : FileTree) (cwd : Path) (paths : PathOptions) : Except Problem Settings :=
  (Settings.resolve t cwd paths).mapError .settings

def Plan.load (t : FileTree) (cwd : Path) (paths : PathOptions) : Except Problem Plan := do
  let settings ← loadSettings t cwd paths
  let schema ← (Disk.loadSchema t settings.schemaFolder).mapError .failure
  let files ← (schema.generate settings.config).mapError fun fault => .failure (.schema fault)
  .ok ⟨settings, schema, files⟩

def Plan.apply (plan : Plan) (t : FileTree) (prune : Bool) :
    FileTree × Except Failure (List Path) :=
  match Disk.writeFiles plan.settings.output t plan.files with
  | (t, .error failure) => (t, .error failure)
  | (t, .ok ()) =>
    if prune then Disk.pruneOrphans t plan.settings.output plan.files else (t, .ok [])

def Plan.stale (plan : Plan) (t : FileTree) : Except Failure (List StaleFile) :=
  Disk.staleFiles t plan.settings.output plan.files

/-- Milliseconds, with the whole seconds apart if there are any. -/
def elapsedText (milliseconds : Nat) : String :=
  if milliseconds < 1000 then toString milliseconds ++ "ms"
  else toString (milliseconds / 1000) ++ "s " ++ toString (milliseconds % 1000) ++ "ms"

def generate (t : FileTree) (cwd : Path) (elapsed : String) (paths : PathOptions) (prune : Bool) :
    Report :=
  match Plan.load t cwd paths with
  | .error problem => { tree := t, problem := some problem }
  | .ok plan =>
    match plan.apply t prune with
    | (t, .error failure) => { tree := t, problem := some (.failure failure) }
    | (t, .ok removed) => {
        tree := t
        output := String.join (removed.map fun path => "🗑\ufe0f  Removed " ++ path.text ++ "\n") ++
          "✅ Generated " ++ toString plan.files.length ++ " files for " ++
          toString plan.schema.modules.length ++ " modules (" ++ elapsed ++ ")\n" }

def statusLabel : Staleness → String
  | .missing _ => "missing "
  | .changed _ _ => "changed "
  | .orphaned _ => "orphaned"

def renderDiff (path : Path) (actual expected : String) : String :=
  "--- " ++ path.text ++ " (on disk)\n+++ " ++ path.text ++ " (generated)\n" ++
    Diff.render actual expected

def renderStale (diff : Bool) (file : StaleFile) : String :=
  statusLabel file.status ++ " " ++ file.path.text ++ "\n" ++
    match diff, file.status with
    | true, .changed expected actual => renderDiff file.path actual expected
    | _, _ => ""

def check (t : FileTree) (cwd : Path) (elapsed : String) (paths : PathOptions) (diff : Bool) :
    Report :=
  let stale : Except Problem (List StaleFile) := do
    let plan ← Plan.load t cwd paths
    (plan.stale t).mapError .failure
  match stale with
  | .error problem => { tree := t, problem := some problem }
  | .ok [] => { tree := t, output := "✅ Generated files are up to date (" ++ elapsed ++ ")\n" }
  | .ok stale => {
      tree := t
      output := String.join (stale.map (renderStale diff))
      problem := some (.stale stale.length) }

/-- The summaries of all modules, or of one that has to be there. -/
def summarize (t : FileTree) (cwd : Path) (paths : PathOptions) (module : Option String) :
    Except Problem (List Summary) := do
  let settings ← loadSettings t cwd paths
  let schema ← (Disk.loadSchema t settings.schemaFolder).mapError .failure
  let summaries ← schema.summaries.mapError fun fault => .failure (.schema fault)
  match module with
  | none => .ok summaries
  | some id =>
    match summaries.filter (·.module == id) with
    | [] => .error (.unknownModule id)
    | picked => .ok picked

def inspect (t : FileTree) (cwd : Path) (paths : PathOptions) (module : Option String) : Report :=
  match summarize t cwd paths module with
  | .error problem => { tree := t, problem := some problem }
  | .ok summaries =>
    { tree := t, output := (Json.arr (summaries.map Summary.toJson)).pretty 0 ++ "\n" }

def helpText : String :=
  "Usage: eventkit-codegen <COMMAND>\n\nCommands:\n" ++
    "  generate  Generate backend and frontend files\n" ++
    "  check     Check that generated files are up to date\n" ++
    "  inspect   Print the resolved schema model as JSON\n\nOptions of all commands:\n" ++
    "  --config <PATH>       Path to the config file\n" ++
    "  --schema-dir <DIR>    Directory that holds the schema modules\n\n" ++
    "Options of generate and check:\n" ++
    "  --backend-out <DIR>   Directory of the backend files\n" ++
    "  --frontend-out <DIR>  Directory of the frontend files\n\n" ++
    "generate takes --prune, check takes --diff, inspect takes --module <ID>.\n"

def Request.paths? : Request → Option PathOptions
  | .generate paths _ | .check paths _ | .inspect paths _ => some paths
  | _ => none

def run (t : FileTree) (cwd : Path) (elapsed : String) : Request → Report
  | .help => { tree := t, output := helpText }
  | .version => { tree := t, output := "eventkit-codegen 0.1.0\n" }
  | .misuse => { tree := t, problem := some .misuse }
  | .generate paths prune => generate t cwd elapsed paths prune
  | .check paths diff => check t cwd elapsed paths diff
  | .inspect paths module => inspect t cwd paths module

end EventSchema.CommandLine
