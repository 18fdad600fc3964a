import EventSchema.Pattern.Category
import EventSchema.Pattern.CharSet
import EventSchema.Pattern.Script
import EventSchema.Pattern.ScriptUse
import EventSchema.Pattern.Trait

set_option autoImplicit false

namespace EventSchema.Pattern

def row? (table : List (List String × String)) (name : String) : Option CharSet :=
  (table.find? (·.1.contains name)).map fun row => .ofTable row.2

def rows (table : List (List String × String)) (names : List String) : CharSet :=
  .ofSpans ((names.filterMap (row? table)).flatMap CharSet.spans)

namespace Category

def letterNames : List String := ["lu", "ll", "lt", "lm", "lo"]

def groups : List (List String × List String) :=
  [(["l", "letter"], letterNames), (["lc", "casedletter"], ["lu", "ll", "lt"]),
   (["m", "mark", "combiningmark"], ["mn", "mc", "me"]), (["n", "number"], ["nd", "nl", "no"]),
   (["p", "punctuation", "punct"], ["pc", "pd", "ps", "pe", "pi", "pf", "po"]),
   (["s", "symbol"], ["sm", "sc", "sk", "so"]), (["z", "separator"], ["zs", "zl", "zp"]),
   (["c", "other"], ["cc", "cf", "co", "cn"])]

def chars (names : List String) : CharSet := rows categoryTable names

/-- Code points that are no characters. They lie between two spans of the last group. -/
def surrogates : CharSet := ⟨[(0xd800, 0xdfff)]⟩

def groupChars (members : List String) : CharSet :=
  if members.contains "cn" then (chars members).union surrogates else chars members

def find? (name : String) : Option CharSet :=
  if name = "any" then some .all
  else if name = "ascii" then some ⟨[(0, 127)]⟩
  else if name = "assigned" then some (chars ["cn"]).complement
  else match groups.find? (·.1.contains name) with
    | some (_, members) => some (groupChars members)
    | none => row? categoryTable name

end Category

namespace Trait

def chars (name : String) : CharSet := rows traitTable [name]

/-- A trait that says what another one has beyond some categories and traits. -/
structure Remainder where
  names : List String
  whole : String
  categories : List String
  traits : List String

def remainders : List Remainder :=
  [⟨["otheralphabetic", "oalpha"], "alphabetic", "nl" :: Category.letterNames, []⟩,
   ⟨["otherlowercase", "olower"], "lowercase", ["ll"], []⟩,
   ⟨["otheruppercase", "oupper"], "uppercase", ["lu"], []⟩,
   ⟨["othermath", "omath"], "math", ["sm"], []⟩,
   ⟨["othergraphemeextend", "ogrext"], "graphemeextend", ["mn", "me"], []⟩,
   ⟨["otheridstart", "oids"], "idstart", "nl" :: Category.letterNames, []⟩,
   ⟨["otheridcontinue", "oidc"], "idcontinue", ["mn", "mc", "nd", "pc"], ["idstart"]⟩]

def Remainder.chars (r : Remainder) : CharSet :=
  ((Trait.chars r.whole).diff (Category.chars r.categories)).diff (rows traitTable r.traits)

def find? (name : String) : Option CharSet :=
  match remainders.find? (·.names.contains name) with
  | some remainder => some remainder.chars
  | none => row? traitTable name

end Trait

namespace Script

def find? (name : String) : Option CharSet := row? scriptTable name

/-- The characters that a script uses: its own ones, save those whose users are listed, and those
that list it. -/
def users? (name : String) : Option CharSet := do
  let (names, own) ← scriptTable.find? (·.1.contains name)
  let listed := CharSet.ofSpans (scriptUseTable.flatMap fun row => (CharSet.ofTable row.2).spans)
  let lists := scriptUseTable.filter fun row =>
    (Text.tablePieces row.1).any fun user => names.contains (String.ofList user)
  some (((CharSet.ofTable own).diff listed).union
    (.ofSpans (lists.flatMap fun row => (CharSet.ofTable row.2).spans)))

end Script

end EventSchema.Pattern
