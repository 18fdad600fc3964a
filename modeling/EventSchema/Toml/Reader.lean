import EventSchema.Toml.Scalar

set_option autoImplicit false

namespace EventSchema.Toml

def isBlank (c : Char) : Bool := c == ' ' || c == '\t'

def skipBlanks (cs : List Char) : List Char :=
  cs.dropWhile isBlank

def isPlain (c : Char) : Bool :=
  c == '\t' || (decide (' ' ≤ c) && c != '\x7f')

def newline? : List Char → Option (List Char)
  | '\n' :: rest => some rest
  | '\r' :: '\n' :: rest => some rest
  | _ => none

def skipComment : List Char → List Char
  | '#' :: rest => rest.dropWhile isPlain
  | cs => cs

def lineEnd? (cs : List Char) : Option (List Char) :=
  match skipComment (skipBlanks cs) with
  | [] => some []
  | rest => newline? rest

def skipLayout : List Char → List Char
  | ' ' :: rest => skipLayout rest
  | '\t' :: rest => skipLayout rest
  | '\n' :: rest => skipLayout rest
  | '\r' :: '\n' :: rest => skipLayout rest
  | cs => cs

/-- Skips what may stand between the items of a list; every comment ends with its line. -/
def skipBetween? : Nat → List Char → Option (List Char)
  | 0, _ => none
  | fuel + 1, cs =>
    match skipLayout cs with
    | '#' :: rest => (newline? (rest.dropWhile isPlain)).bind (skipBetween? fuel)
    | rest => some rest

def codePoint? (digits : Nat) (cs : List Char) : Option (Char × List Char) := do
  let values ← (cs.take digits).mapM Text.hexValue
  let code := values.foldl (fun n d => n * 16 + d) 0
  if values.length = digits ∧ code.isValidChar then some (Char.ofNat code, cs.drop digits)
  else none

def escape? : List Char → Option (Char × List Char)
  | 'b' :: rest => some ('\x08', rest)
  | 't' :: rest => some ('\t', rest)
  | 'n' :: rest => some ('\n', rest)
  | 'f' :: rest => some ('\x0c', rest)
  | 'r' :: rest => some ('\r', rest)
  | '"' :: rest => some ('"', rest)
  | '\\' :: rest => some ('\\', rest)
  | 'u' :: rest => codePoint? 4 rest
  | 'U' :: rest => codePoint? 8 rest
  | _ => none

/-- A text on one line, up to the double quote that closes it. `content` is read so far, last
first. -/
def basic? : Nat → List Char → List Char → Option (String × List Char)
  | 0, _, _ => none
  | _ + 1, _, [] => none
  | _ + 1, content, '"' :: rest => some (String.ofList content.reverse, rest)
  | fuel + 1, content, '\\' :: rest => do
    let (c, rest) ← escape? rest
    basic? fuel (c :: content) rest
  | fuel + 1, content, c :: rest => if isPlain c then basic? fuel (c :: content) rest else none

def literal? (cs : List Char) : Option (String × List Char) :=
  let isContent := fun c => isPlain c && c != '\''
  match cs.dropWhile isContent with
  | '\'' :: rest => some (String.ofList (cs.takeWhile isContent), rest)
  | _ => none

/-- A text on many lines, up to three marks. One or two marks right before these belong to the
text. A backslash before a line ending skips all layout. -/
def block? (mark : Char) : Nat → List Char → List Char → Option (String × List Char)
  | 0, _, _ => none
  | fuel + 1, content, cs =>
    let marks := (cs.takeWhile (· == mark)).length
    if 3 ≤ marks then
      let kept := min (marks - 3) 2
      some (String.ofList (List.replicate kept mark ++ content).reverse, cs.drop (kept + 3))
    else if 0 < marks then
      block? mark fuel (List.replicate marks mark ++ content) (cs.drop marks)
    else match newline? cs, cs with
      | some rest, _ => block? mark fuel ('\n' :: content) rest
      | none, [] => none
      | none, c :: rest =>
        if c = '\\' ∧ mark = '"' then
          match newline? (skipBlanks rest) with
          | some rest => block? mark fuel content (skipLayout rest)
          | none => do
            let (c, rest) ← escape? rest
            block? mark fuel (c :: content) rest
        else if isPlain c then block? mark fuel (c :: content) rest
        else none

/-- A line ending right after the opening marks does not belong to the text. -/
def openBlock (cs : List Char) : List Char :=
  (newline? cs).getD cs

def isBare (c : Char) : Bool :=
  c.isAlphanum || c == '_' || c == '-'

def name? : List Char → Option (String × List Char)
  | '"' :: rest => basic? (rest.length + 1) [] rest
  | '\'' :: rest => literal? rest
  | cs =>
    match cs.takeWhile isBare with
    | [] => none
    | bare => some (String.ofList bare, cs.dropWhile isBare)

def names? : Nat → List Char → Option (List String × List Char)
  | 0, _ => none
  | fuel + 1, cs => do
    let (name, rest) ← name? cs
    match skipBlanks rest with
    | '.' :: rest =>
      let (names, rest) ← names? fuel (skipBlanks rest)
      some (name :: names, rest)
    | rest => some ([name], rest)

def key? (cs : List Char) : Option (List String × List Char) := do
  let (names, rest) ← names? (cs.length + 1) cs
  if names.length < depthLimit then some (names, rest) else none

mutual

def value? : Nat → Nat → List Char → Option (Value × List Char)
  | 0, _, _ => none
  | fuel + 1, depth, cs =>
    match cs with
    | '"' :: '"' :: '"' :: rest =>
      (block? '"' (rest.length + 1) [] (openBlock rest)).map fun r => (.text r.1, r.2)
    | '"' :: rest => (basic? (rest.length + 1) [] rest).map fun r => (.text r.1, r.2)
    | '\'' :: '\'' :: '\'' :: rest =>
      (block? '\'' (rest.length + 1) [] (openBlock rest)).map fun r => (.text r.1, r.2)
    | '\'' :: rest => (literal? rest).map fun r => (.text r.1, r.2)
    | '[' :: rest =>
      if depth + 1 < depthLimit then
        (items? fuel (depth + 1) rest).map fun r => (.list r.1, r.2)
      else none
    | '\x7b' :: rest =>
      if depth + 1 < depthLimit then
        match skipBlanks rest with
        | '\x7d' :: rest => some (.table [], rest)
        | rest => do
          let (members, rest) ← members? fuel (depth + 1) rest
          if areApart (members.map (·.1)) then some (.table members, rest) else none
      else none
    | _ => scalar? cs

def items? : Nat → Nat → List Char → Option (List Value × List Char)
  | 0, _, _ => none
  | fuel + 1, depth, cs => do
    match ← skipBetween? (cs.length + 1) cs with
    | ']' :: rest => some ([], rest)
    | cs =>
      let (item, rest) ← value? fuel depth cs
      match ← skipBetween? (rest.length + 1) rest with
      | ',' :: rest =>
        let (items, rest) ← items? fuel depth rest
        some (item :: items, rest)
      | ']' :: rest => some ([item], rest)
      | _ => none

/-- Members up to the closing brace, all on one line; no comma follows the last one. -/
def members? : Nat → Nat → List Char → Option (List (List String × Value) × List Char)
  | 0, _, _ => none
  | fuel + 1, depth, cs => do
    let (member, rest) ← member? fuel depth cs
    match skipBlanks rest with
    | ',' :: rest =>
      let (members, rest) ← members? fuel depth (skipBlanks rest)
      some (member :: members, rest)
    | '\x7d' :: rest => some ([member], rest)
    | _ => none

def member? : Nat → Nat → List Char → Option ((List String × Value) × List Char)
  | 0, _, _ => none
  | fuel + 1, depth, cs => do
    match ← key? cs with
    | (key, '=' :: rest) =>
      let (value, rest) ← value? fuel depth (skipBlanks rest)
      some ((key, value), rest)
    | _ => none

end

def statement? (cs : List Char) : Option (Statement × List Char) := do
  match cs with
  | '[' :: rest =>
    match ← key? (skipBlanks rest) with
    | (key, ']' :: rest) => some (.header key, rest)
    | _ => none
  | _ =>
    let ((key, value), rest) ← member? (2 * cs.length + 2) 0 cs
    some (.entry key value, rest)

def statements? : Nat → List Char → Option (List Statement)
  | 0, _ => none
  | fuel + 1, cs =>
    match lineEnd? cs, skipBlanks cs with
    | some [], _ => some []
    | some rest, _ => statements? fuel rest
    | none, cs => do
      let (statement, rest) ← statement? cs
      let rest ← lineEnd? rest
      (statements? fuel rest).map (statement :: ·)

/-- A byte order mark may come first. -/
def ofText? (text : String) : Option (List Statement) :=
  let cs := match text.toList with
    | '\ufeff' :: rest => rest
    | cs => cs
  statements? (cs.length + 1) cs

end EventSchema.Toml
