import EventSchema.Text.Extender
import EventSchema.Text.Printable

set_option autoImplicit false

namespace EventSchema.Text.Quoted

def hexDigits (n : Nat) : List Char :=
  Nat.toDigits 16 n

/-- Characters that are written by code point: attached to their neighbour, or not printable. -/
def isHidden (c : Char) : Bool :=
  isExtender c || !isPrintable c

def escape (mark c : Char) : List Char :=
  if c = Char.ofNat 0 then ['\\', '0']
  else if c = '\t' then ['\\', 't']
  else if c = '\r' then ['\\', 'r']
  else if c = '\n' then ['\\', 'n']
  else if c = '\\' then ['\\', '\\']
  else if c = mark then ['\\', mark]
  else if isHidden c then ['\\', 'u', '\x7b'] ++ hexDigits c.toNat ++ ['\x7d']
  else [c]

def body (mark : Char) (cs : List Char) : List Char :=
  cs.flatMap (escape mark)

def text (s : String) : String :=
  String.ofList ('"' :: body '"' s.toList ++ ['"'])

def char (c : Char) : String :=
  String.ofList ('\'' :: escape '\'' c ++ ['\''])

end EventSchema.Text.Quoted
