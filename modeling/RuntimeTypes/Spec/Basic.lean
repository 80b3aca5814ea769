import RuntimeTypes.Identity.Equal
import RuntimeTypes.Token.Basic
import RuntimeTypes.Value.Text

/-!
# Type specifications

A specification is either one text, with `|` between its parts and `?` in front for null, or a list
of single type names. The elements of a list are taken as they are: a union among them is refused.

```text
spec     := nullable | union
nullable := '?' spec
union    := token ('|' token)*
```
-/

namespace RuntimeTypes

inductive TypeSpec where
  /-- A text with the union syntax. -/
  | union (text : String)
  /-- A list of type names. Values that are no strings are found out when the list is read. -/
  | names (elements : List Value)

namespace TypeSpec

/-- The specification that a value stands for: a string is a union, an array a list of names. -/
def ofValue (h : Heap) : Value → Except Error TypeSpec
  | .string s => .ok (.union s)
  | .array a => .ok (.names (h.table a).values)
  | v => .error (.invalidArgument v.kind)

def ofToken (t : Token) : TypeSpec :=
  .union t.render

/-- The tokens of a union that has no white space at its end, in the order of its parts. A question
mark in front stands for null, unless nothing follows it. -/
def markedTokens (text : List Char) : Except SpecFault (List Token) :=
  match _trimmed : Text.trimStart text with
  | '?' :: next :: rest => return .basic .null :: (← markedTokens (next :: rest))
  | trimmed => (trimmed.splitOn '|').mapM Token.ofPart
termination_by text.length
decreasing_by
  have := Text.length_trimStart_le text
  simp_all only [List.length_cons]
  omega

/-- The tokens of a union. What is at the end of the text is at the end of every rest of it, so the
white space there is dropped once. -/
def unionTokens (text : List Char) : Except SpecFault (List Token) :=
  markedTokens (Text.trimEnd text)

/-- The token that one element of a list of names stands for. -/
def nameToken : Value → Except Error Token
  | .string s => Token.parse s
  | v => .error (.invalidArgument v.kind)

/-- The tokens of a specification, in the order of their parts and with repetitions. The first
fault decides the error. -/
def parse : TypeSpec → Except Error (List Token)
  | union text =>
    match unionTokens text.toList with
    | .ok tokens => .ok tokens
    | .error fault => .error (.invalidSpec text fault)
  | names elements => elements.mapM nameToken

def render (h : Heap) : TypeSpec → String
  | union text => "Union(" ++ Text.quote text ++ ")"
  | names elements => "Names([" ++ ", ".intercalate (elements.map (·.render h)) ++ "])"

/-- Whether two lists of values are equally long and strictly equal one by one. -/
def elementsEqual (h : Heap) : List Value → List Value → Bool
  | [], [] => true
  | v :: vs, w :: ws => h.strictEqual v w && elementsEqual h vs ws
  | _, _ => false

/-- Whether two specifications have the same form and the same contents. -/
def equal (h : Heap) : TypeSpec → TypeSpec → Bool
  | union s, union t => s = t
  | names vs, names ws => elementsEqual h vs ws
  | _, _ => false

end TypeSpec

end RuntimeTypes
