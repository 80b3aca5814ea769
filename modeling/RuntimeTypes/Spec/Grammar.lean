import RuntimeTypes.Spec.Basic

/-!
# The grammar of type texts

What a type text is, as a relation between texts and tokens and without a reader: question marks
with white space between them, and parts with bars between them, each of which is a name that spells
a token, with white space around it and at most one separator in front.
-/

namespace RuntimeTypes

open Text (IsBlank)

/-- A name spells a token: a reserved name, characters of a resource kind in parentheses, or
identifiers with separators between them that are not reserved. -/
inductive Token.Spells : List Char → Token → Prop where
  | basic (kind : Kind) : Spells kind.name.toList (.basic kind)
  | pseudo (category : Pseudotype) : Spells category.name.toList (.pseudo category)
  | resource {kind : List Char} (some : kind ≠ [])
    (chars : ∀ c ∈ kind, Name.isResourceChar c = true) :
    Spells (Token.resourceOpening.toList ++ kind ++ [')']) (.resource (String.ofList kind))
  | named {segments : List (List Char)} (some : segments ≠ [])
    (identifiers : ∀ s ∈ segments, Name.isIdentifier s = true)
    (free : Name.isReserved (String.ofList ([Name.separator].intercalate segments)) = false) :
    Spells ([Name.separator].intercalate segments)
      (.named (String.ofList ([Name.separator].intercalate segments)))

/-- A part of a type text spells a token: it is a name that does, with white space around it, and
with one separator in front of the name or none. -/
def Token.SpellsPart (part : List Char) (t : Token) : Prop :=
  ∃ front lead name back : List Char,
    IsBlank front ∧ (lead = [] ∨ lead = [Name.separator]) ∧ Token.Spells name t ∧ IsBlank back ∧
    part = front ++ lead ++ name ++ back

/-- A text is a union of tokens: `marks` holds the white space that follows each question mark. -/
def TypeSpec.IsUnion (text : List Char) (tokens : List Token) : Prop :=
  ∃ (front back : List Char) (marks parts : List (List Char)) (spelled : List Token),
    IsBlank front ∧ IsBlank back ∧ (∀ w ∈ marks, IsBlank w) ∧ parts ≠ [] ∧
    text = front ++ marks.flatMap (fun w => '?' :: w) ++ ['|'].intercalate parts ++ back ∧
    parts.length = spelled.length ∧
    (∀ p ∈ parts.zip spelled, Token.SpellsPart p.1 p.2) ∧
    tokens = List.replicate marks.length (.basic .null) ++ spelled

/-! ## The parts of a specification

How a text falls into question marks and parts, whether it can be read or not; what a specification
lists, in either form; and which of its faults is the first. Only single parts are read here.
-/

open Text (IsBlank)

namespace TypeSpec

/-- No question mark is in front of the text: where only white space stands before one, nothing else
stands behind it. -/
def Unmarked (text : List Char) : Prop :=
  ∀ front rest, IsBlank front → text = front ++ '?' :: rest → IsBlank rest

/-- A text falls into so many question marks in front and parts with bars between them. -/
inductive Divided : List Char → Nat → List (List Char) → Prop where
  | parts {parts : List (List Char)} (some : parts ≠ []) (bars : ∀ p ∈ parts, '|' ∉ p)
    (unmarked : Unmarked (['|'].intercalate parts)) : Divided (['|'].intercalate parts) 0 parts
  | mark {front text : List Char} {marks : Nat} {parts : List (List Char)} (blank : IsBlank front)
    (solid : ¬ IsBlank text) (rest : Divided text marks parts) :
    Divided (front ++ '?' :: text) (marks + 1) parts

/-- What a text with so many question marks and such parts lists: null for each question mark, and
the parts. -/
def listed (marks : Nat) (parts : List (List Char)) : List Value :=
  List.replicate marks (.string Kind.null.name) ++ parts.map fun p => .string (String.ofList p)

/-- A specification lists its elements, or what its text falls into. -/
inductive Lists : TypeSpec → List Value → Prop where
  | names (elements : List Value) : Lists (.names elements) elements
  | union {text : String} {marks : Nat} {parts : List (List Char)}
    (divided : Divided text.toList marks parts) : Lists (.union text) (listed marks parts)

/-- The value is among those that a specification lists. -/
def Mentions (spec : TypeSpec) (v : Value) : Prop :=
  ∃ vs, spec.Lists vs ∧ v ∈ vs

/-- A string that reads as a token. -/
def IsName (v : Value) : Prop :=
  ∃ s t, v = .string s ∧ Token.ofPart s.toList = .ok t

/-- The leftmost fault of a specification and the error that it is. A part of a text is reported with
the whole text, an element of a list by itself. -/
inductive FirstFault : TypeSpec → Error → Prop where
  | part {text : String} {marks : Nat} {before after : List (List Char)} {part : List Char}
    {fault : SpecFault} (divided : Divided text.toList marks (before ++ part :: after))
    (read : ∀ p ∈ before, ∃ t, Token.ofPart p = .ok t) (refused : Token.ofPart part = .error fault) :
    FirstFault (.union text) (.invalidSpec text fault)
  | name {before after : List Value} {s : String} {fault : SpecFault}
    (read : ∀ v ∈ before, IsName v) (refused : Token.ofPart s.toList = .error fault) :
    FirstFault (.names (before ++ .string s :: after)) (.invalidSpec s fault)
  | notText {before after : List Value} {v : Value} (read : ∀ w ∈ before, IsName w)
    (other : ∀ s, v ≠ .string s) :
    FirstFault (.names (before ++ v :: after)) (.invalidArgument v.kind)

end TypeSpec

end RuntimeTypes
