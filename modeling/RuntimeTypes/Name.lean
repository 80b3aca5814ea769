import RuntimeTypes.Kind
import RuntimeTypes.Text.Trim

/-!
# Names of classes and resource kinds

A class name is a sequence of identifiers with a separator between them, and is none of the
reserved names. A resource kind is a nonempty run of ASCII letters, digits and four marks. Both
come as types that carry the proof, so that a value with an unspellable name cannot be built.
-/

namespace RuntimeTypes

open Unicode (isAlphabetic isNumeric)

namespace Name

/-- What stands between the segments of a class name. -/
def separator : Char := '\\'

def opensIdentifier (c : Char) : Bool :=
  isAlphabetic c || c = '_'

def continuesIdentifier (c : Char) : Bool :=
  isAlphabetic c || isNumeric c || c = '_'

/-- An identifier opens with a letter or an underscore and goes on with those and with digits. -/
def isIdentifier : List Char → Bool
  | [] => false
  | c :: cs => opensIdentifier c && cs.all continuesIdentifier

/-- The names of kinds and pseudotypes are reserved. -/
def isReserved (name : String) : Bool :=
  (Kind.ofName? name).isSome || (Pseudotype.ofName? name).isSome

/-- A normalized name of a class, interface or trait: identifiers between separators, none in
front, and not reserved. -/
def isClassName (name : String) : Bool :=
  !isReserved name && (name.toList.splitOn separator).all isIdentifier

def isResourceChar (c : Char) : Bool :=
  c.isAlphanum || c = '_' || c = '.' || c = '-' || c = ' '

/-- A resource kind holds at least one character, and only those allowed. -/
def isResourceKind (kind : String) : Bool :=
  !kind.toList.isEmpty && kind.toList.all isResourceChar

/-- A name as declarations write it, brought to normal form: no white space at the ends and one
leading separator less. -/
def normalize (name : String) : String :=
  String.ofList (Text.dropLeading separator (Text.trim name.toList))

end Name

/-- The name of a class that instances can have. -/
structure ClassName where
  text : String
  valid : Name.isClassName text = true
  deriving DecidableEq

/-- The kind of a resource. -/
structure ResourceKind where
  text : String
  valid : Name.isResourceKind text = true
  deriving DecidableEq

namespace ClassName

/-- A text as a class name, where it is one. -/
def ofText? (text : String) : Option ClassName :=
  if h : Name.isClassName text = true then some ⟨text, h⟩ else none

theorem ofText?_eq_some_iff {text : String} {c : ClassName} :
    ofText? text = some c ↔ c.text = text := by
  unfold ofText?
  constructor
  · intro found
    obtain ⟨_, same⟩ := Option.dite_none_right_eq_some.1 found
    cases same
    rfl
  · rintro rfl
    exact dif_pos c.valid

end ClassName

namespace ResourceKind

def ofText? (text : String) : Option ResourceKind :=
  if h : Name.isResourceKind text = true then some ⟨text, h⟩ else none

end ResourceKind

end RuntimeTypes
