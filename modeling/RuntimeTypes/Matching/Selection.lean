import RuntimeTypes.Class.Lineage
import RuntimeTypes.TypeSet.Basic

/-!
# The rule that accepts a value

Which values the rules look for, and the first rule that applies where the lineage of the value's
class is at hand. Of an object the later rules need that lineage.
-/

namespace RuntimeTypes

/-! ## Rules of acceptance

The reasons for which a set accepts a value, in the order in which they are tried.
-/

/-- Why a value is accepted. -/
inductive Rule where
  /-- The set accepts every value. -/
  | anyType
  /-- The value's own token is in the set. -/
  | exactKind
  | scalar
  | number
  | uint
  | iterable
  | callable
  | anyResource
  | anyObject
  /-- The set names a class or interface that the object belongs to. -/
  | classOrInterface
  /-- The set names a trait that the object's class carries. -/
  | trait
  deriving DecidableEq, Repr

def Rule.tag : Rule → String
  | anyType => "AnyType"
  | exactKind => "ExactKind"
  | scalar => "Scalar"
  | number => "Number"
  | uint => "Uint"
  | iterable => "Iterable"
  | callable => "Callable"
  | anyResource => "AnyResource"
  | anyObject => "AnyObject"
  | classOrInterface => "ClassOrInterface"
  | trait => "Trait"

/-! ## Values and rules -/

namespace Value

def isNumber : Value → Bool
  | .int _ | .float _ => true
  | _ => false

/-- Whether a value is an integer that is not negative. -/
def isUnsigned : Value → Bool
  | .int n => 0 ≤ n
  | _ => false

def isArray : Value → Bool
  | .array _ => true
  | _ => false

def isResource : Value → Bool
  | .resource _ => true
  | _ => false

end Value

/-- How a name relates to a lineage. -/
def Lineage.ruleOf? (l : Lineage) (name : String) : Option Rule :=
  if l.isA name then some .classOrInterface
  else if l.usesTrait name then some .trait
  else none

namespace TypeSet

/-- The rule by the names of the set: the first name, in the order of tokens, that belongs to the
lineage decides. -/
def namedRule? (s : TypeSet) (l : Lineage) : Option Rule :=
  s.toList.findSome? fun t => t.name?.bind l.ruleOf?

/-- The class whose lineage has to be known to tell whether a value is accepted: the class of an
object, unless the set accepts everything or holds the object's own token. -/
def consultedClass? (s : TypeSet) (v : Value) : Option String :=
  match v with
  | .object o =>
    if s.acceptsAny || s.contains (.ofValue v) then none else some o.className.text
  | _ => none

/-- The first rule by which a value is accepted. The lineage is that of the class of an object, and
there is none for other values. -/
def rule? (s : TypeSet) (v : Value) (lineage : Option Lineage) : Option Rule :=
  if s.acceptsAny then some .anyType
  else if s.contains (.ofValue v) then some .exactKind
  else if s.contains (.pseudo .scalar) && v.kind.isScalar then some .scalar
  else if s.contains (.pseudo .number) && v.isNumber then some .number
  else if s.contains (.pseudo .uint) && v.isUnsigned then some .uint
  else if s.contains (.pseudo .iterable) && (v.isArray || lineage.any Lineage.iterable) then
    some .iterable
  else if s.contains (.pseudo .callable) && lineage.any Lineage.invocable then some .callable
  else if s.contains (.basic .resource) && v.isResource then some .anyResource
  else lineage.bind fun l =>
    if s.contains (.basic .object) then some .anyObject else s.namedRule? l

end TypeSet

end RuntimeTypes
