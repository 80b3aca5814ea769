import RuntimeTypes.Class.Ancestry
import RuntimeTypes.Matching.Selection

/-!
# What is accepted

The values that each token covers, said token by token and without an order of rules; and what each
rule asks of a set and of a value, said rule by rule and without regard to the others.
-/

namespace RuntimeTypes

/-! ## What a single token accepts -/

namespace Pseudotype

/-- The values that a pseudotype covers. -/
def Accepts (p : Provider) : Pseudotype → Value → Prop
  | mixed, _ => True
  | scalar, v => v.kind = .bool ∨ v.kind = .int ∨ v.kind = .float ∨ v.kind = .string
  | number, v => v.kind = .int ∨ v.kind = .float
  | uint, v => ∃ n, v = .int n ∧ 0 ≤ n.toInt
  | iterable, v =>
    v.kind = .array ∨
      ∃ o n, v = .object o ∧ p.Supertype o.className.text n ∧ p.iterable n = true
  | callable, v => ∃ o n, v = .object o ∧ p.Supertype o.className.text n ∧ p.invocable n = true

end Pseudotype

namespace Token

/-- The values that a token covers. -/
def Accepts (p : Provider) : Token → Value → Prop
  | basic kind, v => v.kind = kind
  | pseudo category, v => category.Accepts p v
  | resource kind, v => ∃ r, v = .resource r ∧ r.kind.text = kind
  | named name, v =>
    ∃ o, v = .object o ∧
      (p.Supertype o.className.text name ∨ p.Carries o.className.text name)

end Token

/-! ## When a rule applies

What each rule of acceptance asks of a set and of a value, said rule by rule and without regard to
the others, and the order among the rules. Of the names of a set the least one that the class of the
value is or carries decides.
-/

namespace TypeSet

/-- A token of the set covers a value. -/
def Admits (s : TypeSet) (p : Provider) (t : Token) (v : Value) : Prop :=
  s.contains t = true ∧ t.Accepts p v

/-- A name of the set decides about a value: it covers the value, and no lesser name does. -/
def Decides (s : TypeSet) (p : Provider) (v : Value) (n : String) : Prop :=
  s.Admits p (.named n) v ∧
    ∀ m, s.Admits p (.named m) v → (compare (Token.named n) (.named m)).isLE = true

end TypeSet

namespace Rule

/-- The rules that do not ask for names, in the order in which they are tried. -/
def general : List Rule :=
  [anyType, exactKind, scalar, number, uint, iterable, callable, anyResource, anyObject]

/-- The place of a rule in the order. The two rules that ask for names share the last place. -/
def rank (r : Rule) : Nat :=
  general.idxOf r

/-- What a rule asks of a set and of a value. -/
def Applies (p : Provider) (s : TypeSet) (v : Value) : Rule → Prop
  | anyType => s.isEmpty = true ∨ s.contains (.pseudo .mixed) = true
  | exactKind => s.contains (.ofValue v) = true
  | scalar => s.Admits p (.pseudo .scalar) v
  | number => s.Admits p (.pseudo .number) v
  | uint => s.Admits p (.pseudo .uint) v
  | iterable => s.Admits p (.pseudo .iterable) v
  | callable => s.Admits p (.pseudo .callable) v
  | anyResource => s.Admits p (.basic .resource) v
  | anyObject => s.Admits p (.basic .object) v
  | classOrInterface =>
    ∃ o n, v = .object o ∧ s.Decides p v n ∧ p.Supertype o.className.text n
  | trait =>
    ∃ o n, v = .object o ∧ s.Decides p v n ∧ p.Carries o.className.text n ∧
      ¬ p.Supertype o.className.text n

/-- A rule applies, and none that applies comes before it. -/
def First (p : Provider) (s : TypeSet) (v : Value) (r : Rule) : Prop :=
  r.Applies p s v ∧ ∀ other : Rule, other.Applies p s v → r.rank ≤ other.rank

end Rule

end RuntimeTypes
