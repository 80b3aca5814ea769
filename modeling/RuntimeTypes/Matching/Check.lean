import RuntimeTypes.Class.Hierarchy

/-!
# Matching values

Whether a set accepts a value, asked of a hierarchy. The rules are tried in a fixed order and the
first that applies decides: the set accepts everything, it holds the value's own token, one of its
pseudotypes or general kinds covers the value, or one of its names belongs to the value's class.
-/

namespace RuntimeTypes

namespace Hierarchy

/-- The lineage of the class of a value, if the value is an object. -/
def lineageOf? (h : Hierarchy) (v : Value) : Reply (Option Lineage) :=
  match v.toObject? with
  | none => .done h none
  | some o => (h.lineage o.className.text).map fun known => some known.lineage

/-- Whether the class of a value has a flag. Nothing is asked where the flag is not wanted. -/
def hasFlag (h : Hierarchy) (wanted : Bool) (flag : Lineage → Bool) (v : Value) : Reply Bool :=
  if wanted then (h.lineageOf? v).map fun l => l.any flag else .done h false

/-- The first rule by which a set accepts a value. Lineages are asked for where a rule needs one. -/
def matchingRule (h : Hierarchy) (s : TypeSet) (v : Value) : Reply (Option Rule) :=
  if s.acceptsAny then .done h (some .anyType)
  else if s.contains (.ofValue v) then .done h (some .exactKind)
  else if s.contains (.pseudo .scalar) && v.kind.isScalar then .done h (some .scalar)
  else if s.contains (.pseudo .number) && v.isNumber then .done h (some .number)
  else if s.contains (.pseudo .uint) && v.isUnsigned then .done h (some .uint)
  else if s.contains (.pseudo .iterable) && v.isArray then .done h (some .iterable)
  else
    (h.hasFlag (s.contains (.pseudo .iterable)) Lineage.iterable v).andThen fun found h =>
    if found then .done h (some .iterable)
    else
      (h.hasFlag (s.contains (.pseudo .callable)) Lineage.invocable v).andThen fun found h =>
      if found then .done h (some .callable)
      else if s.contains (.basic .resource) && v.isResource then .done h (some .anyResource)
      else
        (h.lineageOf? v).map fun l => l.bind fun l =>
          if s.contains (.basic .object) then some .anyObject else s.namedRule? l

def accepts (h : Hierarchy) (s : TypeSet) (v : Value) : Reply Bool :=
  let found := h.matchingRule s v
  { found with answer := found.answer.isSome }

/-- Checks that a set accepts a value. The label says what is being checked. -/
def check (h : Hierarchy) (s : TypeSet) (v : Value) (label : Option String) :
    Reply (Except Error Unit) :=
  let found := h.matchingRule s v
  match found.answer with
  | some rule =>
    { found with answer := .ok (), events := found.events ++ [.valueAccepted rule s.render] }
  | none =>
    let actual := (Token.ofValue v).render
    { found with
      answer := .error (.disallowed actual s.render label)
      events := found.events ++ [.valueRejected label actual s.render] }

end Hierarchy

/-! ## Series of questions

The questions that a hierarchy answers, as data, and what a series of them leads to.
-/

/-- A question to a hierarchy. -/
inductive Question where
  | lineage (c : String)
  | rule (s : TypeSet) (v : Value)
  | accepts (s : TypeSet) (v : Value)
  | check (s : TypeSet) (v : Value) (label : Option String)

/-- The class whose lineage has to be known to answer a question, if there is one: the class that
is asked about, or the class that a match consults. -/
def Question.consulted? : Question → Option String
  | .lineage c => some c
  | .rule s v | .accepts s v | .check s v _ => s.consultedClass? v

/-- An answer, without the place in the cache that it came from. -/
inductive Answer where
  | lineage (l : Lineage)
  | rule (r : Option Rule)
  | accepts (b : Bool)
  | check (r : Except Error Unit)

/-- Whether an event tells of a lineage that was computed. -/
def Event.isComputation : Event → Bool
  | .lineageComputed .. => true
  | _ => false

/-- The event that tells of this lineage when it was computed for a class. -/
def Lineage.computation (l : Lineage) (c : String) : Event :=
  .lineageComputed c l.supertypes.size l.traits.size

namespace Hierarchy

/-- The classes with a remembered lineage, in the order in which the lineages were computed. -/
def classes (h : Hierarchy) : List String :=
  h.cache.map Prod.fst

def ask (h : Hierarchy) : Question → Reply Answer
  | .lineage c => (h.lineage c).map fun known => .lineage known.lineage
  | .rule s v => (h.matchingRule s v).map .rule
  | .accepts s v => (h.accepts s v).map .accepts
  | .check s v label => (h.check s v label).map .check

/-- Answers questions in turn, each by the hierarchy that the one before left. -/
def askAll (h : Hierarchy) : List Question → Reply (List Answer)
  | [] => { answer := [], hierarchy := h }
  | q :: qs =>
    let first := h.ask q
    let others := first.hierarchy.askAll qs
    { answer := first.answer :: others.answer
      hierarchy := others.hierarchy
      events := first.events ++ others.events }

end Hierarchy

end RuntimeTypes
