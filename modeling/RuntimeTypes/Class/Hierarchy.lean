import RuntimeTypes.Matching.Selection

/-!
# Remembered lineages

A hierarchy answers for the lineages of classes. It computes each of them once, the first time it
is asked for, and remembers it from then on, whatever its source says later. What it does besides
answering it reports as events.
-/

namespace RuntimeTypes

/-! ## Events

What the library reports about its work, besides the answers: refused specifications and values,
accepted values, and lineages computed. An event has a level, a message and named texts.
-/

/-- Something worth reporting. -/
inductive Event where
  | specRejected (spec : String) (error : Error)
  | encodingRefused (kind : Kind) (reason : Unencodable)
  | valueRejected (label : Option String) (actual expected : String)
  | valueAccepted (rule : Rule) (expected : String)
  /-- The lineage of a class was computed, with so many supertypes and traits. -/
  | lineageComputed (className : String) (supertypes traits : Nat)
  deriving DecidableEq, Repr

namespace Event

/-- Refusals are for debugging, the rest is for tracing. -/
def level : Event → String
  | specRejected .. | encodingRefused .. | valueRejected .. => "DEBUG"
  | valueAccepted .. | lineageComputed .. => "TRACE"

def message : Event → String
  | specRejected .. => "rejected type spec"
  | encodingRefused .. => "refusing to encode value"
  | valueRejected .. => "value rejected by type constraints"
  | valueAccepted .. => "value accepted"
  | lineageComputed .. => "computed class lineage"

def labelText : Option String → String
  | some label => "Some(" ++ Text.quote label ++ ")"
  | none => "None"

def fields : Event → List (String × String)
  | specRejected spec error => [("spec", spec), ("error", error.message)]
  | encodingRefused kind reason => [("kind", kind.name), ("reason", reason.message)]
  | valueRejected label actual expected =>
    [("label", labelText label), ("actual", actual), ("expected", expected)]
  | valueAccepted rule expected => [("rule", rule.tag), ("expected", expected)]
  | lineageComputed className supertypes traits =>
    [("class", className), ("supertypes", supertypes.repr), ("traits", traits.repr)]

/-- The events of reading a specification. -/
def ofParse (h : Heap) (spec : TypeSpec) : List Event :=
  match spec.parse with
  | .ok _ => []
  | .error error => [specRejected (spec.render h) error]

/-- The events of making the identity key of a value. -/
def ofEncode (v : Value) : Except Unencodable String → List Event
  | .ok _ => []
  | .error reason => [encodingRefused v.kind reason]

end Event

/-! ## Hierarchies -/

/-- A source of class relations, and the lineages computed from it so far. -/
structure Hierarchy where
  provider : Provider
  /-- The remembered lineages with their classes, in the order in which they were computed. -/
  cache : List (String × Lineage) := []

/-- A remembered lineage: its place in the cache, and the lineage itself. -/
structure Remembered where
  slot : Nat
  lineage : Lineage
  deriving DecidableEq

/-- The answer of a hierarchy, the hierarchy as it is afterwards, and what it reports. -/
structure Reply (α : Type) where
  answer : α
  hierarchy : Hierarchy
  events : List Event := []

namespace Reply

variable {α β : Type}

/-- An answer that the hierarchy has no part in. -/
def done (h : Hierarchy) (answer : α) : Reply α :=
  { answer := answer, hierarchy := h }

def map (f : α → β) (r : Reply α) : Reply β :=
  { r with answer := f r.answer }

/-- Asks on, knowing the answer of a reply. -/
def andThen (r : Reply α) (next : α → Hierarchy → Reply β) : Reply β :=
  let others := next r.answer r.hierarchy
  { others with events := r.events ++ others.events }

end Reply

namespace Hierarchy

/-- A hierarchy that remembers nothing yet. -/
def ofProvider (p : Provider) : Hierarchy := { provider := p }

def cachedCount (h : Hierarchy) : Nat :=
  h.cache.length

def remembered? (h : Hierarchy) (c : String) : Option Remembered :=
  (h.cache.zipIdx.find? fun row => row.1.1 = c).map fun row => ⟨row.2, row.1.2⟩

/-- The lineage of a class, remembered or computed. -/
def lineage (h : Hierarchy) (c : String) : Reply Remembered :=
  match h.remembered? c with
  | some known => { answer := known, hierarchy := h }
  | none =>
    let l := h.provider.lineage c
    { answer := ⟨h.cache.length, l⟩
      hierarchy := { h with cache := h.cache ++ [(c, l)] }
      events := [.lineageComputed c l.supertypes.size l.traits.size] }

end Hierarchy

end RuntimeTypes
