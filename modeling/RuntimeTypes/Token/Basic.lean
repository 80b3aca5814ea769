import RuntimeTypes.Error
import RuntimeTypes.Value.Basic

/-!
# Type tokens

A token is one unit of a type text: a kind, a pseudotype, a resource kind, or the name of a class,
interface or trait. Tokens that are read follow the grammar, but a token can also be built directly
from any text.
-/

namespace RuntimeTypes

/-- One unit of a type specification. -/
inductive Token where
  /-- All values of a basic kind. -/
  | basic (kind : Kind)
  | pseudo (category : Pseudotype)
  /-- The resources of one kind. -/
  | resource (kind : String)
  /-- The objects of a class, interface or trait. -/
  | named (name : String)
  deriving DecidableEq, Repr

namespace Token

/-- How a resource token opens. -/
def resourceOpening : String := "resource ("

/-- A token as it stands in type texts. -/
def render : Token → String
  | basic kind => kind.name
  | pseudo category => category.name
  | resource kind => resourceOpening ++ kind ++ ")"
  | named name => name

/-- The token that names the type of a value: the class of an object, the kind of a resource, and
the basic kind of everything else. -/
def ofValue : Value → Token
  | .object o => named o.className.text
  | .resource r => resource r.kind.text
  | v => basic v.kind

def name? : Token → Option String
  | named name => some name
  | _ => none

/-! ## Order

Tokens are ordered by sort, kinds first, then pseudotypes, resource kinds and names; within a sort
by declaration order or by text. -/

/-- The place of a token among the sorts: kinds and pseudotypes have one each. -/
def place : Token → Nat
  | basic kind => kind.index
  | pseudo category => Kind.all.length + category.index
  | resource _ => Kind.all.length + Pseudotype.all.length
  | named _ => Kind.all.length + Pseudotype.all.length + 1

/-- The text that orders tokens of one place. -/
def spelling : Token → String
  | basic _ | pseudo _ => ""
  | resource kind => kind
  | named name => name

def compareTokens : Token → Token → Ordering :=
  compareLex (compareOn place) (compareOn spelling)

instance : Ord Token := ⟨compareTokens⟩

instance : Std.TransOrd Token :=
  inferInstanceAs (Std.TransCmp (compareLex (compareOn place) (compareOn spelling)))

theorem eq_of_place_of_spelling {t u : Token} (hp : t.place = u.place)
    (hs : t.spelling = u.spelling) : t = u := by
  have kinds := Kind.index_lt
  have categories := Pseudotype.index_lt
  cases t with
  | basic k =>
    have := kinds k
    cases u <;> simp only [place, basic.injEq, reduceCtorEq] at hp ⊢ <;> first
      | exact Kind.index_inj hp
      | omega
  | pseudo p =>
    have := categories p
    cases u with
    | basic k => have := kinds k; simp only [place] at hp; omega
    | pseudo q => exact congrArg pseudo (Pseudotype.index_inj (Nat.add_left_cancel hp))
    | _ => simp only [place] at hp; omega
  | resource s =>
    cases u with
    | basic k => have := kinds k; simp only [place] at hp; omega
    | pseudo q => have := categories q; simp only [place] at hp; omega
    | resource r => exact congrArg resource hs
    | named n => simp only [place] at hp; omega
  | named s =>
    cases u with
    | basic k => have := kinds k; simp only [place] at hp; omega
    | pseudo q => have := categories q; simp only [place] at hp; omega
    | resource r => simp only [place] at hp; omega
    | named n => exact congrArg named hs

instance : Std.LawfulEqOrd Token where
  eq_of_compare {t u} h := by
    have h : (compareOn place t u).then (compareOn spelling t u) = .eq := h
    rw [Ordering.then_eq_eq] at h
    exact eq_of_place_of_spelling (Std.LawfulEqOrd.eq_of_compare h.1)
      (Std.LawfulEqOrd.eq_of_compare h.2)

/-! ## Reading a token

A part of a type text is trimmed, and one leading separator is dropped. What is left is a reserved
name, a resource kind in parentheses, or a class name, in this order.
-/

/-- A part of a type text without the white space around it and without one leading separator. -/
def bare (part : List Char) : List Char :=
  Text.dropLeading Name.separator (Text.trim part)

/-- What the resource token `name` holds, where the name opens like one. -/
def resourceKind? (name : List Char) : Option (Except SpecFault Token) :=
  match Text.afterOpening? resourceOpening.toList name with
  | none => none
  | some rest =>
    match Text.beforeFinal? ')' rest with
    | none => some (.error (.malformedResource (String.ofList name)))
    | some kind =>
      if Name.isResourceKind (String.ofList kind) then
        some (.ok (.resource (String.ofList kind)))
      else
        some (.error (.malformedResource (String.ofList name)))

/-- The token that a bare name stands for. -/
def ofBare (name : List Char) : Except SpecFault Token :=
  if name.isEmpty then .error .emptyName
  else
    match Kind.ofName? (String.ofList name) with
    | some kind => .ok (.basic kind)
    | none =>
      match Pseudotype.ofName? (String.ofList name) with
      | some category => .ok (.pseudo category)
      | none =>
        match resourceKind? name with
        | some result => result
        | none =>
          if Name.isClassName (String.ofList name) then .ok (.named (String.ofList name))
          else .error (.malformedName (String.ofList name))

/-- The token that one part of a type text stands for. -/
def ofPart (part : List Char) : Except SpecFault Token :=
  ofBare (bare part)

/-- Reads a single token. Neither unions nor question marks are understood here. -/
def parse (text : String) : Except Error Token :=
  match ofPart text.toList with
  | .ok token => .ok token
  | .error fault => .error (.invalidSpec text fault)

end Token

end RuntimeTypes
