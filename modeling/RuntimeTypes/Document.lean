import RuntimeTypes.TypeSet.Basic

/-!
# Documents

Tokens and constraint sets as structured data. A token is a record with a single field, whose name
tells the sort of the token. A set is a record with the list of its tokens.

Reading is wider than writing. The tag of a kind or pseudotype is written as a text; it may also be
read from a record that has the tag as its only field, with nothing in it. A set may also be read
from its fields by position, a list that holds only the list of tokens; in a record, fields beside
that of the tokens are left alone. What is written reads back as the same token or set.
-/

namespace RuntimeTypes

/-- Structured data. -/
inductive Document where
  | null
  | bool (b : Bool)
  /-- The number `mantissa * 10 ^ (-places)`. -/
  | number (mantissa : Int) (places : Nat)
  | text (s : String)
  | list (items : List Document)
  | record (fields : List (String × Document))
  deriving Inhabited

namespace Document

def field? (name : String) : Document → Option Document
  | record fields => (fields.find? fun f => f.1 = name).map Prod.snd
  | _ => none

/-- The tag that a document stands for: a text, or a record with one empty field of that name. -/
def tag? : Document → Option String
  | text tag => some tag
  | record [(tag, null)] => some tag
  | _ => none

/-- The documents of the tokens of a set, from the field of that name or from the only position. -/
def tokenList? : Document → Option (List Document)
  | list [list items] => some items
  | d => match d.field? "tokens" with
    | some (list items) => some items
    | _ => none

end Document

namespace Token

/-- A token as a record with one field. -/
def toDocument : Token → Document
  | basic kind => .record [("Basic", .text kind.tag)]
  | pseudo category => .record [("Pseudo", .text category.tag)]
  | resource kind => .record [("ResourceKind", .text kind)]
  | named name => .record [("Named", .text name)]

/-- Reads a token. Texts of resource kinds and names are taken as they are. -/
def ofDocument? : Document → Option Token
  | .record [("Basic", d)] => (d.tag?.bind Kind.ofTag?).map basic
  | .record [("Pseudo", d)] => (d.tag?.bind Pseudotype.ofTag?).map pseudo
  | .record [("ResourceKind", .text kind)] => some (resource kind)
  | .record [("Named", .text name)] => some (named name)
  | _ => none

theorem ofDocument?_toDocument (t : Token) : ofDocument? t.toDocument = some t := by
  cases t with
  | basic kind => simp [toDocument, ofDocument?, Document.tag?, Kind.ofTag?_tag]
  | pseudo category => simp [toDocument, ofDocument?, Document.tag?, Pseudotype.ofTag?_tag]
  | resource kind => rfl
  | named name => rfl

end Token

namespace TypeSet

/-- A set as a record with the list of its tokens. -/
def toDocument (s : TypeSet) : Document :=
  .record [("tokens", .list (s.toList.map Token.toDocument))]

/-- Reads a set. Tokens may be repeated and in any order. -/
def ofDocument? (d : Document) : Option TypeSet := do
  let items ← d.tokenList?
  let tokens ← items.mapM Token.ofDocument?
  return ofTokens tokens

theorem ofDocument?_toDocument (s : TypeSet) : ofDocument? s.toDocument = some s := by
  have reads (ts : List Token) : (ts.map Token.toDocument).mapM Token.ofDocument? = some ts := by
    induction ts with
    | nil => rfl
    | cons t ts ih => simp [Token.ofDocument?_toDocument, ih]
  simp [ofDocument?, toDocument, Document.tokenList?, Document.field?, reads, ofTokens_toList]

end TypeSet

end RuntimeTypes
