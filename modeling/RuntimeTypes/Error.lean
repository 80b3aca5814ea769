import RuntimeTypes.Kind
import RuntimeTypes.Unicode.Printable

/-!
# Errors

What can go wrong, by cause, and the one place where the causes are put into words. Texts inside
messages stand in double quotes, with numerals for the characters that would not show.
-/

namespace RuntimeTypes.Text

/-! ## Numerals

Decimal text is `Nat.repr` and `Int.repr` of the standard library; hexadecimal text is here, with
lower-case digits, either bare or of a fixed width.
-/

/-- A natural number in lower-case hexadecimal, without leading zeros. -/
def hex (n : Nat) : String :=
  String.ofList (Nat.toDigits 16 n)

/-- The hexadecimal digit of weight `16 ^ i`. -/
def hexDigit (n i : Nat) : Char :=
  Nat.digitChar (n / Nat.pow 16 i % 16)

/-- The lowest `width` hexadecimal digits of a number, the highest first. -/
def hexDigits (n : Nat) : Nat → List Char
  | 0 => []
  | width + 1 => hexDigit n width :: hexDigits n width

/-- A word as exactly sixteen lower-case hexadecimal digits. -/
def hexWord (w : UInt64) : String :=
  String.ofList (hexDigits w.toNat 16)

theorem length_hexDigits (n width : Nat) : (hexDigits n width).length = width := by
  induction width with
  | zero => rfl
  | succ width ih => simp [hexDigits, ih]

/-! ## Quoted text

Texts inside messages stand in double quotes. Six characters have short escapes, every other
character that would not show on its own is written as its code point, and the rest is as it is.
-/

open Unicode (isDefaultIgnorable isGraphemeExtend isUnprintable)

/-- The two sound marks of halfwidth katakana. They extend a grapheme, but stand beside the
character before them. -/
def isHalfwidthSoundMark (c : Char) : Bool :=
  c = '\uff9e' || c = '\uff9f'

/-- Whether a character would not show on its own: it joins the character before it, is ignored,
or has no printed form. -/
def isHidden (c : Char) : Bool :=
  (isGraphemeExtend c && !isHalfwidthSoundMark c) || isDefaultIgnorable c || isUnprintable c

/-- A character written as its code point, such as `\u{a0}` for the no-break space. -/
def codePointEscape (c : Char) : String :=
  "\\u\x7b" ++ hex c.toNat ++ "\x7d"

/-- One character as it stands in quoted text. -/
def quoteChar (c : Char) : String :=
  match c with
  | '\x00' => "\\0"
  | '\t' => "\\t"
  | '\r' => "\\r"
  | '\n' => "\\n"
  | '"' => "\\\""
  | '\\' => "\\\\"
  | c => if isHidden c then codePointEscape c else c.toString

/-- A text in double quotes, with everything escaped that would not show. -/
def quote (s : String) : String :=
  "\"" ++ String.join (s.toList.map quoteChar) ++ "\""

end RuntimeTypes.Text

namespace RuntimeTypes

/-! ## Causes and messages -/

/-- Why a type text is refused. -/
inductive SpecFault where
  /-- Nothing is left of a part once it is trimmed. -/
  | emptyName
  /-- A part opens like a resource token and does not end like one. -/
  | malformedResource (part : String)
  /-- A part is no name of a type. -/
  | malformedName (part : String)
  /-- An object was to be made of something that is no class name. -/
  | invalidClassName
  /-- A resource was to be made of something that is no resource kind. -/
  | invalidResourceKind
  /-- A reason that a caller gives in words of its own. -/
  | other (reason : String)
  deriving DecidableEq, Repr

/-- Why a value has no identity key. -/
inductive Unencodable where
  | cycle
  | depthExceeded (limit : Nat)
  deriving DecidableEq, Repr

inductive Error where
  /-- A type text, or a name, does not follow the grammar. -/
  | invalidSpec (spec : String) (fault : SpecFault)
  /-- A type name was expected and a value of another kind was found. -/
  | invalidArgument (found : Kind)
  /-- A value does not satisfy its constraints. -/
  | disallowed (actual expected : String) (label : Option String)
  | unencodable (reason : Unencodable)
  deriving DecidableEq, Repr

def SpecFault.message : SpecFault → String
  | emptyName => "empty type name"
  | malformedResource part => "invalid resource kind " ++ Text.quote part
  | malformedName part => "invalid type name " ++ Text.quote part
  | invalidClassName => "invalid class name"
  | invalidResourceKind => "invalid resource kind"
  | other reason => reason

def Unencodable.message : Unencodable → String
  | cycle => "array contains a reference to itself"
  | depthExceeded limit => "max nesting depth (" ++ limit.repr ++ ") exceeded"

def Error.message : Error → String
  | invalidSpec spec fault => "invalid type spec " ++ Text.quote spec ++ ": " ++ fault.message
  | invalidArgument found =>
    "invalid type argument: expected a string type name, got " ++ found.name
  | disallowed actual expected label =>
    let place := match label with
      | some label => " for " ++ label
      | none => ""
    "disallowed type" ++ place ++ ": expected " ++ expected ++ ", got " ++ actual
  | unencodable reason => "unencodable value: " ++ reason.message

end RuntimeTypes
