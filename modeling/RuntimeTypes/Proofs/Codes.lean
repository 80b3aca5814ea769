import RuntimeTypes.Identity.Encode
import Std.Data.String.ToInt

/-!
# Reading codes

A reader who knows where a code starts finds out where it ends: a number goes on as long as there
are digits, a measured text says how long it is, and the bits of a float take sixteen digits. So
the code of a value can be told from whatever follows it, as long as this does not open with a
digit, and no two values that differ in what their codes say share one.
-/

namespace RuntimeTypes

/-! ## Numbers and texts -/

namespace Text

/-- A text that a number before it does not run into. -/
def EndsNumber (x : String) : Prop :=
  ∀ c ∈ x.toList.head?, c.isDigit = false

theorem endsNumber_empty : EndsNumber "" := by
  simp [EndsNumber]

theorem endsNumber_append {x : String} {c : Char} (opens : x.toList.head? = some c)
    (letter : c.isDigit = false) (y : String) : EndsNumber (x ++ y) := by
  intro d hd
  rw [String.toList_append, List.head?_append, opens] at hd
  cases hd
  exact letter

theorem endsNumber_colon (x : String) : EndsNumber (":" ++ x) :=
  endsNumber_append rfl rfl x

theorem isDigit_of_mem_repr {n : Nat} {c : Char} (hc : c ∈ n.repr.toList) : c.isDigit = true := by
  rw [Nat.toList_repr] at hc
  exact Nat.isDigit_of_mem_toDigits (by decide) (by decide) hc

theorem takeWhile_repr_append (n : Nat) {x : String} (hx : EndsNumber x) :
    (n.repr ++ x).toList.takeWhile Char.isDigit = n.repr.toList := by
  rw [String.toList_append, List.takeWhile_append_of_pos fun _ => isDigit_of_mem_repr]
  cases rest : x.toList with
  | nil => simp
  | cons c cs => simp [hx c (by simp [rest])]

theorem repr_append_inj {m n : Nat} {x y : String} (hx : EndsNumber x) (hy : EndsNumber y)
    (eq : m.repr ++ x = n.repr ++ y) : m = n ∧ x = y := by
  have same : m.repr = n.repr := by
    rw [← String.toList_inj, ← takeWhile_repr_append m hx, eq, takeWhile_repr_append n hy]
  rw [same, String.append_right_inj] at eq
  exact ⟨Nat.repr_injective same, eq⟩

theorem repr_append_ne_minus (n : Nat) (x y : String) : n.repr ++ x ≠ "-" ++ y := by
  intro eq
  have front := congrArg (fun s => s.toList.head?) eq
  simp only [String.toList_append] at front
  cases digits : n.repr.toList with
  | nil => exact Nat.repr_ne_empty (String.toList_eq_nil_iff.1 digits)
  | cons c cs =>
    have digit : c.isDigit = true := isDigit_of_mem_repr (by rw [digits]; exact .head cs)
    rw [digits] at front
    cases front
    exact absurd digit (by decide)

theorem int_repr_append_inj {m n : Int} {x y : String} (hx : EndsNumber x) (hy : EndsNumber y)
    (eq : m.repr ++ x = n.repr ++ y) : m = n ∧ x = y := by
  rw [Int.repr_eq_if, Int.repr_eq_if] at eq
  split at eq <;> split at eq
  · obtain ⟨same, rest⟩ := repr_append_inj hx hy eq
    exact ⟨by omega, rest⟩
  · rw [String.append_assoc] at eq
    exact absurd eq (repr_append_ne_minus _ _ _)
  · rw [String.append_assoc] at eq
    exact absurd eq.symm (repr_append_ne_minus _ _ _)
  · rw [String.append_assoc, String.append_assoc, String.append_right_inj] at eq
    obtain ⟨same, rest⟩ := repr_append_inj hx hy eq
    exact ⟨by omega, rest⟩

theorem append_inj_of_size {s t x y : String} (size : s.utf8ByteSize = t.utf8ByteSize)
    (eq : s ++ x = t ++ y) : s = t ∧ x = y := by
  have bytes := congrArg String.toByteArray eq
  rw [String.toByteArray_append, String.toByteArray_append] at bytes
  have same : s = t := String.toByteArray_inj.1 (ByteArray.append_inj_left bytes size)
  rw [same, String.append_right_inj] at eq
  exact ⟨same, eq⟩

theorem digitChar_inj : ∀ i < 16, ∀ j < 16, Nat.digitChar i = Nat.digitChar j → i = j := by
  decide

theorem mod_eq_of_hexDigits {m n width : Nat} (same : hexDigits m width = hexDigits n width) :
    m % Nat.pow 16 width = n % Nat.pow 16 width := by
  induction width with
  | zero => simp [Nat.mod_one]
  | succ width ih =>
    simp only [hexDigits, List.cons.injEq] at same
    have digit := digitChar_inj _ (Nat.mod_lt _ (by decide)) _ (Nat.mod_lt _ (by decide)) same.1
    show m % (Nat.pow 16 width * 16) = n % (Nat.pow 16 width * 16)
    rw [Nat.mod_mul, Nat.mod_mul, ih same.2, digit]

theorem hexWord_append_inj {m n : UInt64} {x y : String}
    (eq : hexWord m ++ x = hexWord n ++ y) : m = n ∧ x = y := by
  have chars := congrArg String.toList eq
  simp only [hexWord, String.toList_append, String.toList_ofList] at chars
  obtain ⟨digits, rest⟩ := List.append_inj chars (by simp only [length_hexDigits])
  have small (k : UInt64) : k.toNat < Nat.pow 16 16 := k.toNat_lt
  have same := mod_eq_of_hexDigits digits
  rw [Nat.mod_eq_of_lt (small m), Nat.mod_eq_of_lt (small n)] at same
  exact ⟨UInt64.toNat_inj.1 same, String.toList_inj.1 rest⟩

end Text

namespace Identity

open Text

theorem measuredText_append_inj {tag s t x y : String}
    (eq : measuredText tag s ++ x = measuredText tag t ++ y) : s = t ∧ x = y := by
  simp only [measuredText, String.append_assoc, String.append_right_inj] at eq
  obtain ⟨size, eq⟩ := repr_append_inj (endsNumber_colon _) (endsNumber_colon _) eq
  rw [String.append_right_inj] at eq
  exact append_inj_of_size size eq

theorem number_append_inj {tag x y : String} {m n : Int} (hx : EndsNumber x) (hy : EndsNumber y)
    (eq : number tag m ++ x = number tag n ++ y) : m = n ∧ x = y := by
  simp only [number, String.append_assoc, String.append_right_inj] at eq
  exact int_repr_append_inj hx hy eq

/-! ## Codes of values -/

/-- The letter that the code of a value opens with. -/
def letter : Value → Char
  | .null => 'N'
  | .bool _ => 'B'
  | .int _ => 'I'
  | .float _ => 'D'
  | .string _ => 'S'
  | .array _ => 'A'
  | .object _ => 'O'
  | .resource _ => 'R'

theorem isDigit_letter (v : Value) : (letter v).isDigit = false := by
  cases v <;> rfl

theorem head?_headCode (h : Heap) (v : Value) :
    (headCode h v).toList.head? = some (letter v) := by
  cases v with
  | bool b => cases b <;> simp [headCode, letter]
  | _ => simp [headCode, letter, number, measuredText, arrayCode, String.toList_append]

theorem endsNumber_headCode_append (h : Heap) (v : Value) (x : String) :
    EndsNumber (headCode h v ++ x) :=
  endsNumber_append (head?_headCode h v) (isDigit_letter v) x

theorem letter_eq_of_append {h : Heap} {v w : Value} {x y : String}
    (eq : headCode h v ++ x = headCode h w ++ y) : letter v = letter w := by
  have front := congrArg (fun s => s.toList.head?) eq
  simp only [String.toList_append, List.head?_append, head?_headCode] at front
  exact Option.some.inj front

/-- What codes say of two values that have the same one: they agree, or they are arrays with the
same number of entries. -/
def SameHead (h : Heap) (v w : Value) : Prop :=
  v.agrees w = true ∨
    ∃ a b, v = .array a ∧ w = .array b ∧ (h.entries a).length = (h.entries b).length

/-- The code of a value can be told from what follows it. -/
theorem headCode_append_inj {h : Heap} {v w : Value} {x y : String} (hx : EndsNumber x)
    (hy : EndsNumber y) (eq : headCode h v ++ x = headCode h w ++ y) :
    SameHead h v w ∧ x = y := by
  have kinds := letter_eq_of_append eq
  cases v <;> cases w <;> try simp [letter] at kinds
  case null.null => exact ⟨Or.inl rfl, (String.append_right_inj _).1 eq⟩
  case bool.bool b c =>
    obtain ⟨same, rest⟩ := append_inj_of_size (by cases b <;> cases c <;> rfl) eq
    refine ⟨Or.inl ?_, rest⟩
    cases b <;> cases c <;> simp [headCode, Value.agrees] at same ⊢
  case int.int m n =>
    obtain ⟨same, rest⟩ := number_append_inj hx hy eq
    exact ⟨Or.inl (decide_eq_true (Int64.toInt_inj.1 same)), rest⟩
  case float.float b c =>
    simp only [headCode, String.append_assoc, String.append_right_inj] at eq
    obtain ⟨same, rest⟩ := hexWord_append_inj eq
    exact ⟨Or.inl (decide_eq_true same), rest⟩
  case string.string s t =>
    obtain ⟨same, rest⟩ := measuredText_append_inj eq
    exact ⟨Or.inl (decide_eq_true same), rest⟩
  case array.array a b =>
    simp only [headCode, arrayCode, String.append_assoc, String.append_right_inj] at eq
    obtain ⟨long, eq⟩ := repr_append_inj (endsNumber_colon _) (endsNumber_colon _) eq
    exact ⟨Or.inr ⟨a, b, rfl, rfl, long⟩, (String.append_right_inj _).1 eq⟩
  case object.object o p =>
    obtain ⟨same, rest⟩ := number_append_inj hx hy eq
    have id : o.id = p.id := congrArg InstanceId.mk (UInt64.toNat_inj.1 (Int.ofNat.inj same))
    exact ⟨Or.inl (decide_eq_true id), rest⟩
  case resource.resource r s =>
    simp only [headCode, String.append_assoc] at eq
    obtain ⟨-, eq⟩ := measuredText_append_inj eq
    obtain ⟨same, rest⟩ := repr_append_inj hx hy eq
    have id : r.id = s.id := congrArg InstanceId.mk (UInt64.toNat_inj.1 same)
    exact ⟨Or.inl (decide_eq_true id), rest⟩

/-- A key as the value it is written like. -/
def keyValue : Key → Value
  | .int n => .int n
  | .text s => .string s

theorem headCode_keyValue (h : Heap) (k : Key) : headCode h (keyValue k) = keyCode k := by
  cases k <;> rfl

theorem endsNumber_keyCode_append (k : Key) (x : String) : EndsNumber (keyCode k ++ x) :=
  headCode_keyValue .empty k ▸ endsNumber_headCode_append .empty (keyValue k) x

theorem keyCode_append_inj {k l : Key} {x y : String} (hx : EndsNumber x) (hy : EndsNumber y)
    (eq : keyCode k ++ x = keyCode l ++ y) : k = l ∧ x = y := by
  rw [← headCode_keyValue .empty, ← headCode_keyValue .empty] at eq
  obtain ⟨same, rest⟩ := headCode_append_inj hx hy eq
  refine ⟨?_, rest⟩
  cases k <;> cases l <;> simp [keyValue, SameHead, Value.agrees] at same ⊢ <;> exact same

end Identity

end RuntimeTypes
