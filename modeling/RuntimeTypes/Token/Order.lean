import RuntimeTypes.Token.Basic

/-!
# The order of tokens

The order that sets keep their tokens in, said without a comparison: by sort, then by declaration
order or by the bytes of the text.
-/

namespace RuntimeTypes.Text

/-! ## Texts as bytes

The bytes of a text, and their order. The code of a greater character has a greater first byte, or
is as long and greater at the first place where the two differ; so texts are in the order of their
bytes.
-/

/-- The bytes of a text, in UTF-8. -/
def bytes (s : String) : List UInt8 :=
  s.toUTF8.data.toList

theorem bytes_eq_flatMap (s : String) : bytes s = s.toList.flatMap String.utf8EncodeChar := by
  have eq : s.toUTF8 = (s.toList.flatMap String.utf8EncodeChar).toByteArray := by
    conv => lhs; rw [← String.ofList_toList (s := s)]
    rfl
  rw [bytes, eq, List.toList_data_toByteArray]

theorem ofNat_cons_lt {m n : Nat} {xs ys : List UInt8} (byte : n < 256)
    (lt : m < n ∨ m = n ∧ xs < ys) : UInt8.ofNat m :: xs < UInt8.ofNat n :: ys := by
  rw [List.cons_lt_cons_iff]
  rcases lt with lt | ⟨rfl, rest⟩
  · left
    rw [UInt8.lt_iff_toNat_lt, UInt8.toNat_ofNat', UInt8.toNat_ofNat']
    omega
  · exact Or.inr ⟨rfl, rest⟩

/-- What follows the codes of two characters does not matter for their order. -/
theorem utf8EncodeChar_append_lt {c d : Char} (lt : c < d) (xs ys : List UInt8) :
    String.utf8EncodeChar c ++ xs < String.utf8EncodeChar d ++ ys := by
  have codes : c.val.toNat < d.val.toNat := lt
  have bound : d.val.toNat < 1114112 := by
    have := d.valid
    unfold UInt32.isValidChar Nat.isValidChar at this
    omega
  rw [String.utf8EncodeChar, String.utf8EncodeChar]
  generalize c.val.toNat = m at codes
  generalize d.val.toNat = n at codes bound
  repeat' split
  -- A code of fewer bytes has a smaller first byte. There remain two, three and four bytes each.
  all_goals first
    | omega
    | exact ofNat_cons_lt (by omega) (Or.inl (by omega))
    | skip
  · by_cases first : m / 64 < n / 64
    · exact ofNat_cons_lt (by omega) (Or.inl (by omega))
    · refine ofNat_cons_lt (by omega) (Or.inr ⟨by omega, ?_⟩)
      exact ofNat_cons_lt (by omega) (Or.inl (by omega))
  · by_cases first : m / 4096 < n / 4096
    · exact ofNat_cons_lt (by omega) (Or.inl (by omega))
    · refine ofNat_cons_lt (by omega) (Or.inr ⟨by omega, ?_⟩)
      by_cases second : m / 64 < n / 64
      · exact ofNat_cons_lt (by omega) (Or.inl (by omega))
      · refine ofNat_cons_lt (by omega) (Or.inr ⟨by omega, ?_⟩)
        exact ofNat_cons_lt (by omega) (Or.inl (by omega))
  · by_cases first : m / 262144 < n / 262144
    · exact ofNat_cons_lt (by omega) (Or.inl (by omega))
    · refine ofNat_cons_lt (by omega) (Or.inr ⟨by omega, ?_⟩)
      by_cases second : m / 4096 < n / 4096
      · exact ofNat_cons_lt (by omega) (Or.inl (by omega))
      · refine ofNat_cons_lt (by omega) (Or.inr ⟨by omega, ?_⟩)
        by_cases third : m / 64 < n / 64
        · exact ofNat_cons_lt (by omega) (Or.inl (by omega))
        · refine ofNat_cons_lt (by omega) (Or.inr ⟨by omega, ?_⟩)
          exact ofNat_cons_lt (by omega) (Or.inl (by omega))

theorem append_lt_append_left {xs ys : List UInt8} (lt : xs < ys) (front : List UInt8) :
    front ++ xs < front ++ ys := by
  induction front with
  | nil => exact lt
  | cons b front ih => exact List.cons_lt_cons_iff.2 (Or.inr ⟨rfl, ih⟩)

theorem flatMap_utf8EncodeChar_lt {cs ds : List Char} (lt : cs < ds) :
    cs.flatMap String.utf8EncodeChar < ds.flatMap String.utf8EncodeChar := by
  induction lt with
  | @nil d ds =>
    obtain ⟨b, bs, code⟩ := List.exists_cons_of_ne_nil (String.utf8EncodeChar_ne_nil (c := d))
    rw [List.flatMap_nil, List.flatMap_cons, code]
    exact List.nil_lt_cons ..
  | rel lt => exact utf8EncodeChar_append_lt lt _ _
  | cons _ ih => exact append_lt_append_left ih _

theorem bytes_lt_bytes_iff {s t : String} : bytes s < bytes t ↔ s < t := by
  have mono {s t : String} (lt : s < t) : bytes s < bytes t := by
    rw [bytes_eq_flatMap, bytes_eq_flatMap]
    exact flatMap_utf8EncodeChar_lt lt
  refine ⟨fun lt => Decidable.byContradiction fun not_lt => ?_, mono⟩
  by_cases gt : t < s
  · exact List.lt_asymm lt (mono gt)
  · cases String.le_antisymm (String.not_lt.1 gt) (String.not_lt.1 not_lt)
    exact List.lt_irrefl _ lt

end RuntimeTypes.Text

namespace RuntimeTypes

/-! ## Earlier tokens -/

namespace Token

/-- The sorts in their order: kinds, pseudotypes, resource kinds, and names. -/
def sort : Token → Nat
  | basic _ => 0
  | pseudo _ => 1
  | resource _ => 2
  | named _ => 3

inductive Before : Token → Token → Prop where
  | sorts {t u : Token} (lower : t.sort < u.sort) : Before t u
  | kinds {j k : Kind} (earlier : j.index < k.index) : Before (.basic j) (.basic k)
  | pseudotypes {p q : Pseudotype} (earlier : p.index < q.index) : Before (.pseudo p) (.pseudo q)
  | resources {s t : String} (smaller : Text.bytes s < Text.bytes t) :
    Before (.resource s) (.resource t)
  | names {s t : String} (smaller : Text.bytes s < Text.bytes t) : Before (.named s) (.named t)

theorem compare_eq_lt_iff {t u : Token} :
    compare t u = .lt ↔ t.place < u.place ∨ t.place = u.place ∧ t.spelling < u.spelling := by
  show (compareOn place t u).then (compareOn spelling t u) = .lt ↔ _
  rw [Ordering.then_eq_lt, compareOn, compareOn, Nat.compare_eq_lt, Nat.compare_eq_eq]
  exact or_congr_right (and_congr_right fun _ => compareOfLessAndEq_eq_lt)

theorem place_lt_of_sort_lt {t u : Token} (lower : t.sort < u.sort) : t.place < u.place := by
  have kinds := Kind.index_lt
  have categories := Pseudotype.index_lt
  cases t with
  | basic j =>
    have := kinds j
    cases u <;> simp only [sort, place] at lower ⊢ <;> omega
  | pseudo p =>
    have := categories p
    cases u <;> simp only [sort, place] at lower ⊢ <;> omega
  | resource s => cases u <;> simp only [sort, place] at lower ⊢ <;> omega
  | named s => cases u <;> simp only [sort] at lower <;> omega

theorem compare_eq_lt_iff_before {t u : Token} : compare t u = .lt ↔ t.Before u := by
  rw [compare_eq_lt_iff]
  constructor
  · intro lt
    rcases Nat.lt_trichotomy t.sort u.sort with lower | same | higher
    · exact .sorts lower
    · cases t with
      | basic j =>
        cases u with
        | basic k => exact .kinds (lt.resolve_right fun h => String.lt_irrefl "" h.2)
        | _ => simp [sort] at same
      | pseudo p =>
        cases u with
        | pseudo q =>
          have lt := lt.resolve_right fun h => String.lt_irrefl "" h.2
          exact .pseudotypes (Nat.lt_of_add_lt_add_left lt)
        | _ => simp [sort] at same
      | resource s =>
        cases u with
        | resource r =>
          exact .resources (Text.bytes_lt_bytes_iff.2 (lt.resolve_left (Nat.lt_irrefl _)).2)
        | _ => simp [sort] at same
      | named s =>
        cases u with
        | named r => exact .names (Text.bytes_lt_bytes_iff.2 (lt.resolve_left (Nat.lt_irrefl _)).2)
        | _ => simp [sort] at same
    · have := place_lt_of_sort_lt higher
      omega
  · rintro (lower | earlier | earlier | smaller | smaller)
    · exact Or.inl (place_lt_of_sort_lt lower)
    · exact Or.inl earlier
    · exact Or.inl (Nat.add_lt_add_left earlier _)
    · exact Or.inr ⟨rfl, Text.bytes_lt_bytes_iff.1 smaller⟩
    · exact Or.inr ⟨rfl, Text.bytes_lt_bytes_iff.1 smaller⟩

end Token

end RuntimeTypes
