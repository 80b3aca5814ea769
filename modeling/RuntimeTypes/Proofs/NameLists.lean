import Mathlib.Data.List.TakeWhile
import RuntimeTypes.Proofs.Nullable

/-!
# Lists of names and unions

A list of names is read name by name, and a union is trimmed, freed of its question marks and split.
Names that are read hold no bar and no question mark, so joined by bars they are split again into
themselves. The other way the two part company in two places only: a name with a bar in it is split
further in a union, and one with a question mark in front gives null to a union if it is the first.
-/

namespace RuntimeTypes

variable {front text first : List Char} {parts others : List (List Char)} {tokens : List Token}

namespace TypeSpec

/-! ## Names joined by bars -/

theorem takeWhile_intercalate (bar : '|' ∉ first) :
    (['|'].intercalate (first :: others)).takeWhile (· ≠ '|') = first := by
  have whole : ∀ c ∈ first, decide (c ≠ '|') = true := by
    intro c mem
    refine decide_eq_true ?_
    rintro rfl
    exact bar mem
  by_cases last : others = []
  · subst last
    rw [List.intercalate_singleton, List.takeWhile_eq_self_iff]
    exact whole
  · rw [List.intercalate_cons_of_ne_nil last, List.append_assoc,
      List.takeWhile_append_of_pos whole]
    simp

theorem opens_of_intercalate (bar : '|' ∉ first) (blank : Text.IsBlank front)
    (opens : ['|'].intercalate (first :: others) = front ++ '?' :: text) :
    (Text.trim first).head? = some '?' := by
  have solid : ∀ c ∈ front, decide (c ≠ '|') = true := by
    intro c mem
    refine decide_eq_true ?_
    rintro rfl
    exact absurd (blank _ mem) (by decide)
  have until_bar : (['|'].intercalate (first :: others)).takeWhile (· ≠ '|') = first :=
    takeWhile_intercalate bar
  rw [opens, List.takeWhile_append_of_pos solid, List.takeWhile_cons_of_pos (by decide)] at until_bar
  rw [← until_bar]
  exact Text.head?_trim blank (by decide)

/-- Names without a bar, the first of which does not open with a question mark, are the parts of the
text that they are joined to. -/
theorem marked_intercalate_iff (bars : ∀ s ∈ first :: others, '|' ∉ s)
    (opens : (Text.trim first).head? ≠ some '?') :
    Marked (['|'].intercalate (first :: others)) tokens ↔ PartsSpell (first :: others) tokens := by
  constructor
  · intro marked
    obtain ⟨whole, eq⟩ : ∃ whole, ['|'].intercalate (first :: others) = whole := ⟨_, rfl⟩
    rw [eq] at marked
    cases marked with
    | parts some spell =>
      have split := splitOn_of_partsSpell some spell
      rw [← eq, List.splitOn_intercalate '|' bars (by simp)] at split
      rwa [split]
    | mark blank _ =>
      have bar : '|' ∉ first := bars first (List.mem_cons_self ..)
      exact absurd (opens_of_intercalate bar blank eq) opens
  · exact .parts (List.cons_ne_nil first others)

/-! ## Reading -/

theorem parse_names_eq_ok_iff {texts : List String} :
    (names (texts.map .string)).parse = .ok tokens ↔
      PartsSpell (texts.map String.toList) tokens := by
  rw [parse, mapM_eq_ok_iff, List.forall₂_map_left_iff, PartsSpell, List.forall₂_map_left_iff]
  simp only [nameToken, Token.parse_eq_ok_iff]

theorem parse_union_intercalate_eq_ok_iff {texts : List String} :
    (union ("|".intercalate texts)).parse = .ok tokens ↔
      Marked (['|'].intercalate (texts.map String.toList)) tokens := by
  rw [parse_union_eq_ok_iff, unionTokens_eq_ok_iff, String.toList_intercalate]
  rfl

theorem exists_parse_of_mem {elements : List Value} {s : String}
    (read : (names elements).parse = .ok tokens) (mem : .string s ∈ elements) :
    ∃ t, Token.parse s = .ok t :=
  exists_mapM_eq_ok_iff.1 ⟨tokens, read⟩ (.string s) mem

theorem exists_parse_names_eq_error {elements : List Value} {s : String}
    (mem : .string s ∈ elements)
    (marked : '|' ∈ s.toList ∨ (Text.trim s.toList).head? = some '?') :
    ∃ e, (names elements).parse = .error e := by
  obtain ⟨c, mark, held⟩ : ∃ c ∈ ['|', '?'], c ∈ s.toList := by
    rcases marked with bar | opens
    · exact ⟨_, by simp, bar⟩
    · exact ⟨'?', by simp, Text.mem_of_mem_trim (List.mem_of_head? opens)⟩
  cases read : (names elements).parse with
  | error e => exact ⟨e, rfl⟩
  | ok tokens =>
    obtain ⟨t, token⟩ := exists_parse_of_mem read mem
    exact absurd held ((Token.parse_eq_ok_iff.1 token).not_mem_part mark)

/-- A list of names and the union of the same names agree. What a list is read as the union is read
as too; what a union is read as the list is, unless a name holds a bar or the first opens with a
question mark. A list with a name that holds a bar or opens with a question mark is refused,
wherever the name stands and whatever else the list holds. -/
theorem parse_names_and_parse_union (first : String) (others : List String) :
    (∀ tokens, (names ((first :: others).map .string)).parse = .ok tokens →
      (union ("|".intercalate (first :: others))).parse = .ok tokens) ∧
    (∀ tokens, (union ("|".intercalate (first :: others))).parse = .ok tokens →
      (∀ s ∈ first :: others, '|' ∉ s.toList) → (Text.trim first.toList).head? ≠ some '?' →
      (names ((first :: others).map .string)).parse = .ok tokens) ∧
    ∀ (elements : List Value) (s : String), .string s ∈ elements →
      '|' ∈ s.toList ∨ (Text.trim s.toList).head? = some '?' →
      ∃ e, (names elements).parse = .error e := by
  refine ⟨fun tokens read => ?_, fun tokens read bars opens => ?_, fun elements s =>
    exists_parse_names_eq_error⟩
  · have spell := parse_names_eq_ok_iff.1 read
    exact parse_union_intercalate_eq_ok_iff.2 (.parts (by simp) spell)
  · have marked := parse_union_intercalate_eq_ok_iff.1 read
    have bars : ∀ cs ∈ first.toList :: others.map String.toList, '|' ∉ cs := by
      simpa using bars
    exact parse_names_eq_ok_iff.2 ((marked_intercalate_iff bars opens).1 marked)

/-- A list with one name twice is read, and so is the union of the two. A union of a class and a kind
of resources is read, and so is the list of the two. With a nullable name the list is refused. -/
theorem parse_names_and_parse_union_of_cart :
    let ints := [" int", "int "]
    let parts := ["\\Shop\\Cart ", "resource (a b)"]
    let tokens : List Token := [.named "Shop\\Cart", .resource "a b"]
    ((names (ints.map .string)).parse = .ok [.basic .int, .basic .int] ∧
      (union ("|".intercalate parts)).parse = .ok tokens ∧ (∀ s ∈ parts, '|' ∉ s.toList) ∧
      (Text.trim "\\Shop\\Cart ".toList).head? ≠ some '?' ∧
      (Text.trim " ?int".toList).head? = some '?') ∧
    (union ("|".intercalate ints)).parse = .ok [.basic .int, .basic .int] ∧
    (names (parts.map .string)).parse = .ok tokens ∧
    ∃ e, (names [.string "int", .string " ?int", .int 5]).parse = .error e := by
  intro ints parts tokens
  have listed : (names (ints.map .string)).parse = .ok [.basic .int, .basic .int] := by
    decide +kernel
  have joined : (union ("|".intercalate parts)).parse = .ok tokens := by
    decide +kernel
  have bars : ∀ s ∈ parts, '|' ∉ s.toList := by
    decide
  have unmarked : (Text.trim "\\Shop\\Cart ".toList).head? ≠ some '?' := by
    decide
  have marked : (Text.trim " ?int".toList).head? = some '?' := by
    decide
  obtain ⟨unite, _, _⟩ := parse_names_and_parse_union " int" ["int "]
  obtain ⟨_, divide, refuse⟩ :=
    parse_names_and_parse_union "\\Shop\\Cart " ["resource (a b)"]
  exact ⟨⟨listed, joined, bars, unmarked, marked⟩, unite _ listed, divide _ joined bars unmarked,
    refuse _ " ?int" (by simp) (Or.inr marked)⟩

end TypeSpec

end RuntimeTypes
