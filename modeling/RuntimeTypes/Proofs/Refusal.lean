import RuntimeTypes.Proofs.Grammar
import RuntimeTypes.TypeSet.Growth
import RuntimeTypes.TypeSet.InPlace

/-!
# Refused specifications

Every text falls into question marks and parts, in one way only, and it is read part by part from the
left; a list is read element by element. So the first fault is the one that shows. Whoever asks for
the tokens of a specification gets this fault and has done nothing before.
-/

namespace RuntimeTypes

/-! ## Specifications are read by what they list

A text is read as the list of its marks and parts is, and what holds of lists of names holds of both
forms.
-/

open Text (IsBlank)

variable {text : List Char} {marks : Nat} {parts : List (List Char)} {tokens : List Token}

namespace TypeSpec

/-! ### Texts -/

theorem divided_of_unmarked (some : parts ≠ []) (bars : ∀ p ∈ parts, '|' ∉ p)
    (unmarked : Unmarked text) (eq : text = ['|'].intercalate parts) : Divided text 0 parts := by
  subst eq
  exact .parts some bars unmarked

theorem exists_divided (text : List Char) : ∃ marks parts, Divided text marks parts := by
  by_cases marked : ∃ front rest, IsBlank front ∧ text = front ++ '?' :: rest ∧ ¬ IsBlank rest
  · obtain ⟨front, rest, blank, eq, solid⟩ := marked
    obtain ⟨marks, parts, divided⟩ := exists_divided rest
    exact ⟨marks + 1, parts, eq ▸ .mark blank solid divided⟩
  · have unmarked : Unmarked text := fun front rest blank eq =>
      Classical.byContradiction fun solid => marked ⟨front, rest, blank, eq, solid⟩
    exact ⟨0, text.splitOn '|', divided_of_unmarked (List.splitOn_ne_nil '|' text)
      (fun p => not_mem_of_mem_splitOn) unmarked (List.intercalate_splitOn '|').symm⟩
termination_by text.length
decreasing_by
  rw [eq, List.length_append, List.length_cons]
  omega

theorem Divided.unique {marks' : Nat} {parts' : List (List Char)} (divided : Divided text marks parts)
    (divided' : Divided text marks' parts') : marks' = marks ∧ parts' = parts := by
  induction divided generalizing marks' with
  | @parts parts some bars unmarked =>
    -- The text gets a name, so that the other way to divide it can be taken apart.
    obtain ⟨whole, eq⟩ : ∃ whole, ['|'].intercalate parts = whole := ⟨_, rfl⟩
    rw [eq] at divided'
    cases divided' with
    | parts some' bars' =>
      have split := congrArg (List.splitOn '|') eq
      rw [List.splitOn_intercalate '|' bars some, List.splitOn_intercalate '|' bars' some'] at split
      exact ⟨rfl, split.symm⟩
    | mark blank solid => exact absurd (unmarked _ _ blank eq) solid
  | @mark front text marks parts blank solid _ ih =>
    obtain ⟨whole, eq⟩ : ∃ whole, front ++ '?' :: text = whole := ⟨_, rfl⟩
    rw [eq] at divided'
    cases divided' with
    | parts _ _ unmarked => exact absurd (unmarked _ _ blank eq.symm) solid
    | @mark front' text' marks' _ blank' _ rest =>
      have marked {front : List Char} (blank : IsBlank front) (text : List Char) :
          Text.trimStart (front ++ '?' :: text) = '?' :: text := by
        rw [Text.trimStart_append blank]
        exact Text.trimStart_eq_self fun c hc => by cases hc; decide
      have trimmed := congrArg Text.trimStart eq
      rw [marked blank, marked blank'] at trimmed
      cases trimmed
      obtain ⟨rfl, rfl⟩ := ih rest
      exact ⟨rfl, rfl⟩

theorem unionTokens_of_divided (divided : Divided text marks parts) :
    unionTokens text =
      (parts.mapM Token.ofPart).map (List.replicate marks (.basic .null) ++ ·) := by
  induction divided with
  | @parts parts some bars unmarked =>
    rw [unionTokens_of_unmarked unmarked, List.splitOn_intercalate '|' bars some]
    cases parts.mapM Token.ofPart <;> rfl
  | @mark front text marks parts blank solid _ ih =>
    rw [unionTokens_of_mark blank solid, ih]
    cases parts.mapM Token.ofPart <;> rfl

/-! ### What a specification lists -/

theorem exists_lists (spec : TypeSpec) : ∃ vs, spec.Lists vs := by
  cases spec with
  | union text =>
    obtain ⟨marks, parts, divided⟩ := exists_divided text.toList
    exact ⟨listed marks parts, .union divided⟩
  | names elements => exact ⟨elements, .names elements⟩

theorem Lists.unique {spec : TypeSpec} {vs ws : List Value} (lists : spec.Lists vs)
    (lists' : spec.Lists ws) : ws = vs := by
  cases lists with
  | names elements =>
    cases lists'
    rfl
  | union divided =>
    cases lists' with
    | union divided' =>
      obtain ⟨rfl, rfl⟩ := divided.unique divided'
      rfl

theorem Lists.mentions_iff {spec : TypeSpec} {vs : List Value} (lists : spec.Lists vs) {v : Value} :
    spec.Mentions v ↔ v ∈ vs := by
  constructor
  · rintro ⟨ws, lists', mem⟩
    rwa [lists.unique lists'] at mem
  · exact fun mem => ⟨vs, lists, mem⟩

/-! ### Reading what is listed -/

theorem nameToken_ofList_eq_ok_iff {part : List Char} {t : Token} :
    nameToken (.string (String.ofList part)) = .ok t ↔ Token.ofPart part = .ok t := by
  rw [nameToken, Token.parse, String.toList_ofList]
  cases Token.ofPart part <;> simp

theorem isName_iff {v : Value} : IsName v ↔ ∃ t, nameToken v = .ok t := by
  constructor
  · rintro ⟨s, t, rfl, read⟩
    exact ⟨t, by rw [nameToken, Token.parse, read]⟩
  · rintro ⟨t, read⟩
    cases v with
    | string s =>
      rw [nameToken, Token.parse] at read
      cases part : Token.ofPart s.toList with
      | ok u => exact ⟨s, u, rfl, part⟩
      | error fault =>
        rw [part] at read
        cases read
    | _ => cases read

theorem unionTokens_eq_ok_iff_of_divided (divided : Divided text marks parts) :
    unionTokens text = .ok tokens ↔ (listed marks parts).mapM nameToken = .ok tokens := by
  induction divided generalizing tokens with
  | @parts parts some bars unmarked =>
    rw [unionTokens_of_unmarked unmarked, List.splitOn_intercalate '|' bars some, listed,
      List.replicate_zero, List.nil_append, mapM_eq_ok_iff, mapM_eq_ok_iff,
      List.forall₂_map_left_iff]
    simp only [nameToken_ofList_eq_ok_iff]
  | @mark front text marks parts blank solid _ ih =>
    have null : nameToken (.string Kind.null.name) = .ok (.basic .null) := by decide +kernel
    have more : listed (marks + 1) parts = .string Kind.null.name :: listed marks parts := rfl
    rw [unionTokens_of_mark blank solid, more, mapM_eq_ok_iff, List.forall₂_cons_left_iff]
    simp only [← mapM_eq_ok_iff, ← ih, null]
    cases unionTokens text <;> simp [Except.map, eq_comm]

theorem Lists.parse_eq_ok_iff {spec : TypeSpec} {vs : List Value} (lists : spec.Lists vs) :
    spec.parse = .ok tokens ↔ vs.mapM nameToken = .ok tokens := by
  cases lists with
  | names elements => rfl
  | union divided => rw [parse_union_eq_ok_iff, unionTokens_eq_ok_iff_of_divided divided]

theorem exists_parse_iff {spec : TypeSpec} :
    (∃ ts, spec.parse = .ok ts) ↔ ∀ v, spec.Mentions v → IsName v := by
  obtain ⟨vs, lists⟩ := spec.exists_lists
  simp only [lists.parse_eq_ok_iff, lists.mentions_iff, isName_iff, exists_mapM_eq_ok_iff]

theorem mem_iff_of_parse {spec : TypeSpec} (read : spec.parse = .ok tokens) {t : Token} :
    t ∈ tokens ↔ ∃ v, spec.Mentions v ∧ nameToken v = .ok t := by
  obtain ⟨vs, lists⟩ := spec.exists_lists
  rw [lists.parse_eq_ok_iff] at read
  simp only [lists.mentions_iff, mem_iff_of_mapM_eq_ok read]

/-! ## The first fault -/

/-! ### Texts -/

theorem unionTokens_eq_error_iff {text : List Char} {fault : SpecFault} :
    unionTokens text = .error fault ↔ ∃ marks before part after,
      Divided text marks (before ++ part :: after) ∧
      (∀ p ∈ before, ∃ t, Token.ofPart p = .ok t) ∧ Token.ofPart part = .error fault := by
  have failed {marks : Nat} {parts : List (List Char)} (divided : Divided text marks parts) :
      unionTokens text = .error fault ↔ parts.mapM Token.ofPart = .error fault := by
    rw [unionTokens_of_divided divided]
    cases parts.mapM Token.ofPart <;> simp [Except.map]
  constructor
  · intro refused
    obtain ⟨marks, parts, divided⟩ := exists_divided text
    obtain ⟨before, part, after, rfl, read, fault⟩ := mapM_eq_error_iff.1 ((failed divided).1 refused)
    exact ⟨marks, before, part, after, divided, read, fault⟩
  · rintro ⟨marks, before, part, after, divided, read, fault⟩
    exact (failed divided).2 (mapM_eq_error_of_append read fault)

/-! ### Lists of names -/

theorem nameToken_of_not_string {v : Value} (other : ∀ s, v ≠ .string s) :
    nameToken v = .error (.invalidArgument v.kind) := by
  cases v with
  | string s => exact absurd rfl (other s)
  | _ => rfl

/-- A specification is refused for its first fault. -/
theorem parse_eq_error_iff {spec : TypeSpec} {e : Error} :
    spec.parse = .error e ↔ spec.FirstFault e := by
  constructor
  · intro failed
    cases spec with
    | union text =>
      cases read : unionTokens text.toList with
      | ok tokens =>
        rw [parse, read] at failed
        cases failed
      | error fault =>
        rw [parse, read] at failed
        cases failed
        obtain ⟨marks, before, part, after, divided, read, refused⟩ := unionTokens_eq_error_iff.1 read
        exact .part divided read refused
    | names elements =>
      rw [parse, mapM_eq_error_iff] at failed
      obtain ⟨before, v, after, rfl, read, refused⟩ := failed
      simp only [← isName_iff] at read
      by_cases text : ∃ s, v = .string s
      · obtain ⟨s, rfl⟩ := text
        rw [nameToken, Token.parse] at refused
        cases part : Token.ofPart s.toList with
        | ok t =>
          rw [part] at refused
          cases refused
        | error fault =>
          rw [part] at refused
          cases refused
          exact .name read part
      · have other : ∀ s, v ≠ .string s := fun s same => text ⟨s, same⟩
        rw [nameToken_of_not_string other] at refused
        cases refused
        exact .notText read other
  · rintro (⟨divided, read, refused⟩ | ⟨read, refused⟩ | ⟨read, other⟩)
    · rw [parse, unionTokens_eq_error_iff.2 ⟨_, _, _, _, divided, read, refused⟩]
    · refine mapM_eq_error_of_append (fun v hv => isName_iff.1 (read v hv)) ?_
      rw [nameToken, Token.parse, refused]
    · exact mapM_eq_error_of_append (fun v hv => isName_iff.1 (read v hv))
        (nameToken_of_not_string other)

example : (TypeSpec.union " ? ?int|in t|9").parse =
    .error (.invalidSpec " ? ?int|in t|9" (.malformedName "in t")) := by
  decide +kernel

end TypeSpec

namespace TypeSet

/-- A specification is read by all who ask for its tokens, or refused by all of them for the same
reason, which is its first fault. A set that it was to be added to is then as it was. -/
theorem refused_for_first_fault (s : TypeSet) (spec : TypeSpec) :
    ((∃ made grown all any only, ofSpec spec = .ok made ∧ s.add spec = .ok grown ∧
        (addInPlace spec).on s = (.ok (), grown) ∧ s.containsAll spec = .ok all ∧
        s.containsAny spec = .ok any ∧ s.containsOnly spec = .ok only) ∨
      ∃ e, ofSpec spec = .error e ∧ s.add spec = .error e ∧
        (addInPlace spec).on s = (.error e, s) ∧ s.containsAll spec = .error e ∧
        s.containsAny spec = .error e ∧ s.containsOnly spec = .error e) ∧
    ∀ e, ofSpec spec = .error e ↔ spec.FirstFault e := by
  constructor
  · cases read : spec.parse with
    | ok ts =>
      refine Or.inl ⟨ofTokens ts, s.insertAll ts, ts.all s.contains, ts.any s.contains,
        ofTokens ts = s, add_eq_ok read, add_eq_ok read, ?_, ?_, ?_, ?_⟩
      · rw [addInPlace_on, add_eq_ok read]
      · rw [containsAll_eq_map, read, Except.map]
      · rw [containsAny_eq_map, read, Except.map]
      · rw [containsOnly_eq_map, read, Except.map]
    | error e =>
      refine Or.inr ⟨e, add_eq_error read, add_eq_error read, ?_, ?_, ?_, ?_⟩
      · rw [addInPlace_on, add_eq_error read]
      · rw [containsAll_eq_map, read, Except.map]
      · rw [containsAny_eq_map, read, Except.map]
      · rw [containsOnly_eq_map, read, Except.map]
  · intro e
    rw [← TypeSpec.parse_eq_error_iff]
    cases read : spec.parse with
    | ok ts => simp [ofSpec, add_eq_ok read]
    | error e' => simp [ofSpec, add_eq_error read]

end TypeSet

end RuntimeTypes
