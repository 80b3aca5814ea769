import RuntimeTypes.Proofs.Grammar
import RuntimeTypes.TypeSet.Growth

/-!
# Two spellings of null

A question mark in front of a type text adds null, and so does `|null` behind it. They are read in
different ways: the mark is taken off and the rest is trimmed again, the part behind is one more
piece of a split. But neither changes how the rest is read. A mark has to be followed by a type text
of its own, and so has a bar to be preceded by one, since no part that spells a token is empty. So
the two texts are refused together, and where they are read their tokens differ only in the place of
null.
-/

namespace RuntimeTypes

variable {text part : List Char} {tokens : List Token}

namespace TypeSpec

/-! ## Parts by splitting -/

theorem splitOn_of_partsSpell {parts : List (List Char)} (some : parts ≠ [])
    (spell : PartsSpell parts tokens) : (['|'].intercalate parts).splitOn '|' = parts :=
  List.splitOn_intercalate '|' (spell.not_mem (by simp)) some

theorem Marked.of_splitOn (spell : PartsSpell (text.splitOn '|') tokens) : Marked text tokens := by
  have marked := Marked.parts (List.splitOn_ne_nil '|' text) spell
  rwa [List.intercalate_splitOn] at marked

theorem splitOn_append_part (bar : '|' ∉ part) :
    (text ++ '|' :: part).splitOn '|' = text.splitOn '|' ++ [part] := by
  have alone : part.splitOn '|' = [part] := by
    have split : (['|'].intercalate [part]).splitOn '|' = [part] :=
      List.splitOn_intercalate '|' (by simpa using bar) (by simp)
    rwa [List.intercalate_singleton] at split
  rw [List.splitOn, List.splitOnP_append_cons _ _ (by simp), ← List.splitOn, ← List.splitOn, alone]

theorem partsSpell_append_iff {parts : List (List Char)} :
    PartsSpell (parts ++ [part]) tokens ↔
      ∃ front t, PartsSpell parts front ∧ Token.Spells (Token.bare part) t ∧
        tokens = front ++ [t] := by
  constructor
  · intro spell
    rw [PartsSpell, ← List.forall₂_reverse_iff, List.reverse_append, List.reverse_singleton,
      List.singleton_append, List.forall₂_cons_left_iff] at spell
    obtain ⟨t, front, last, rest, eq⟩ := spell
    refine ⟨front.reverse, t, ?_, last, ?_⟩
    · rwa [PartsSpell, ← List.forall₂_reverse_iff, List.reverse_reverse]
    · rw [← List.reverse_cons, ← eq, List.reverse_reverse]
  · rintro ⟨front, t, rest, last, rfl⟩
    exact List.rel_append rest (.cons last .nil)

/-! ## A mark in front, a part behind -/

theorem marked_mark_iff :
    Marked ('?' :: text) tokens ↔ ∃ rest, Marked text rest ∧ tokens = .basic .null :: rest := by
  constructor
  · intro marked
    obtain ⟨whole, eq⟩ : ∃ whole, '?' :: text = whole := ⟨_, rfl⟩
    rw [eq] at marked
    cases marked with
    | parts some spell => exact absurd (eq ▸ List.mem_cons_self ..) spell.mark_not_mem
    | @mark front _ _ blank rest =>
      -- White space in front would start with the question mark.
      cases front with
      | nil =>
        obtain ⟨-, rfl⟩ := List.cons.inj eq
        exact ⟨_, rest, rfl⟩
      | cons c front =>
        obtain ⟨rfl, -⟩ := List.cons.inj eq
        exact absurd (blank '?' (List.mem_cons_self ..)) (by decide)
  · rintro ⟨rest, marked, rfl⟩
    exact .mark Text.isBlank_nil marked

theorem marked_append_part_iff (bar : '|' ∉ part) (mark : '?' ∉ part) :
    Marked (text ++ '|' :: part) tokens ↔
      ∃ front t, Marked text front ∧ Token.Spells (Token.bare part) t ∧
        tokens = front ++ [t] := by
  constructor
  · intro marked
    obtain ⟨whole, eq⟩ : ∃ whole, text ++ '|' :: part = whole := ⟨_, rfl⟩
    rw [eq] at marked
    induction marked generalizing text with
    | parts some spell =>
      have split := splitOn_of_partsSpell some spell
      rw [← eq, splitOn_append_part bar] at split
      rw [← split, partsSpell_append_iff] at spell
      obtain ⟨front, t, rest, last, rfl⟩ := spell
      exact ⟨front, t, .of_splitOn rest, last, rfl⟩
    | @mark before _ _ blank _ ih =>
      -- The question mark stands in the text, since it does not stand in the part.
      rcases List.append_eq_append_iff.1 eq with ⟨inner, _, behind⟩ | ⟨inner, rfl, behind⟩
      · have mem : '?' ∈ '|' :: part := behind ▸ List.mem_append_right inner (List.mem_cons_self ..)
        exact absurd ((List.mem_cons.1 mem).resolve_left (by decide)) mark
      · cases inner with
        | nil => exact absurd (List.cons.inj behind).1 (by decide)
        | cons c inner =>
          obtain ⟨rfl, rest⟩ := List.cons.inj behind
          obtain ⟨front, t, marked, last, rfl⟩ := ih rest.symm
          exact ⟨.basic .null :: front, t, .mark blank marked, last, rfl⟩
  · rintro ⟨front, t, marked, last, rfl⟩
    induction marked with
    | parts some spell =>
      refine .of_splitOn ?_
      rw [splitOn_append_part bar, splitOn_of_partsSpell some spell]
      exact partsSpell_append_iff.2 ⟨_, t, spell, last, rfl⟩
    | mark blank _ ih =>
      rw [List.append_assoc, List.cons_append]
      exact .mark blank ih

theorem marked_append_null_iff :
    Marked (text ++ "|null".toList) tokens ↔
      ∃ front, Marked text front ∧ tokens = front ++ [.basic .null] := by
  have null : Token.ofPart "null".toList = .ok (.basic .null) := by decide
  have spelled (t : Token) : Token.Spells (Token.bare "null".toList) t ↔ t = .basic .null := by
    rw [← Token.ofPart_eq_ok_iff, null, Except.ok.injEq, eq_comm]
  rw [show "|null".toList = '|' :: "null".toList from rfl,
    marked_append_part_iff (by decide) (by decide)]
  simp only [spelled]
  constructor
  · rintro ⟨front, _, marked, rfl, eq⟩
    exact ⟨front, marked, eq⟩
  · rintro ⟨front, marked, eq⟩
    exact ⟨front, _, marked, rfl, eq⟩

end TypeSpec

namespace TypeSet

open TypeSpec (Marked)

variable {text : String} {s : TypeSet}

theorem ofText_eq_ok_iff :
    ofText text = .ok s ↔ ∃ tokens, Marked text.toList tokens ∧ s = ofTokens tokens := by
  simp only [← TypeSpec.unionTokens_eq_ok_iff, ← TypeSpec.parse_union_eq_ok_iff]
  rw [ofText, ofSpec]
  cases read : (TypeSpec.union text).parse with
  | ok tokens => simp [add_eq_ok read, ofTokens, eq_comm]
  | error e => simp [add_eq_error read]

theorem ofTokens_cons_null (tokens : List Token) :
    ofTokens (.basic .null :: tokens) = (ofTokens tokens).insert (.basic .null) :=
  ext_contains fun u => by
    simp only [ofTokens, contains_insert, contains_insertAll, List.mem_cons, or_assoc]

theorem ofTokens_append_null (tokens : List Token) :
    ofTokens (tokens ++ [.basic .null]) = (ofTokens tokens).insert (.basic .null) := by
  rw [ofTokens, insertAll, List.foldl_append]
  rfl

theorem ofText_mark_eq_ok_iff :
    ofText ("?" ++ text) = .ok s ↔ ∃ t, ofText text = .ok t ∧ s = t.insert (.basic .null) := by
  simp only [ofText_eq_ok_iff, String.toList_append]
  show (∃ tokens, Marked ('?' :: text.toList) tokens ∧ _) ↔ _
  simp only [TypeSpec.marked_mark_iff]
  constructor
  · rintro ⟨_, ⟨rest, marked, rfl⟩, rfl⟩
    exact ⟨_, ⟨rest, marked, rfl⟩, ofTokens_cons_null rest⟩
  · rintro ⟨_, ⟨rest, marked, rfl⟩, rfl⟩
    exact ⟨_, ⟨rest, marked, rfl⟩, (ofTokens_cons_null rest).symm⟩

theorem ofText_append_null_eq_ok_iff :
    ofText (text ++ "|null") = .ok s ↔ ∃ t, ofText text = .ok t ∧ s = t.insert (.basic .null) := by
  simp only [ofText_eq_ok_iff, String.toList_append, TypeSpec.marked_append_null_iff]
  constructor
  · rintro ⟨_, ⟨front, marked, rfl⟩, rfl⟩
    exact ⟨_, ⟨front, marked, rfl⟩, ofTokens_append_null front⟩
  · rintro ⟨_, ⟨front, marked, rfl⟩, rfl⟩
    exact ⟨_, ⟨front, marked, rfl⟩, (ofTokens_append_null front).symm⟩

/-- A question mark in front of a text and `|null` behind it mean the same, whatever the text is:
either both texts are refused, or both give one set. They are refused where the text itself is, and
otherwise the set is that of the text with null in it. -/
theorem ofText_mark_and_ofText_append_null (text : String) :
    ((∃ s, ofText ("?" ++ text) = .ok s ∧ ofText (text ++ "|null") = .ok s) ∨
      ((∃ e, ofText ("?" ++ text) = .error e) ∧ ∃ e, ofText (text ++ "|null") = .error e)) ∧
    ∀ s, ofText ("?" ++ text) = .ok s ↔
      ∃ t, ofText text = .ok t ∧ s = t.insert (.basic .null) := by
  refine ⟨?_, fun s => ofText_mark_eq_ok_iff⟩
  have agree (s : TypeSet) : ofText ("?" ++ text) = .ok s ↔ ofText (text ++ "|null") = .ok s :=
    ofText_mark_eq_ok_iff.trans ofText_append_null_eq_ok_iff.symm
  cases marked : ofText ("?" ++ text) with
  | ok s => exact Or.inl ⟨s, rfl, (agree s).1 marked⟩
  | error e =>
    refine Or.inr ⟨⟨e, rfl⟩, ?_⟩
    cases parted : ofText (text ++ "|null") with
    | ok s => exact absurd (marked.symm.trans ((agree s).2 parted)) (by simp)
    | error e' => exact ⟨e', rfl⟩

end TypeSet

end RuntimeTypes
