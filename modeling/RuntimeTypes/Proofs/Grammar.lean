import RuntimeTypes.Proofs.Classification
import RuntimeTypes.Proofs.Traversal

/-!
# Type texts are read as the grammar says

A union is read exactly when the grammar accepts it, and as the tokens that the grammar gives it.
White space is the only freedom between the two: the reader trims the whole text, once more behind
each question mark, and each part, where the grammar lets white space stand around the marks. So
both are compared with a recursive form of the grammar, in which white space in front of a question
mark belongs to the mark and all other to the first or the last part.
-/

namespace RuntimeTypes

open Text (IsBlank)

variable {front back text padded part : List Char} {parts others : List (List Char)}
  {tokens : List Token}

/-! ## White space around parts -/

/-- A text is a part with white space around it. -/
def Padded (padded part : List Char) : Prop :=
  ∃ front back, IsBlank front ∧ IsBlank back ∧ padded = front ++ part ++ back

theorem Padded.bare_eq (pad : Padded padded part) : Token.bare padded = Token.bare part := by
  obtain ⟨front, back, hf, hb, rfl⟩ := pad
  exact Token.bare_append_append hf hb part

theorem Padded.not_mem {c : Char} (pad : Padded padded part) (hc : c ∉ part)
    (solid : Unicode.isWhiteSpace c = false) : c ∉ padded := by
  obtain ⟨front, back, hf, hb, rfl⟩ := pad
  simp only [List.mem_append, not_or]
  exact ⟨⟨hf.not_mem solid, hc⟩, hb.not_mem solid⟩

theorem not_mem_of_padded {c : Char} (pads : List.Forall₂ Padded others parts)
    (solid : Unicode.isWhiteSpace c = false) (apart : ∀ p ∈ parts, c ∉ p) :
    ∀ p ∈ others, c ∉ p := by
  induction pads with
  | nil => exact apart
  | cons pad _ ih =>
    rw [List.forall_mem_cons] at apart ⊢
    exact ⟨pad.not_mem apart.1 solid, ih apart.2⟩

/-- White space around a sequence of parts is white space around its first and last part. -/
theorem exists_padded (hf : IsBlank front) (hb : IsBlank back) (some : parts ≠ []) :
    ∃ others, List.Forall₂ Padded others parts ∧
      front ++ ['|'].intercalate parts ++ back = ['|'].intercalate others := by
  induction parts generalizing front with
  | nil => exact absurd rfl some
  | cons p rest ih =>
    by_cases last : rest = []
    · subst last
      refine ⟨[front ++ p ++ back], .cons ⟨front, back, hf, hb, rfl⟩ .nil, ?_⟩
      rw [List.intercalate_singleton, List.intercalate_singleton]
    · obtain ⟨others, pads, eq⟩ := ih Text.isBlank_nil last
      have some' : others ≠ [] := by
        rintro rfl
        cases pads
        exact last rfl
      rw [List.nil_append] at eq
      refine ⟨(front ++ p) :: others,
        .cons ⟨front, [], hf, Text.isBlank_nil, (List.append_nil _).symm⟩ pads, ?_⟩
      rw [List.intercalate_cons_of_ne_nil last, List.intercalate_cons_of_ne_nil some', ← eq]
      simp only [List.append_assoc]

/-! ## Parts and their tokens -/

/-- Each part spells the token at its place. -/
abbrev PartsSpell : List (List Char) → List Token → Prop :=
  List.Forall₂ fun p t => Token.Spells (Token.bare p) t

theorem PartsSpell.of_padded (spell : PartsSpell parts tokens)
    (pads : List.Forall₂ Padded others parts) : PartsSpell others tokens := by
  induction pads generalizing tokens with
  | nil => exact spell
  | cons pad _ ih =>
    cases spell with
    | cons first rest => exact .cons (pad.bare_eq ▸ first) (ih rest)

theorem PartsSpell.not_mem {c : Char} (spell : PartsSpell parts tokens) (hc : c ∈ ['|', '?']) :
    ∀ p ∈ parts, c ∉ p := by
  induction spell with
  | nil => simp
  | cons first _ ih =>
    rw [List.forall_mem_cons]
    exact ⟨first.not_mem_part hc, ih⟩

theorem PartsSpell.mark_not_mem (spell : PartsSpell parts tokens) :
    '?' ∉ ['|'].intercalate parts := by
  intro mem
  rcases Name.mem_intercalate mem with bar | ⟨p, hp, inner⟩
  · exact absurd bar (by decide)
  · exact spell.not_mem (by simp) p hp inner

theorem mapM_ofPart_eq_ok_iff : parts.mapM Token.ofPart = .ok tokens ↔ PartsSpell parts tokens := by
  rw [mapM_eq_ok_iff]
  simp only [Token.ofPart_eq_ok_iff]

theorem mapM_ofPart_eq_of_padded (pads : List.Forall₂ Padded others parts) :
    others.mapM Token.ofPart = parts.mapM Token.ofPart := by
  induction pads with
  | nil => rfl
  | cons pad _ ih =>
    rw [List.mapM_cons, List.mapM_cons, ih, Token.ofPart, pad.bare_eq, Token.ofPart]

theorem not_mem_of_mem_splitOn {c : Char} (mem : part ∈ text.splitOn c) : c ∉ part := by
  induction text generalizing part with
  | nil =>
    rw [List.splitOn_nil, List.mem_singleton] at mem
    rw [mem]
    exact List.not_mem_nil
  | cons d ds ih =>
    rw [List.splitOn_cons_eq_if_modifyHead] at mem
    split at mem
    · rcases List.mem_cons.1 mem with rfl | mem
      · exact List.not_mem_nil
      · exact ih mem
    · rename_i other
      obtain ⟨first, rest, split⟩ := List.exists_cons_of_ne_nil (List.splitOn_ne_nil c ds)
      rw [split, List.modifyHead_cons] at mem
      rcases List.mem_cons.1 mem with rfl | mem
      · have inner : c ∉ first := ih (split ▸ List.mem_cons_self ..)
        simp only [List.mem_cons, not_or]
        exact ⟨fun eq => other (by simp [eq]), inner⟩
      · exact ih (split ▸ List.mem_cons_of_mem _ mem)

theorem mapM_ofPart_splitOn_append (hf : IsBlank front) (hb : IsBlank back) (text : List Char) :
    ((front ++ text ++ back).splitOn '|').mapM Token.ofPart =
      (text.splitOn '|').mapM Token.ofPart := by
  obtain ⟨others, pads, eq⟩ := exists_padded hf hb (List.splitOn_ne_nil '|' text)
  have some : others ≠ [] := by
    rintro rfl
    exact List.splitOn_ne_nil '|' text (List.forall₂_nil_left_iff.1 pads)
  have apart : ∀ p ∈ others, '|' ∉ p :=
    not_mem_of_padded pads (by decide) fun p hp => not_mem_of_mem_splitOn hp
  rw [List.intercalate_splitOn] at eq
  rw [eq, List.splitOn_intercalate '|' apart some, mapM_ofPart_eq_of_padded pads]

namespace TypeSpec

/-! ## The grammar by recursion -/

/-- A type text is a question mark with white space in front and a type text behind, or parts with
bars between them. -/
inductive Marked : List Char → List Token → Prop where
  | parts {parts : List (List Char)} {tokens : List Token} (some : parts ≠ [])
    (spell : PartsSpell parts tokens) : Marked (['|'].intercalate parts) tokens
  | mark {front text : List Char} {tokens : List Token} (blank : IsBlank front)
    (rest : Marked text tokens) : Marked (front ++ '?' :: text) (.basic .null :: tokens)

theorem Marked.of_padded_parts (hf : IsBlank front) (hb : IsBlank back) (some : parts ≠ [])
    (spell : PartsSpell parts tokens) :
    Marked (front ++ ['|'].intercalate parts ++ back) tokens := by
  obtain ⟨others, pads, eq⟩ := exists_padded hf hb some
  have some' : others ≠ [] := by
    rintro rfl
    exact some (List.forall₂_nil_left_iff.1 pads)
  rw [eq]
  exact .parts some' (spell.of_padded pads)

theorem Marked.blank_append (hf : IsBlank front) (marked : Marked text tokens) :
    Marked (front ++ text) tokens := by
  cases marked with
  | parts some spell =>
    have padded := of_padded_parts hf Text.isBlank_nil some spell
    rwa [List.append_nil] at padded
  | mark blank rest =>
    rw [← List.append_assoc]
    exact .mark (hf.append blank) rest

theorem Marked.append_blank (hb : IsBlank back) (marked : Marked text tokens) :
    Marked (text ++ back) tokens := by
  induction marked with
  | parts some spell => exact of_padded_parts Text.isBlank_nil hb some spell
  | mark blank _ ih =>
    rw [List.append_assoc, List.cons_append]
    exact .mark blank ih

theorem Marked.marks_append {marks : List (List Char)} (blank : ∀ w ∈ marks, IsBlank w)
    (marked : Marked text tokens) :
    Marked (marks.flatMap (fun w => '?' :: w) ++ text)
      (List.replicate marks.length (.basic .null) ++ tokens) := by
  induction marks with
  | nil => exact marked
  | cons w marks ih =>
    rw [List.forall_mem_cons] at blank
    rw [List.flatMap_cons, List.append_assoc, List.cons_append, List.length_cons,
      List.replicate_succ, List.cons_append]
    exact .mark Text.isBlank_nil ((ih blank.2).blank_append blank.1)

/-- The recursive form of the grammar is the grammar. -/
theorem marked_iff_isUnion : Marked text tokens ↔ IsUnion text tokens := by
  constructor
  · intro marked
    induction marked with
    | parts some spell =>
      obtain ⟨long, each⟩ := List.forall₂_iff_zip.1 spell
      exact ⟨[], [], [], _, _, Text.isBlank_nil, Text.isBlank_nil, by simp, some, by simp, long,
        fun p hp => Token.spellsPart_iff.2 (each hp), rfl⟩
    | @mark w text tokens blank _ ih =>
      obtain ⟨front, back, marks, parts, spelled, hf, hb, hm, some, rfl, long, each, rfl⟩ := ih
      -- The white space in front of the rest now follows a question mark.
      refine ⟨w, back, front :: marks, parts, spelled, blank, hb, ?_, some, by simp, long, each,
        by simp [List.replicate_succ]⟩
      exact List.forall_mem_cons.2 ⟨hf, hm⟩
  · rintro ⟨front, back, marks, parts, spelled, hf, hb, hm, some, rfl, long, each, rfl⟩
    have spell : PartsSpell parts spelled :=
      List.forall₂_iff_zip.2 ⟨long, fun {a b} mem => Token.spellsPart_iff.1 (each (a, b) mem)⟩
    have marked := ((Marked.parts some spell).marks_append hm).blank_append hf
    rw [← List.append_assoc] at marked
    exact marked.append_blank hb

/-! ## The reader -/

theorem markedTokens_of_mark {next : Char} {rest : List Char}
    (opens : Text.trimStart text = '?' :: next :: rest) :
    markedTokens text = (markedTokens (next :: rest)).map (.basic .null :: ·) := by
  rw [markedTokens]
  split
  · rename_i opens'
    rw [opens] at opens'
    cases opens'
    cases markedTokens (next :: rest) <;> rfl
  · rename_i other
    exact absurd opens (other next rest)

theorem markedTokens_of_unmarked
    (opens : ∀ next rest, Text.trimStart text ≠ '?' :: next :: rest) :
    markedTokens text = ((Text.trimStart text).splitOn '|').mapM Token.ofPart := by
  rw [markedTokens]
  split
  · rename_i next rest opens'
    exact absurd opens' (opens next rest)
  · rfl

theorem marked_of_markedTokens (read : markedTokens text = .ok tokens) : Marked text tokens := by
  induction text using markedTokens.induct generalizing tokens with
  | case1 text next rest opens ih =>
    obtain ⟨front, blank, eq⟩ := Text.exists_append_trimStart text
    rw [markedTokens_of_mark opens] at read
    cases inner : markedTokens (next :: rest) with
    | error fault =>
      rw [inner] at read
      cases read
    | ok others =>
      rw [inner] at read
      cases read
      rw [eq, opens]
      exact .mark blank (ih inner)
  | case2 text opens =>
    obtain ⟨front, blank, eq⟩ := Text.exists_append_trimStart text
    rw [markedTokens_of_unmarked opens] at read
    have marked := Marked.parts (List.splitOn_ne_nil '|' _) (mapM_ofPart_eq_ok_iff.1 read)
    rw [List.intercalate_splitOn] at marked
    rw [eq]
    exact marked.blank_append blank

theorem marked_of_unionTokens (read : unionTokens text = .ok tokens) : Marked text tokens := by
  obtain ⟨back, blank, eq⟩ := Text.exists_trimEnd_append text
  rw [eq]
  exact (marked_of_markedTokens read).append_blank blank

theorem unmarked_of_not_mem (noMark : '?' ∉ text) : Unmarked text := by
  rintro front rest _ rfl
  simp at noMark

theorem unionTokens_of_unmarked (unmarked : Unmarked text) :
    unionTokens text = (text.splitOn '|').mapM Token.ofPart := by
  obtain ⟨back, hb, eq⟩ := Text.exists_trimEnd_append text
  obtain ⟨front, hf, eq'⟩ := Text.exists_append_trimStart (Text.trimEnd text)
  have around : text = front ++ Text.trimStart (Text.trimEnd text) ++ back := by
    rw [← eq', ← eq]
  have opens : ∀ next rest, Text.trimStart (Text.trimEnd text) ≠ '?' :: next :: rest := by
    intro next rest opens
    rw [opens, List.append_assoc, List.cons_append] at around
    have blank : IsBlank (next :: rest ++ back) := unmarked front _ hf around
    have end_blank : IsBlank (next :: rest) := fun c hc => blank c (List.mem_append_left _ hc)
    rw [opens, List.append_cons] at eq'
    exact Text.trimEnd_ne_append end_blank (by simp) eq'
  rw [unionTokens, markedTokens_of_unmarked opens, ← mapM_ofPart_splitOn_append hf hb, ← around]

theorem unionTokens_of_mark (blank : IsBlank front) (solid : ¬ IsBlank text) :
    unionTokens (front ++ '?' :: text) = (unionTokens text).map (.basic .null :: ·) := by
  have some : Text.trimEnd text ≠ [] := by
    intro none
    obtain ⟨back, hb, eq⟩ := Text.exists_trimEnd_append text
    rw [none, List.nil_append] at eq
    exact solid (eq ▸ hb)
  obtain ⟨next, rest, trimmed⟩ := List.exists_cons_of_ne_nil some
  have ends : Text.trimEnd ('?' :: text) = '?' :: next :: rest := by
    have kept := Text.trimEnd_append_of_ne_nil ['?'] some
    rwa [trimmed] at kept
  have opens : Text.trimStart (Text.trimEnd (front ++ '?' :: text)) = '?' :: next :: rest := by
    rw [Text.trimEnd_append_of_ne_nil front (by simp [ends]), ends, Text.trimStart_append blank]
    exact Text.trimStart_eq_self fun c hc => by cases hc; decide
  rw [unionTokens, markedTokens_of_mark opens, ← trimmed, ← unionTokens]

theorem unionTokens_of_parts (some : parts ≠ []) (spell : PartsSpell parts tokens) :
    unionTokens (['|'].intercalate parts) = .ok tokens := by
  rw [unionTokens_of_unmarked (unmarked_of_not_mem spell.mark_not_mem),
    List.splitOn_intercalate '|' (spell.not_mem (by simp)) some, mapM_ofPart_eq_ok_iff]
  exact spell

theorem unionTokens_of_isBlank (blank : IsBlank text) : unionTokens text = .error .emptyName := by
  have none : Text.trimEnd text = [] := by
    have trimmed := Text.trimEnd_append blank []
    rwa [List.nil_append] at trimmed
  rw [unionTokens, none, markedTokens_of_unmarked (by simp [Text.trimStart])]
  rfl

theorem unionTokens_of_marked (marked : Marked text tokens) : unionTokens text = .ok tokens := by
  induction marked with
  | parts some spell => exact unionTokens_of_parts some spell
  | @mark front text tokens blank _ ih =>
    -- What follows the question mark is read, so it is more than white space.
    have solid : ¬ IsBlank text := by
      intro none
      rw [unionTokens_of_isBlank none] at ih
      cases ih
    rw [unionTokens_of_mark blank solid, ih]
    rfl

theorem unionTokens_eq_ok_iff : unionTokens text = .ok tokens ↔ Marked text tokens :=
  ⟨marked_of_unionTokens, unionTokens_of_marked⟩

theorem parse_union_eq_ok_iff {text : String} :
    (union text).parse = .ok tokens ↔ unionTokens text.toList = .ok tokens := by
  rw [parse]
  cases unionTokens text.toList <;> simp

/-- A union is read exactly when the grammar accepts its text, and as the tokens that the grammar
gives it. Every other text is refused, and the error shows it whole. -/
theorem parse_union_iff_isUnion (text : String) :
    (∀ tokens, (union text).parse = .ok tokens ↔ IsUnion text.toList tokens) ∧
    ((∃ fault, (union text).parse = .error (.invalidSpec text fault)) ↔
      ∀ tokens, ¬ IsUnion text.toList tokens) := by
  have accepts (tokens : List Token) :
      (union text).parse = .ok tokens ↔ IsUnion text.toList tokens := by
    rw [parse_union_eq_ok_iff, unionTokens_eq_ok_iff, marked_iff_isUnion]
  refine ⟨accepts, ?_⟩
  simp only [← accepts, parse]
  cases unionTokens text.toList <;> simp

end TypeSpec

end RuntimeTypes
