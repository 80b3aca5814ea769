import RuntimeTypes.Unicode.Classes

/-!
# Trimming and fixed ends

White space at both ends of a text, one leading character, and fixed openings and endings. Texts
are lists of characters here; callers convert at the border.
-/

namespace RuntimeTypes.Text

open Unicode (isWhiteSpace)

/-- Drops the white space at the start of a text. -/
def trimStart (cs : List Char) : List Char :=
  cs.dropWhile isWhiteSpace

def trimEnd (cs : List Char) : List Char :=
  (cs.reverse.dropWhile isWhiteSpace).reverse

def trim (cs : List Char) : List Char :=
  trimEnd (trimStart cs)

/-- Drops one leading `c`, if there is one. -/
def dropLeading (c : Char) : List Char → List Char
  | [] => []
  | d :: cs => if d = c then cs else d :: cs

/-- What follows the given opening, or `none` where the text opens otherwise. -/
def afterOpening? (opening cs : List Char) : Option (List Char) :=
  if opening.isPrefixOf cs then some (cs.drop opening.length) else none

/-- What precedes a final `c`, or `none` where the text ends otherwise. -/
def beforeFinal? (c : Char) (cs : List Char) : Option (List Char) :=
  if cs.getLast? = some c then some cs.dropLast else none

/-- A text that consists of white space. -/
def IsBlank (cs : List Char) : Prop :=
  ∀ c ∈ cs, isWhiteSpace c = true

/-! ## Lengths -/

theorem length_trimStart_le (cs : List Char) : (trimStart cs).length ≤ cs.length :=
  (List.dropWhile_sublist isWhiteSpace).length_le

/-! ## White space around a text -/

variable {front back cs ds : List Char}

theorem isBlank_nil : IsBlank [] := by
  simp [IsBlank]

theorem IsBlank.append (hf : IsBlank front) (hb : IsBlank back) : IsBlank (front ++ back) :=
  fun c hc => (List.mem_append.1 hc).elim (hf c) (hb c)

theorem IsBlank.reverse (hb : IsBlank back) : IsBlank back.reverse :=
  fun c hc => hb c (List.mem_reverse.1 hc)

theorem IsBlank.not_mem {c : Char} (hb : IsBlank back) (hc : isWhiteSpace c = false) : c ∉ back :=
  fun mem => Bool.false_ne_true (hc.symm.trans (hb c mem))

theorem trimStart_append (hf : IsBlank front) (cs : List Char) :
    trimStart (front ++ cs) = trimStart cs :=
  List.dropWhile_append_of_pos hf

theorem trimStart_eq_self (head : ∀ c ∈ cs.head?, isWhiteSpace c = false) : trimStart cs = cs := by
  cases cs with
  | nil => rfl
  | cons c cs => simp [trimStart, head c rfl]

theorem exists_append_trimStart (cs : List Char) :
    ∃ front, IsBlank front ∧ cs = front ++ trimStart cs :=
  ⟨cs.takeWhile isWhiteSpace, List.all_eq_true.1 List.all_takeWhile,
    List.takeWhile_append_dropWhile.symm⟩

theorem trimEnd_append (hb : IsBlank back) (cs : List Char) :
    trimEnd (cs ++ back) = trimEnd cs := by
  rw [trimEnd, List.reverse_append, List.dropWhile_append_of_pos hb.reverse, trimEnd]

theorem trimEnd_eq_self (last : ∀ c ∈ cs.getLast?, isWhiteSpace c = false) : trimEnd cs = cs := by
  have head : ∀ c ∈ cs.reverse.head?, isWhiteSpace c = false := by
    rwa [List.head?_reverse]
  have trimmed := trimStart_eq_self head
  rw [trimStart] at trimmed
  rw [trimEnd, trimmed, List.reverse_reverse]

theorem length_trimEnd_le (cs : List Char) : (trimEnd cs).length ≤ cs.length := by
  have short := length_trimStart_le cs.reverse
  rw [List.length_reverse] at short
  rw [trimEnd, List.length_reverse]
  exact short

theorem exists_trimEnd_append (cs : List Char) :
    ∃ back, IsBlank back ∧ cs = trimEnd cs ++ back := by
  obtain ⟨front, blank, eq⟩ := exists_append_trimStart cs.reverse
  refine ⟨front.reverse, blank.reverse, ?_⟩
  have flipped := congrArg List.reverse eq
  rwa [List.reverse_reverse, List.reverse_append] at flipped

theorem trimEnd_ne_append (hb : IsBlank back) (some : back ≠ []) : trimEnd cs ≠ ds ++ back := by
  intro eq
  obtain ⟨tail, blank, whole⟩ := exists_trimEnd_append cs
  have twice : trimEnd (trimEnd cs) = trimEnd cs := by
    rw [← trimEnd_append blank, ← whole]
  rw [eq, trimEnd_append hb] at twice
  have short := length_trimEnd_le ds
  have long := List.length_pos_iff.2 some
  rw [twice, List.length_append] at short
  omega

/-- What trimming the end leaves of a text with a solid rest is trimmed in that rest. -/
theorem trimEnd_append_of_ne_nil (cs : List Char) (solid : trimEnd ds ≠ []) :
    trimEnd (cs ++ ds) = cs ++ trimEnd ds := by
  have left : (ds.reverse.dropWhile isWhiteSpace).isEmpty = false := by
    simpa [trimEnd] using solid
  simp [trimEnd, List.dropWhile_append, left]

theorem trim_append_append (hf : IsBlank front) (hb : IsBlank back) (cs : List Char) :
    trim (front ++ cs ++ back) = trim cs := by
  rw [List.append_assoc, trim, trimStart_append hf, trimStart, List.dropWhile_append]
  split
  · rename_i blank
    have none : trimStart cs = [] := List.isEmpty_iff.1 blank
    have blank : trimStart (back ++ []) = [] := trimStart_append hb []
    rw [List.append_nil] at blank
    rw [trim, none, ← trimStart, blank]
  · rw [trimEnd_append hb, trim, trimStart]

theorem trim_eq_self (head : ∀ c ∈ cs.head?, isWhiteSpace c = false)
    (last : ∀ c ∈ cs.getLast?, isWhiteSpace c = false) : trim cs = cs := by
  rw [trim, trimStart_eq_self head, trimEnd_eq_self last]

theorem exists_append_trim_append (cs : List Char) :
    ∃ front back, IsBlank front ∧ IsBlank back ∧ cs = front ++ trim cs ++ back := by
  obtain ⟨front, hf, eq⟩ := exists_append_trimStart cs
  obtain ⟨back, hb, eq'⟩ := exists_trimEnd_append (trimStart cs)
  refine ⟨front, back, hf, hb, ?_⟩
  rw [List.append_assoc, trim, ← eq', ← eq]

theorem mem_trim {c : Char} (hc : c ∈ cs) (solid : isWhiteSpace c = false) : c ∈ trim cs := by
  obtain ⟨front, back, hf, hb, eq⟩ := exists_append_trim_append cs
  rw [eq, List.mem_append, List.mem_append] at hc
  exact (hc.resolve_right (hb.not_mem solid)).resolve_left (hf.not_mem solid)

theorem mem_of_mem_trim {c : Char} (hc : c ∈ trim cs) : c ∈ cs := by
  obtain ⟨front, back, _, _, eq⟩ := exists_append_trim_append cs
  rw [eq]
  exact List.mem_append_left _ (List.mem_append_right _ hc)

theorem head?_trim {c : Char} (hf : IsBlank front) (solid : isWhiteSpace c = false) :
    (trim (front ++ c :: cs)).head? = some c := by
  obtain ⟨back, blank, eq⟩ := exists_trimEnd_append (c :: cs)
  rw [trim, trimStart_append hf, trimStart_eq_self fun d hd => by cases hd; exact solid]
  cases trimmed : trimEnd (c :: cs) with
  | nil =>
    rw [trimmed, List.nil_append] at eq
    exact absurd (eq ▸ List.mem_cons_self ..) (blank.not_mem solid)
  | cons d ds =>
    rw [trimmed, List.cons_append] at eq
    exact congrArg some (List.cons.inj eq).1.symm

/-! ## A leading character -/

theorem exists_append_dropLeading (c : Char) (cs : List Char) :
    ∃ lead, (lead = [] ∨ lead = [c]) ∧ cs = lead ++ dropLeading c cs := by
  cases cs with
  | nil => exact ⟨[], Or.inl rfl, rfl⟩
  | cons d cs =>
    by_cases same : d = c
    · exact ⟨[c], Or.inr rfl, by simp [dropLeading, same]⟩
    · exact ⟨[], Or.inl rfl, by simp [dropLeading, same]⟩

end RuntimeTypes.Text
