import RuntimeTypes.Proofs.Recursion

/-!
# Keys by depth

A key needs no record of the arrays it is inside of once the depth of nesting is given: a value has
a key to a depth when its arrays are nested no deeper, whatever they are inside of. The encoder
refuses an array that it is inside of, and such an array has no key to any depth; so it finds the
key of every value that has one to a depth within its limit.
-/

namespace RuntimeTypes

namespace Identity

/-- The codes of entries, one after the other, with the code of each value as given. -/
def spellEntries (value : Value → Option String) : List (Key × Value) → Option String
  | [] => some ""
  | (k, v) :: rest =>
    match value v, spellEntries value rest with
    | some text, some more => some (keyCode k ++ text ++ more)
    | _, _ => none

/-- The key of a value whose arrays are nested to a depth at most. -/
def spell (h : Heap) : Nat → Value → Option String
  | 0, .array _ => none
  | depth + 1, .array a =>
    (spellEntries (spell h depth) (h.entries a)).map (headCode h (.array a) ++ ·)
  | _, v => some (headCode h v)

variable {h : Heap} {m n : Nat} {v : Value} {a : ArrayRef} {key : String}
  {value value' : Value → Option String} {entries : List (Key × Value)}

theorem spell_of_not_array (scalar : ∀ a, v ≠ .array a) : spell h n v = some (headCode h v) := by
  cases v with
  | array a => exact absurd rfl (scalar a)
  | _ => cases n <;> rfl

theorem spell_array_eq_some_iff :
    spell h (n + 1) (.array a) = some key ↔
      ∃ text, spellEntries (spell h n) (h.entries a) = some text ∧
        headCode h (.array a) ++ text = key := by
  rw [spell, Option.map_eq_some_iff]

theorem spellEntries_cons_eq_some_iff {k : Key} :
    spellEntries value ((k, v) :: entries) = some key ↔
      ∃ text more, value v = some text ∧ spellEntries value entries = some more ∧
        keyCode k ++ (text ++ more) = key := by
  rw [spellEntries]
  cases value v <;> cases spellEntries value entries <;> simp [String.append_assoc]

/-! ## Greater depths -/

theorem spellEntries_mono (le : ∀ v text, value v = some text → value' v = some text)
    (spelled : spellEntries value entries = some key) :
    spellEntries value' entries = some key := by
  induction entries generalizing key with
  | nil => exact spelled
  | cons e entries ih =>
    obtain ⟨k, v⟩ := e
    rw [spellEntries_cons_eq_some_iff] at spelled ⊢
    obtain ⟨text, more, first, rest, eq⟩ := spelled
    exact ⟨text, more, le v text first, ih rest, eq⟩

theorem spell_mono (le : m ≤ n) (spelled : spell h m v = some key) : spell h n v = some key := by
  induction m generalizing n v key with
  | zero =>
    cases v with
    | array a => cases spelled
    | _ => cases n <;> exact spelled
  | succ m ih =>
    cases v with
    | array a =>
      obtain ⟨n, rfl⟩ := Nat.exists_eq_add_of_lt le
      rw [spell_array_eq_some_iff] at spelled ⊢
      obtain ⟨text, spelled, eq⟩ := spelled
      exact ⟨text, spellEntries_mono (fun v text => ih (by omega)) spelled, eq⟩
    | _ => cases n <;> exact spelled

theorem spell_eq_none_of_le (le : m ≤ n) (deep : spell h n v = none) : spell h m v = none := by
  cases spelled : spell h m v with
  | none => rfl
  | some key =>
    rw [spell_mono le spelled] at deep
    cases deep

/-! ## What the encoder finds -/

variable {limit : Option Nat} {inside : List ArrayRef}

theorem exists_spellEntries_of_nestedEntries
    (each : ∀ e ∈ entries, ∀ text, nested h limit inside e.2 = .ok text →
      ∃ n, (∀ l ∈ limit, n ≤ l - inside.length) ∧ spell h n e.2 = some text)
    (written : nestedEntries h limit inside entries = .ok key) :
    ∃ n, (∀ l ∈ limit, n ≤ l - inside.length) ∧ spellEntries (spell h n) entries = some key := by
  induction entries generalizing key with
  | nil =>
    rw [nestedEntries] at written
    cases written
    exact ⟨0, fun _ _ => Nat.zero_le _, rfl⟩
  | cons e entries ih =>
    obtain ⟨k, v⟩ := e
    obtain ⟨here, each⟩ := List.forall_mem_cons.1 each
    obtain ⟨text, more, first, rest, rfl⟩ := nestedEntries_cons_eq_ok_iff.1 written
    obtain ⟨m, within, spelled⟩ := here text first
    obtain ⟨n, within', spelled'⟩ := ih each rest
    -- Both are keys to the greater of the two depths.
    refine ⟨max m n, fun l hl => Nat.max_le.2 ⟨within l hl, within' l hl⟩, ?_⟩
    rw [spellEntries_cons_eq_some_iff]
    exact ⟨text, more, spell_mono (Nat.le_max_left m n) spelled,
      spellEntries_mono (fun _ _ => spell_mono (Nat.le_max_right m n)) spelled', rfl⟩

theorem exists_spell_of_nested (written : nested h limit inside v = .ok key) :
    ∃ n, (∀ l ∈ limit, n ≤ l - inside.length) ∧ spell h n v = some key := by
  induction inside, v using nested_induction h limit generalizing key with
  | scalar inside v scalar =>
    rw [nested_of_not_array scalar] at written
    cases written
    exact ⟨0, fun _ _ => Nat.zero_le _, spell_of_not_array scalar⟩
  | refused inside a reason refused =>
    rw [nested_array, refused] at written
    cases written
  | entered inside a entered ih =>
    obtain ⟨_, text, entries, rfl⟩ := nested_array_eq_ok_iff.1 written
    obtain ⟨n, within, spelled⟩ :=
      exists_spellEntries_of_nestedEntries (fun e he _ => ih e he) entries
    refine ⟨n + 1, fun l hl => ?_, spell_array_eq_some_iff.2 ⟨text, spelled, rfl⟩⟩
    have room := (enter_eq_ok_iff.1 entered).2 l hl
    have deeper := within l hl
    rw [List.length_cons] at deeper
    omega

theorem nestedEntries_of_spellEntries
    (le : ∀ v text, spell h n v = some text → nested h limit inside v = .ok text)
    (spelled : spellEntries (spell h n) entries = some key) :
    nestedEntries h limit inside entries = .ok key := by
  induction entries generalizing key with
  | nil =>
    cases spelled
    rw [nestedEntries]
  | cons e entries ih =>
    obtain ⟨k, v⟩ := e
    rw [spellEntries_cons_eq_some_iff] at spelled
    obtain ⟨text, more, first, rest, rfl⟩ := spelled
    rw [nestedEntries_cons, le v text first, ih rest]
    rfl

/-- A key to a depth that the limit leaves is written inside of arrays that have none. An array
that is not entered yet and has no key to a smaller depth is none of those it is inside of, and it
joins them for its own entries. -/
theorem nested_of_spell (spelled : spell h n v = some key)
    (around : ∀ b ∈ inside, spell h n (.array b) = none)
    (within : ∀ l ∈ limit, n ≤ l - inside.length) : nested h limit inside v = .ok key := by
  induction n generalizing inside v key with
  | zero =>
    cases v with
    | array a => cases spelled
    | _ => cases spelled; exact nested_of_not_array (by simp)
  | succ n ih =>
    have around' : ∀ b ∈ inside, spell h n (.array b) = none :=
      fun b hb => spell_eq_none_of_le (Nat.le_succ n) (around b hb)
    have within' : ∀ l ∈ limit, n ≤ l - inside.length :=
      fun l hl => Nat.le_of_succ_le (within l hl)
    cases shallow : spell h n v with
    | some key' =>
      rw [spell_mono (Nat.le_succ n) shallow] at spelled
      cases spelled
      exact ih shallow around' within'
    | none =>
      cases v with
      | array a =>
        have fresh : a ∉ inside := fun ha => by
          rw [around a ha] at spelled
          cases spelled
        have entered : enter limit inside.length (a ∈ inside) = .ok () :=
          enter_eq_ok_iff.2 ⟨decide_eq_false fresh, fun l hl => by have := within l hl; omega⟩
        obtain ⟨text, spelledEntries, rfl⟩ := spell_array_eq_some_iff.1 spelled
        have written : nestedEntries h limit (a :: inside) (h.entries a) = .ok text := by
          refine nestedEntries_of_spellEntries (fun v text hv => ih hv ?_ ?_) spelledEntries
          · intro b hb
            rcases List.mem_cons.1 hb with rfl | hb
            · exact shallow
            · exact around' b hb
          · intro l hl
            have := within l hl
            simp only [List.length_cons]
            omega
        rw [nested_array, entered, written]
        rfl
      | _ => rw [spell_of_not_array (by simp)] at shallow; cases shallow

theorem encode_eq_ok_iff :
    encode h limit v = .ok key ↔ ∃ n, (∀ l ∈ limit, n ≤ l) ∧ spell h n v = some key := by
  rw [encode_eq_nested]
  constructor
  · exact exists_spell_of_nested
  · rintro ⟨n, within, spelled⟩
    exact nested_of_spell spelled (by simp) within

end Identity

end RuntimeTypes
