import RuntimeTypes.Proofs.Codes
import RuntimeTypes.Proofs.Equality
import RuntimeTypes.Proofs.Ownership
import RuntimeTypes.Proofs.Spelling

/-!
# Identity keys decide strict equality

Two keys that agree are read in step: the codes of two values end at the same place and say the
same, and then so do the codes of their entries, one after the other. So values with one key are
bisimilar. Bisimilar values of a built heap are written alike; only here it matters where values
come from, as the key of a resource shows its kind while resources are compared by number.
-/

namespace RuntimeTypes

namespace Identity

open Text Heap

variable {h : Heap} {n : Nat} {v w : Value} {s t x y : String}

/-! ## One key, one value -/

theorem spell_cases {key : String} (spelled : spell h n v = some key) :
    (∀ a, v ≠ .array a) ∧ key = headCode h v ∨
      ∃ a m text, v = .array a ∧ n = m + 1 ∧
        spellEntries (spell h m) (h.entries a) = some text ∧
        key = headCode h (.array a) ++ text := by
  cases v with
  | array a =>
    cases n with
    | zero => cases spelled
    | succ m =>
      obtain ⟨text, entries, eq⟩ := spell_array_eq_some_iff.1 spelled
      exact Or.inr ⟨a, m, text, rfl, rfl, entries, eq.symm⟩
  | _ =>
    rw [spell_of_not_array (by simp)] at spelled
    exact Or.inl ⟨by simp, (Option.some.inj spelled).symm⟩

theorem endsNumber_spell_append {key : String} (spelled : spell h n v = some key) (x : String) :
    EndsNumber (key ++ x) := by
  rcases spell_cases spelled with ⟨_, rfl⟩ | ⟨a, m, text, _, _, _, rfl⟩
  · exact endsNumber_headCode_append h v x
  · rw [String.append_assoc]
    exact endsNumber_headCode_append h _ _

theorem endsNumber_spellEntries_append {value : Value → Option String}
    {entries : List (Key × Value)} (spelled : spellEntries value entries = some s)
    (hx : EndsNumber x) : EndsNumber (s ++ x) := by
  cases entries with
  | nil =>
    cases spelled
    rw [String.empty_append]
    exact hx
  | cons e entries =>
    obtain ⟨text, more, _, _, rfl⟩ := spellEntries_cons_eq_some_iff.1 spelled
    rw [String.append_assoc]
    exact endsNumber_keyCode_append _ _

/-- Where the keys of values tell them apart from each other and from what follows, so do the codes
of equally many entries. -/
theorem entriesRelated_of_append {related : Value → Value → Prop}
    (decode : ∀ {v w s t x y}, spell h n v = some s → spell h n w = some t → EndsNumber x →
      EndsNumber y → s ++ x = t ++ y → related v w ∧ x = y)
    {es fs : List (Key × Value)} (long : es.length = fs.length)
    (hs : spellEntries (spell h n) es = some s) (ht : spellEntries (spell h n) fs = some t)
    (hx : EndsNumber x) (hy : EndsNumber y) (eq : s ++ x = t ++ y) :
    EntriesRelated related es fs ∧ x = y := by
  induction es generalizing fs s t with
  | nil =>
    cases List.length_eq_zero_iff.1 long.symm
    cases hs
    cases ht
    rw [String.append_right_inj] at eq
    exact ⟨.nil, eq⟩
  | cons e es ih =>
    cases fs with
    | nil => cases long
    | cons f fs =>
      obtain ⟨k, v⟩ := e
      obtain ⟨l, w⟩ := f
      obtain ⟨text, more, hv, hes, rfl⟩ := spellEntries_cons_eq_some_iff.1 hs
      obtain ⟨text', more', hw, hfs, rfl⟩ := spellEntries_cons_eq_some_iff.1 ht
      simp only [String.append_assoc] at eq
      obtain ⟨same, eq⟩ := keyCode_append_inj (endsNumber_spell_append hv _)
        (endsNumber_spell_append hw _) eq
      obtain ⟨value, eq⟩ := decode hv hw (endsNumber_spellEntries_append hes hx)
        (endsNumber_spellEntries_append hfs hy) eq
      obtain ⟨rest, eq⟩ := ih (Nat.succ.inj long) hes hfs eq
      exact ⟨entriesRelated_cons.2 ⟨⟨same, value⟩, rest⟩, eq⟩

/-- Values whose keys agree as far as both go are bisimilar, and neither key goes on. -/
theorem bisimilar_of_append (hv : spell h n v = some s) (hw : spell h n w = some t)
    (hx : EndsNumber x) (hy : EndsNumber y) (eq : s ++ x = t ++ y) :
    h.Bisimilar v w ∧ x = y := by
  induction n using Nat.strongRecOn generalizing v w s t x y with
  | ind n ih =>
    rcases spell_cases hv with ⟨scalar, rfl⟩ | ⟨a, m, text, rfl, rfl, hes, rfl⟩
    · rcases spell_cases hw with ⟨_, rfl⟩ | ⟨b, m, text, rfl, rfl, hfs, rfl⟩
      · obtain ⟨agree | ⟨a, _, rfl, _⟩, rest⟩ := headCode_append_inj hx hy eq
        · exact ⟨bisimilar_of_alike (alike_iff.2 (Or.inl agree)), rest⟩
        · exact absurd rfl (scalar a)
      · rw [String.append_assoc] at eq
        obtain ⟨agree | ⟨a, _, rfl, _⟩, _⟩ :=
          headCode_append_inj hx (endsNumber_spellEntries_append hfs hy) eq
        · simp at agree
        · exact absurd rfl (scalar a)
    · rcases spell_cases hw with ⟨scalar, rfl⟩ | ⟨b, m, text', rfl, step, hfs, rfl⟩
      · rw [String.append_assoc] at eq
        obtain ⟨agree | ⟨_, b, _, rfl, _⟩, _⟩ :=
          headCode_append_inj (endsNumber_spellEntries_append hes hx) hy eq
        · simp at agree
        · exact absurd rfl (scalar b)
      · cases step
        rw [String.append_assoc, String.append_assoc] at eq
        obtain ⟨agree | ⟨_, _, ha, hb, long⟩, eq⟩ :=
          headCode_append_inj (endsNumber_spellEntries_append hes hx)
            (endsNumber_spellEntries_append hfs hy) eq
        · simp at agree
        · cases ha
          cases hb
          obtain ⟨related, rest⟩ :=
            entriesRelated_of_append (ih _ (Nat.lt_succ_self _)) long hes hfs hx hy eq
          exact ⟨bisimilar_of_alike (alike_array_iff.2 related), rest⟩

/-! ## One value, one key -/

theorem headCode_eq_of_agrees (few : h.instances.size < UInt64.size - 1) (hv : h.Owns v)
    (hw : h.Owns w) (agree : v.agrees w = true) : headCode h v = headCode h w := by
  cases v <;> cases w <;>
    simp only [Value.agrees, decide_eq_true_eq, Bool.false_eq_true] at agree
  case resource.resource r s => simp only [headCode, kind_eq_of_id_eq few hv hw agree, agree]
  all_goals simp only [headCode, agree]

theorem spell_eq_of_agrees (few : h.instances.size < UInt64.size - 1) (hv : h.Owns v) (hw : h.Owns w)
    (agree : v.agrees w = true) : spell h n v = spell h n w := by
  have scalar : ∀ a, v ≠ .array a := by
    rintro a rfl
    simp at agree
  have scalar' : ∀ a, w ≠ .array a := by
    rintro a rfl
    simp at agree
  rw [spell_of_not_array scalar, spell_of_not_array scalar', headCode_eq_of_agrees few hv hw agree]

theorem spellEntries_eq_of_related {value : Value → Option String}
    {related : Value → Value → Prop} {es fs : List (Key × Value)}
    (same : ∀ e ∈ es, ∀ f ∈ fs, related e.2 f.2 → value e.2 = value f.2)
    (entries : EntriesRelated related es fs) : spellEntries value es = spellEntries value fs := by
  induction entries with
  | nil => rfl
  | @cons e f es fs head _ ih =>
    rw [spellEntries, spellEntries, head.1,
      same e (List.mem_cons_self ..) f (List.mem_cons_self ..) head.2,
      ih fun e he f hf => same e (List.mem_cons_of_mem _ he) f (List.mem_cons_of_mem _ hf)]

theorem spell_eq_of_bisimilar (built : h.Built) (few : h.instances.size < UInt64.size - 1)
    (hv : h.Owns v) (hw : h.Owns w) (bisimilar : h.Bisimilar v w) :
    spell h n v = spell h n w := by
  induction n generalizing v w with
  | zero =>
    rcases alike_iff.1 bisimilar.alike with agree | ⟨a, b, rfl, rfl, _⟩
    · exact spell_eq_of_agrees few hv hw agree
    · rfl
  | succ n ih =>
    rcases alike_iff.1 bisimilar.alike with agree | ⟨a, b, rfl, rfl, entries⟩
    · exact spell_eq_of_agrees few hv hw agree
    · have same : spellEntries (spell h n) (h.entries a) = spellEntries (spell h n) (h.entries b) :=
        spellEntries_eq_of_related
          (fun e he f hf => ih (built.owns_entry a e he) (built.owns_entry b f hf)) entries
      rw [spell, spell, same, headCode, headCode, arrayCode, arrayCode, entries.length_eq]

theorem bisimilar_of_spell_eq {m n : Nat} {key : String} (hv : spell h m v = some key)
    (hw : spell h n w = some key) : h.Bisimilar v w :=
  (bisimilar_of_append (spell_mono (Nat.le_max_left m n) hv) (spell_mono (Nat.le_max_right m n) hw)
    endsNumber_empty endsNumber_empty rfl).1

/-- Two values of a built heap, one of which has a key, are strictly equal exactly when the other
has the same key. -/
theorem encode_eq_ok_iff_strictEqual {h : Heap} (built : h.Built)
    (few : h.instances.size < UInt64.size - 1) {limit : Option Nat} {v w : Value} (hv : h.Owns v)
    (hw : h.Owns w) {key : String} (encoded : encode h limit v = .ok key) :
    encode h limit w = .ok key ↔ h.strictEqual v w = true := by
  obtain ⟨n, within, spelled⟩ := encode_eq_ok_iff.1 encoded
  rw [Heap.strictEqual_iff, encode_eq_ok_iff]
  constructor
  · rintro ⟨m, _, spelled'⟩
    exact bisimilar_of_spell_eq spelled spelled'
  · intro bisimilar
    exact ⟨n, within, by rw [← spell_eq_of_bisimilar built few hv hw bisimilar, spelled]⟩

/-- A list that holds one array twice has the key of a list that holds it and a copy of it. -/
theorem encode_eq_ok_iff_strictEqual_of_shared :
    let one := Heap.empty.newList [.int 1]
    let twice := one.2.newList [.array one.1, .array one.1]
    let copy := twice.2.newList [.int 1]
    let both := copy.2.newList [.array one.1, .array copy.1]
    let h := both.2
    h.Built ∧ h.instances.size < UInt64.size - 1 ∧
      h.Owns (.array twice.1) ∧ h.Owns (.array both.1) ∧
      encode h (some 2) (.array twice.1) = .ok "A2:I0A1:I0I1I1A1:I0I1" ∧
      (encode h (some 2) (.array both.1) = .ok "A2:I0A1:I0I1I1A1:I0I1" ↔
        h.strictEqual (.array twice.1) (.array both.1) = true) := by
  intro one twice copy both h
  have built : h.Built := by
    refine .newList (.newList (.newList (.newList .empty ?_) ?_) ?_) ?_ <;>
      simp [Owns, newList, newArray, Heap.empty, one, twice, copy]
  have few : h.instances.size < UInt64.size - 1 := by decide
  have owned : h.Owns (.array twice.1) := by
    change 1 < 4
    decide
  have owned' : h.Owns (.array both.1) := by
    change 3 < 4
    decide
  have encoded : encode h (some 2) (.array twice.1) = .ok "A2:I0A1:I0I1I1A1:I0I1" :=
    encode_eq_ok_iff.2 ⟨2, by simp, by decide⟩
  exact ⟨built, few, owned, owned', encoded,
    encode_eq_ok_iff_strictEqual built few owned owned' encoded⟩

end Identity

end RuntimeTypes
