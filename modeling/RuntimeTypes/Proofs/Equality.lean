import Mathlib.Data.List.Forall2
import RuntimeTypes.Identity.Equal

/-!
# Strict equality is bisimilarity

A comparison that answers `true` may have relied on assumptions about the arrays it was inside of.
They are discharged by depth: if all assumed pairs are alike to some depth, so are the compared
values, and a comparison without assumptions is therefore right to every depth. In the other
direction bisimilar values never show a difference, whatever is assumed.
-/

namespace RuntimeTypes

namespace Value

theorem agrees_comm (v w : Value) : v.agrees w = w.agrees v := by
  cases v <;> cases w <;> simp [agrees, eq_comm]

theorem agrees_trans {u v w : Value} (huv : u.agrees v = true) (hvw : v.agrees w = true) :
    u.agrees w = true := by
  cases u <;> cases v <;> simp only [agrees, decide_eq_true_eq, Bool.false_eq_true] at huv <;>
    cases w <;> simp only [agrees, decide_eq_true_eq, Bool.false_eq_true] at hvw ⊢ <;>
    exact huv.trans hvw

@[simp] theorem agrees_array (v : Value) (a : ArrayRef) : v.agrees (.array a) = false := by
  cases v <;> rfl

@[simp] theorem array_agrees (a : ArrayRef) (v : Value) : (array a).agrees v = false := by
  cases v <;> rfl

theorem agrees_self {v : Value} (scalar : ∀ a, v ≠ .array a) : v.agrees v = true := by
  cases v with
  | array a => exact absurd rfl (scalar a)
  | _ => simp [agrees]

end Value

namespace Heap

variable {h : Heap}

/-- Two lists of entries have the same keys and related values, position by position. -/
abbrev EntriesRelated (related : Value → Value → Prop) :
    List (Key × Value) → List (Key × Value) → Prop :=
  List.Forall₂ fun e f => e.1 = f.1 ∧ related e.2 f.2

theorem entriesRelated_cons {related : Value → Value → Prop} {e f : Key × Value}
    {es fs : List (Key × Value)} :
    EntriesRelated related (e :: es) (f :: fs) ↔
      (e.1 = f.1 ∧ related e.2 f.2) ∧ EntriesRelated related es fs :=
  List.forall₂_cons

theorem EntriesRelated.mono {r s : Value → Value → Prop} (le : ∀ v w, r v w → s v w)
    {es fs : List (Key × Value)} (related : EntriesRelated r es fs) : EntriesRelated s es fs :=
  related.imp fun _ _ hef => ⟨hef.1, le _ _ hef.2⟩

theorem EntriesRelated.mono_mem {r s : Value → Value → Prop} {es fs : List (Key × Value)}
    (le : ∀ e ∈ es, ∀ f ∈ fs, r e.2 f.2 → s e.2 f.2) (entries : EntriesRelated r es fs) :
    EntriesRelated s es fs := by
  induction entries with
  | nil => exact .nil
  | @cons e f es fs head _ ih =>
    refine .cons ⟨head.1, le e (List.mem_cons_self ..) f (List.mem_cons_self ..) head.2⟩ ?_
    exact ih fun e he f hf => le e (List.mem_cons_of_mem _ he) f (List.mem_cons_of_mem _ hf)

theorem EntriesRelated.keys_eq {related : Value → Value → Prop} {es fs : List (Key × Value)}
    (entries : EntriesRelated related es fs) : es.map Prod.fst = fs.map Prod.fst := by
  induction entries with
  | nil => rfl
  | cons head _ ih => rw [List.map_cons, List.map_cons, head.1, ih]

theorem EntriesRelated.exists_of_mem {related : Value → Value → Prop}
    {es fs : List (Key × Value)} (entries : EntriesRelated related es fs) {e : Key × Value}
    (he : e ∈ es) : ∃ f ∈ fs, related e.2 f.2 := by
  induction entries with
  | nil => cases he
  | @cons e' f es fs head _ ih =>
    rcases List.mem_cons.1 he with rfl | he
    · exact ⟨f, List.mem_cons_self .., head.2⟩
    · obtain ⟨g, hg, same⟩ := ih he
      exact ⟨g, List.mem_cons_of_mem _ hg, same⟩

theorem alike_array_iff {related : Value → Value → Prop} {a b : ArrayRef} :
    h.Alike related (.array a) (.array b) ↔
      EntriesRelated related (h.entries a) (h.entries b) := by
  simp only [Alike, Table.keys, Table.values, entries]
  generalize (h.table a).entries = es
  generalize (h.table b).entries = fs
  induction es generalizing fs with
  | nil => cases fs <;> simp
  | cons e es ih =>
    cases fs with
    | nil => simp
    | cons f fs =>
      rw [entriesRelated_cons, ← ih fs]
      simp only [List.map_cons, List.cons.injEq, List.zip_cons_cons, List.forall_mem_cons]
      tauto

theorem alike_iff {related : Value → Value → Prop} {v w : Value} :
    h.Alike related v w ↔ v.agrees w = true ∨
      ∃ a b, v = .array a ∧ w = .array b ∧
        EntriesRelated related (h.entries a) (h.entries b) := by
  cases v with
  | array a =>
    cases w with
    | array b => simp [alike_array_iff]
    | _ => simp [Alike, Value.agrees]
  | _ => cases w <;> simp [Alike, Value.agrees]

/-! ## The laws of bisimilarity -/

theorem Bisimilar.alike {v w : Value} (hvw : h.Bisimilar v w) : h.Alike h.Bisimilar v w :=
  h.isBisimulation_bisimilar v w hvw

theorem Bisimilar.refl (v : Value) : h.Bisimilar v v := by
  refine ⟨Eq, ?_, rfl⟩
  rintro v _ rfl
  cases v with
  | array a => exact alike_array_iff.2 (List.forall₂_same.2 fun _ _ => ⟨rfl, rfl⟩)
  | _ => exact alike_iff.2 (Or.inl (Value.agrees_self (by simp)))

theorem Bisimilar.symm {v w : Value} (hvw : h.Bisimilar v w) : h.Bisimilar w v := by
  refine ⟨fun w v => h.Bisimilar v w, fun w v hvw => alike_iff.2 ?_, hvw⟩
  rcases alike_iff.1 hvw.alike with agree | ⟨a, b, rfl, rfl, entries⟩
  · exact Or.inl (Value.agrees_comm v w ▸ agree)
  · exact Or.inr ⟨b, a, rfl, rfl, (entries.imp fun _ _ hef => ⟨hef.1.symm, hef.2⟩).flip⟩

theorem EntriesRelated.comp {r s : Value → Value → Prop} {es fs gs : List (Key × Value)}
    (hef : EntriesRelated r es fs) (hfg : EntriesRelated s fs gs) :
    EntriesRelated (fun u w => ∃ v, r u v ∧ s v w) es gs := by
  induction hef generalizing gs with
  | nil => cases hfg; exact .nil
  | cons head _ ih =>
    cases hfg with
    | cons head' rest =>
      exact .cons ⟨head.1.trans head'.1, _, head.2, head'.2⟩ (ih rest)

theorem Bisimilar.trans {u v w : Value} (huv : h.Bisimilar u v) (hvw : h.Bisimilar v w) :
    h.Bisimilar u w := by
  refine ⟨fun u w => ∃ v, h.Bisimilar u v ∧ h.Bisimilar v w, ?_, v, huv, hvw⟩
  rintro u w ⟨v, huv, hvw⟩
  rcases alike_iff.1 huv.alike with agree | ⟨a, b, rfl, rfl, entries⟩
  · rcases alike_iff.1 hvw.alike with agree' | ⟨b, c, rfl, rfl, _⟩
    · exact alike_iff.2 (Or.inl (Value.agrees_trans agree agree'))
    · simp at agree
  · rcases alike_iff.1 hvw.alike with agree' | ⟨_, c, hb, rfl, entries'⟩
    · simp at agree'
    · cases hb
      exact alike_array_iff.2 (entries.comp entries')

/-! ## What a comparison answers -/

variable {assumed : Std.ExtTreeSet (ArrayRef × ArrayRef)}

theorem entriesEqualGiven_iff {es fs : List (Key × Value)} (long : es.length = fs.length) :
    h.entriesEqualGiven assumed es fs = true ↔
      EntriesRelated (fun v w => h.equalGiven assumed v w = true) es fs := by
  induction es generalizing fs with
  | nil =>
    cases List.length_eq_zero_iff.1 long.symm
    simp [entriesEqualGiven]
  | cons e es ih =>
    cases fs with
    | nil => simp at long
    | cons f fs =>
      rw [entriesEqualGiven, entriesRelated_cons, ← ih (Nat.succ.inj long)]
      simp

theorem equalGiven_array_iff {a b : ArrayRef} :
    h.equalGiven assumed (.array a) (.array b) = true ↔
      a = b ∨ (a, b) ∈ assumed ∨
        EntriesRelated (fun v w => h.equalGiven (assumed.insert (a, b)) v w = true)
          (h.entries a) (h.entries b) := by
  rw [equalGiven]
  split
  · simp [*]
  · split
    · simp [*]
    · split
      · rename_i long
        simp [*, entriesEqualGiven_iff long]
      · rename_i short
        simp only [Bool.false_eq_true, false_or, false_iff, *]
        exact fun related => short related.length_eq

theorem equalGiven_of_not_array {v w : Value} (scalar : ∀ a b, v = .array a → w ≠ .array b) :
    h.equalGiven assumed v w = v.agrees w := by
  rw [equalGiven]
  · exact fun a b hv hw => scalar a b hv hw

/-! ## Assumptions hold to every depth -/

/-- Two values show no difference until arrays were entered `depth` times. -/
def AlikeTo (h : Heap) : Nat → Value → Value → Prop
  | 0 => fun _ _ => True
  | depth + 1 => h.Alike (AlikeTo h depth)

theorem alikeTo_of_succ {depth : Nat} {v w : Value} (alike : h.AlikeTo (depth + 1) v w) :
    h.AlikeTo depth v w := by
  induction depth generalizing v w with
  | zero => trivial
  | succ depth ih => exact Alike.mono (fun _ _ => ih) alike

theorem bisimilar_of_alikeTo {v w : Value} (alike : ∀ depth, h.AlikeTo depth v w) :
    h.Bisimilar v w := by
  refine ⟨fun v w => ∀ depth, h.AlikeTo depth v w, fun v w alike => ?_, alike⟩
  have at_one := alike 1
  cases v <;> cases w <;> try exact at_one
  exact ⟨at_one.1, fun p hp depth => (alike (depth + 1)).2 p hp⟩

theorem Bisimilar.alikeTo {v w : Value} (hvw : h.Bisimilar v w) (depth : Nat) :
    h.AlikeTo depth v w := by
  induction depth generalizing v w with
  | zero => trivial
  | succ depth ih => exact hvw.alike.mono fun _ _ => ih

/-- Compared values are alike to the depth to which all assumed pairs are. One level deeper the
pair that is being compared is assumed itself; it is alike to one depth less by induction. -/
theorem alikeTo_of_equalGiven {depth : Nat} {v w : Value}
    (sound : ∀ a b, (a, b) ∈ assumed → h.AlikeTo depth (.array a) (.array b))
    (equal : h.equalGiven assumed v w = true) : h.AlikeTo depth v w := by
  induction depth generalizing assumed v w with
  | zero => trivial
  | succ depth ih =>
    by_cases arrays : ∃ a b, v = .array a ∧ w = .array b
    · obtain ⟨a, b, rfl, rfl⟩ := arrays
      have sound' : ∀ a b, (a, b) ∈ assumed → h.AlikeTo depth (.array a) (.array b) :=
        fun a b hab => alikeTo_of_succ (sound a b hab)
      rcases equalGiven_array_iff.1 equal with rfl | known | entries
      · exact (Bisimilar.refl _).alikeTo _
      · exact sound a b known
      · refine alike_array_iff.2 (entries.mono fun v w => ih fun c d hcd => ?_)
        rcases mem_insert_iff.1 hcd with same | old
        · cases same
          exact ih sound' equal
        · exact sound' c d old
    · rw [equalGiven_of_not_array fun a b hv hw => arrays ⟨a, b, hv, hw⟩] at equal
      exact alike_iff.2 (Or.inl equal)

theorem equalGiven_of_bisimilar (v w : Value) :
    h.Bisimilar v w → h.equalGiven assumed v w = true := by
  apply equalGiven.induct h (fun assumed v w => h.Bisimilar v w → h.equalGiven assumed v w = true)
    fun assumed es fs =>
      EntriesRelated h.Bisimilar es fs → h.entriesEqualGiven assumed es fs = true
  case case1 =>
    intro assumed a _
    exact equalGiven_array_iff.2 (Or.inl rfl)
  case case2 =>
    intro assumed a b _ known _
    exact equalGiven_array_iff.2 (Or.inr (Or.inl known))
  case case3 =>
    intro assumed a b _ _ long ih bisimilar
    have equal := ih (alike_array_iff.1 bisimilar.alike)
    exact equalGiven_array_iff.2 (Or.inr (Or.inr ((entriesEqualGiven_iff long).1 equal)))
  case case4 =>
    intro assumed a b _ _ short bisimilar
    exact absurd (alike_array_iff.1 bisimilar.alike).length_eq short
  case case5 =>
    intro assumed v w scalar bisimilar
    rw [equalGiven_of_not_array scalar]
    rcases alike_iff.1 bisimilar.alike with agree | ⟨a, b, hv, hw, _⟩
    · exact agree
    · exact absurd hw (scalar a b hv)
  case case6 =>
    intro assumed k v es l w fs value rest related
    obtain ⟨⟨same, bisimilar⟩, related⟩ := entriesRelated_cons.1 related
    rw [entriesEqualGiven, value bisimilar, rest related]
    simpa using same
  case case7 =>
    intro assumed es fs ended _
    rw [entriesEqualGiven]
    exact ended

theorem strictEqual_iff {v w : Value} : h.strictEqual v w = true ↔ h.Bisimilar v w := by
  constructor
  · intro equal
    exact bisimilar_of_alikeTo fun _ =>
      alikeTo_of_equalGiven (fun _ _ hab => absurd hab Std.ExtTreeSet.not_mem_empty) equal
  · exact equalGiven_of_bisimilar v w

/-- Strict equality holds exactly of the pairs that the largest bisimulation relates, on every heap
and however arrays are shared or contain themselves; so it is an equivalence. -/
theorem strictEqual_iff_bisimilar (h : Heap) :
    (∀ v w, h.strictEqual v w = true ↔ h.Bisimilar v w) ∧
      h.IsBisimulation h.Bisimilar ∧
      (∀ related, h.IsBisimulation related → ∀ v w, related v w → h.Bisimilar v w) ∧
      Equivalence fun v w => h.strictEqual v w = true := by
  refine ⟨fun _ _ => strictEqual_iff, h.isBisimulation_bisimilar,
    fun r hr v w hvw => ⟨r, hr, hvw⟩, ?_⟩
  simp only [strictEqual_iff]
  exact ⟨Bisimilar.refl, Bisimilar.symm, Bisimilar.trans⟩

end Heap

end RuntimeTypes
