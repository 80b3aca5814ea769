import RuntimeTypes.Proofs.Matching
import RuntimeTypes.TypeSet.Default

/-!
# Defaults are accepted values

A token that covers a value of a kind with a zero covers the zero of some kind, and these tokens are
the ones that a default is looked up by. So the default of a set is a value that the set accepts,
and a set has none exactly where it accepts objects and resources at most.
-/

namespace RuntimeTypes

namespace Token

variable {p : Provider} {t : Token} {k : Kind} {v : Value}

theorem accepts_zero {h h' : Heap} (stands : t.zeroKind? = some k)
    (zero : h.zero? k = some (v, h')) : t.Accepts p v := by
  have kind := Heap.kind_of_zero? zero
  cases t with
  | basic own =>
    obtain rfl : own = k := by cases own <;> cases stands <;> rfl
    exact kind
  | pseudo category =>
    cases category with
    | mixed => trivial
    | scalar => cases stands; exact Or.inr (Or.inl kind)
    | number => cases stands; exact Or.inl kind
    | uint =>
      cases stands
      cases zero
      exact ⟨0, rfl, by decide⟩
    | iterable => cases stands; exact Or.inl kind
    | callable => cases stands
  | _ => cases stands

theorem Accepts.isSome_zeroKind? (accepts : t.Accepts p v) (zero : v.kind ∈ Kind.withZero) :
    t.zeroKind?.isSome = true := by
  cases t with
  | basic own =>
    obtain rfl : v.kind = own := accepts
    revert zero
    cases v.kind <;> decide
  | pseudo category =>
    cases category with
    | callable =>
      obtain ⟨o, n, rfl, _⟩ := accepts
      simp [Value.kind, Kind.withZero] at zero
    | _ => rfl
  | resource kind =>
    obtain ⟨r, rfl, _⟩ := accepts
    simp [Value.kind, Kind.withZero] at zero
  | named name =>
    obtain ⟨o, rfl, _⟩ := accepts
    simp [Value.kind, Kind.withZero] at zero

end Token

namespace Hierarchy

variable {h : Hierarchy} {p : Provider} {s : TypeSet} {v : Value} {heap heap' : Heap}

theorem accepts_of_inferDefault? (hf : h.Faithful p)
    (default : s.inferDefault? heap = some (v, heap')) : (h.accepts s v).answer = true := by
  obtain ⟨k, found, zero⟩ := Option.bind_eq_some_iff.1 default
  rw [accepts_answer_iff hf]
  rcases TypeSet.exists_token_of_defaultKind? found with ⟨none, _⟩ | ⟨t, ht, stands⟩
  · exact Or.inl none
  · exact Or.inr ⟨t, ht, Token.accepts_zero stands zero⟩

/-- A set has a default when it accepts some value of a kind with a zero. -/
theorem isSome_inferDefault?_iff_accepts (hf : h.Faithful p) (heap : Heap) :
    (s.inferDefault? heap).isSome = true ↔
      ∃ v, v.kind ∈ Kind.withZero ∧ (h.accepts s v).answer = true := by
  constructor
  · intro found
    obtain ⟨⟨v, heap'⟩, default⟩ := Option.isSome_iff_exists.1 found
    obtain ⟨k, _, zero⟩ := Option.bind_eq_some_iff.1 default
    refine ⟨v, ?_, accepts_of_inferDefault? hf default⟩
    rw [Heap.kind_of_zero? zero, ← Heap.isSome_zero?_iff]
    exact Option.isSome_of_eq_some zero
  · rintro ⟨v, kind, accepted⟩
    rw [TypeSet.isSome_inferDefault?_iff, TypeSet.isSome_defaultKind?_iff]
    rcases (accepts_answer_iff hf).1 accepted with none | ⟨t, ht, covers⟩
    · exact Or.inl none
    · exact Or.inr ⟨t, ht, covers.isSome_zeroKind? kind⟩

/-- The default of a set is a value that the set accepts, whatever the classes are and whatever was
asked before. A set has no default exactly where it accepts no null, boolean, integer, float, string
or array at all. -/
theorem default_accepted_and_none_iff_refused (p : Provider) (qs : List Question) (s : TypeSet) :
    let h := ((ofProvider p).askAll qs).hierarchy
    (∀ heap v heap', s.inferDefault? heap = some (v, heap') → (h.accepts s v).answer = true) ∧
    ∀ heap, s.inferDefault? heap = none ↔
      ∀ v, v.kind ∈ [Kind.null, .bool, .int, .float, .string, .array] →
        (h.accepts s v).answer = false := by
  intro h
  have faithful : h.Faithful p := (faithful_ofProvider p).askAll qs
  refine ⟨fun heap v heap' => accepts_of_inferDefault? faithful, fun heap => ?_⟩
  rw [← Option.not_isSome_iff_eq_none, isSome_inferDefault?_iff_accepts faithful]
  simp only [not_exists, not_and, Bool.not_eq_true]
  rfl

/-- What can be iterated has a new array for its default, and the array is accepted. Callables and
streams have no default, and five is refused there like every other value with a zero. -/
theorem default_accepted_and_none_iff_refused_of_iterable :
    let h := ofProvider Registry.empty.provider
    let iterables := TypeSet.empty.insert (.pseudo .iterable)
    let handles := (TypeSet.empty.insert (.pseudo .callable)).insert (.resource "stream")
    let made := Heap.empty.newArray .empty
    iterables.inferDefault? .empty = some (.array made.1, made.2) ∧
      (h.accepts iterables (.array made.1)).answer = true ∧
      handles.inferDefault? .empty = none ∧
      (Value.int 5).kind ∈ [Kind.null, .bool, .int, .float, .string, .array] ∧
      (h.accepts handles (.int 5)).answer = false := by
  intro h iterables handles made
  have found : iterables.defaultKind? = some .array := by decide +kernel
  have default : iterables.inferDefault? .empty = some (.array made.1, made.2) := by
    rw [TypeSet.inferDefault?, found]
    rfl
  have noKind : handles.defaultKind? = none := by decide +kernel
  have noDefault : handles.inferDefault? .empty = none := by
    rw [TypeSet.inferDefault?, noKind]
    rfl
  have kind : (Value.int 5).kind ∈ [Kind.null, .bool, .int, .float, .string, .array] := by decide
  have law (s : TypeSet) := default_accepted_and_none_iff_refused Registry.empty.provider [] s
  exact ⟨default, (law iterables).1 _ _ _ default, noDefault, kind,
    ((law handles).2 .empty).1 noDefault (.int 5) kind⟩

end Hierarchy

end RuntimeTypes
