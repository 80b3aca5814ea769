import RuntimeTypes.Heap.Caller
import RuntimeTypes.Proofs.Equality
import RuntimeTypes.Proofs.Ownership

/-!
# Numbers identify instances

Objects and resources draw their numbers from one counter, and a comparison looks at the numbers
alone. This is right because a number stands for one instance. Whatever a caller does, its handles
are owned by its heap, so each of them belongs to a construction; and the numbers are those of the
constructions in their order, which differ until the counter starts over.
-/

namespace RuntimeTypes

variable {v w : Value} {i j : InstanceId}

/-! ## Handles to one instance -/

namespace Value

theorem sameInstance?_self (number : v.instanceId? = some i) : v.sameInstance? v = some true := by
  cases v with
  | object o => simp [Value.sameInstance?]
  | resource r => simp [Value.sameInstance?]
  | _ => cases number

theorem instanceId?_of_sameInstance? (number : v.instanceId? = some i)
    (same : v.sameInstance? w = some true) : w.instanceId? = some i := by
  cases v with
  | object o =>
    cases w with
    | object p =>
      have slot : o.slot = p.slot := by simpa [Value.sameInstance?] using same
      rwa [Value.instanceId?, Object.id, ← slot]
    | _ => cases same
  | resource r =>
    cases w with
    | resource s =>
      have slot : r.slot = s.slot := by simpa [Value.sameInstance?] using same
      rwa [Value.instanceId?, Resource.id, ← slot]
    | _ => cases same
  | _ => cases number

end Value

namespace Heap

variable {h : Heap}

theorem instanceId?_of_strictEqual (number : v.instanceId? = some i)
    (equal : h.strictEqual v w = true) : w.instanceId? = some i := by
  have noArray : ∀ a b, v = .array a → w ≠ .array b := by
    rintro a b rfl
    cases number
  rw [strictEqual, equalGiven_of_not_array noArray] at equal
  cases v with
  | object o =>
    cases w with
    | object p =>
      have id : o.id = p.id := by simpa [Value.agrees] using equal
      rwa [Value.instanceId?, ← id]
    | _ => cases equal
  | resource r =>
    cases w with
    | resource s =>
      have id : r.id = s.id := by simpa [Value.agrees] using equal
      rwa [Value.instanceId?, ← id]
    | _ => cases equal
  | _ => cases number

theorem exists_newObject_eq_error {className : String}
    (none : ClassName.ofText?
      (String.ofList (Text.dropLeading Name.separator className.toList)) = none) (h : Heap) :
    ∃ e, h.newObject className = .error e := by
  unfold newObject
  dsimp only
  rw [none]
  exact ⟨_, rfl⟩

end Heap

/-! ## What every action keeps -/

namespace Caller

variable {c d : Caller}

/-- A caller whose values are all owned by its heap, and whose counter has handed out one number for
each instance of the heap, in order. -/
structure Sound (c : Caller) : Prop where
  built : c.heap.Built
  vars : ∀ (name : String) (v : Value), c.vars[name]? = some v → c.heap.Owns v
  snapshots : ∀ (name : String) (es : List (Key × Value)), c.snapshots[name]? = some es →
    ∀ e ∈ es, c.heap.Owns e.2
  next : c.next = UInt64.ofNat (c.heap.instances.size + 1)
  issued : c.issued = (List.range c.heap.instances.size).map .ofSlot

theorem sound_initial : initial.Sound where
  built := .empty
  vars name v held := by simp [initial] at held
  snapshots name es kept := by simp [initial] at kept
  next := rfl
  issued := rfl

theorem Sound.keep (sound : c.Sound) (name : String) (owned : c.heap.Owns v) :
    (c.keep name v).Sound where
  built := sound.built
  vars other w held := by
    rw [Caller.keep, Std.ExtTreeMap.getElem?_insert] at held
    split at held
    · exact Option.some.inj held ▸ owned
    · exact sound.vars other w held
  snapshots := sound.snapshots
  next := sound.next
  issued := sound.issued

theorem Sound.withHeap {h : Heap} (sound : c.Sound) (built : h.Built)
    (still : ∀ v, c.heap.Owns v → h.Owns v) (same : h.instances.size = c.heap.instances.size) :
    (c.withHeap h).Sound where
  built := built
  vars name v held := still v (sound.vars name v held)
  snapshots name es kept e he := still e.2 (sound.snapshots name es kept e he)
  next := by rw [Caller.withHeap, sound.next, same]
  issued := by rw [Caller.withHeap, sound.issued, same]

theorem Sound.ofSlot_size (sound : c.Sound) :
    InstanceId.ofSlot c.heap.instances.size = ⟨c.next⟩ := by
  rw [sound.next]
  rfl

theorem Sound.receive {cell : Instance} (sound : c.Sound) (name : String)
    (built : ({ c.heap with instances := c.heap.instances.push cell } : Heap).Built) :
    (c.receive name (cell.handle c.heap.instances.size)
      { c.heap with instances := c.heap.instances.push cell }).Sound := by
  refine Sound.keep ⟨built, fun name v held => ?_, fun name es kept e he => ?_, ?_, ?_⟩ name ?_
  · exact Heap.owns_newInstance cell (sound.vars name v held)
  · exact Heap.owns_newInstance cell (sound.snapshots name es kept e he)
  · simp only [sound.next, Array.size_push]
    rw [UInt64.ofNat_add (c.heap.instances.size + 1) 1]
    rfl
  · simp only [Array.size_push, List.range_succ, List.map_append, List.map_singleton,
      ← sound.issued, sound.ofSlot_size]
  · cases cell with
    | object d fields => exact ⟨fields, by simp⟩
    | resource k => simp [Heap.Owns, Instance.handle]

theorem Sound.owns_operand? (sound : c.Sound) {x : Operand} (given : c.operand? x = some v) :
    c.heap.Owns v := by
  cases x with
  | plain w noHandle =>
    obtain rfl := Option.some.inj given
    cases w with
    | array a => cases noHandle
    | object o => cases noHandle
    | resource r => cases noHandle
    | _ => trivial
  | named name => exact sound.vars name v given

theorem Sound.owns_operands (sound : c.Sound) {xs : List Operand} {vs : List Value}
    (given : xs.mapM c.operand? = some vs) : ∀ v ∈ vs, c.heap.Owns v := by
  induction xs generalizing vs with
  | nil =>
    cases given
    exact List.forall_mem_nil _
  | cons x xs ih =>
    simp only [List.mapM_cons, Option.bind_eq_bind, Option.bind_eq_some_iff, Option.pure_def,
      Option.some.injEq] at given
    obtain ⟨v, first, others, rest, rfl⟩ := given
    exact List.forall_mem_cons.2 ⟨sound.owns_operand? first, ih rest⟩

theorem Sound.owns_array? (sound : c.Sound) {name : String} {a : ArrayRef}
    (held : c.array? name = some a) : c.heap.Owns (.array a) := by
  obtain ⟨v, found, array⟩ := Option.bind_eq_some_iff.1 held
  cases v with
  | array b =>
    obtain rfl := Option.some.inj array
    exact sound.vars name _ found
  | _ => cases array

theorem Sound.owns_object? (sound : c.Sound) {name : String} {o : Object}
    (held : c.object? name = some o) : c.heap.Owns (.object o) := by
  obtain ⟨v, found, object⟩ := Option.bind_eq_some_iff.1 held
  cases v with
  | object p =>
    obtain rfl := Option.some.inj object
    exact sound.vars name _ found
  | _ => cases object

theorem Sound.owns_of_holds (sound : c.Sound) (held : c.Holds v) : c.heap.Owns v := by
  cases held with
  | inVariable mem => exact sound.vars _ v mem
  | inArray mem => exact sound.built.owns_entry _ _ mem
  | inField mem => exact sound.built.owns_field _ _ v mem
  | inSnapshot kept mem => exact sound.snapshots _ _ kept _ mem

theorem Sound.perform? {a : Action} (sound : c.Sound) (outcome : c.perform? a = some d) :
    d.Sound := by
  cases a with
  | assign name x =>
    obtain ⟨v, given, made⟩ := Option.bind_eq_some_iff.1 outcome
    cases made
    exact sound.keep name (sound.owns_operand? given)
  | forget name =>
    cases outcome
    refine ⟨sound.built, fun other v held => ?_, sound.snapshots, sound.next, sound.issued⟩
    rw [Std.ExtTreeMap.getElem?_erase] at held
    split at held
    · cases held
    · exact sound.vars other v held
  | newList name xs =>
    obtain ⟨vs, given, made⟩ := Option.bind_eq_some_iff.1 outcome
    cases made
    have grown := sound.withHeap (.newList sound.built (sound.owns_operands given))
      (fun v => Heap.owns_newArray _) rfl
    refine grown.keep name ?_
    simp [Heap.Owns, Heap.newList, Heap.newArray, Caller.withHeap]
  | newObject name className =>
    obtain ⟨o, h, made, rfl⟩ := construct?_eq_some outcome
    obtain ⟨slot, rfl⟩ := Heap.newObject_eq_ok made
    have received := sound.receive name (.newObject sound.built made)
    rwa [Instance.handle, ← slot] at received
  | newResource name kind =>
    obtain ⟨r, h, made, rfl⟩ := construct?_eq_some outcome
    obtain ⟨slot, rfl⟩ := Heap.newResource_eq_ok made
    have received := sound.receive name (.newResource sound.built made)
    rwa [Instance.handle, ← slot] at received
  | push array x =>
    obtain ⟨a, ha, rest⟩ := Option.bind_eq_some_iff.1 outcome
    obtain ⟨v, given, made⟩ := Option.bind_eq_some_iff.1 rest
    cases made
    exact sound.withHeap (.push sound.built (sound.owns_array? ha) (sound.owns_operand? given))
      (fun v => Heap.owns_updateArray _ _) rfl
  | insert array k x =>
    obtain ⟨a, ha, rest⟩ := Option.bind_eq_some_iff.1 outcome
    obtain ⟨v, given, made⟩ := Option.bind_eq_some_iff.1 rest
    cases made
    exact sound.withHeap (.insert sound.built (sound.owns_array? ha) (sound.owns_operand? given))
      (fun v => Heap.owns_updateArray _ _) rfl
  | get name array k =>
    obtain ⟨a, ha, rest⟩ := Option.bind_eq_some_iff.1 outcome
    obtain ⟨v, found, made⟩ := Option.bind_eq_some_iff.1 rest
    cases made
    exact sound.keep name (sound.built.owns_entry a _ (Table.mem_of_found found))
  | snapshot name array =>
    obtain ⟨a, ha, made⟩ := Option.bind_eq_some_iff.1 outcome
    cases made
    refine ⟨sound.built, sound.vars, fun other es kept => ?_, sound.next, sound.issued⟩
    rw [Std.ExtTreeMap.getElem?_insert] at kept
    split at kept
    · cases kept
      exact sound.built.owns_entry a
    · exact sound.snapshots other es kept
  | readBack name snapshot position =>
    obtain ⟨es, kept, rest⟩ := Option.bind_eq_some_iff.1 outcome
    obtain ⟨e, found, made⟩ := Option.bind_eq_some_iff.1 rest
    cases made
    exact sound.keep name (sound.snapshots snapshot es kept e (List.mem_of_getElem? found))
  | setField object field x =>
    obtain ⟨o, ho, rest⟩ := Option.bind_eq_some_iff.1 outcome
    obtain ⟨v, given, made⟩ := Option.bind_eq_some_iff.1 rest
    cases made
    exact sound.withHeap (.setField sound.built (sound.owns_object? ho) (sound.owns_operand? given))
      (fun v => Heap.owns_setField _ _ _) (by simp [Heap.setField])
  | getField name object field =>
    obtain ⟨o, ho, rest⟩ := Option.bind_eq_some_iff.1 outcome
    obtain ⟨v, found, made⟩ := Option.bind_eq_some_iff.1 rest
    cases made
    exact sound.keep name (sound.built.owns_field o field v found)

theorem Sound.perform (sound : c.Sound) (a : Action) : (c.perform a).Sound := by
  rw [Caller.perform]
  cases outcome : c.perform? a with
  | none => exact sound
  | some d => exact sound.perform? outcome

theorem Sound.performAll (sound : c.Sound) (as : List Action) : (c.performAll as).Sound := by
  induction as generalizing c with
  | nil => exact sound
  | cons a as ih => exact ih (sound.perform a)

/-! ## The numbers handed out -/

theorem Sound.length_issued (sound : c.Sound) : c.issued.length = c.heap.instances.size := by
  rw [sound.issued, List.length_map, List.length_range]

theorem Sound.mem_issued (sound : c.Sound) (held : c.Holds v) (number : v.instanceId? = some i) :
    i ∈ c.issued := by
  obtain ⟨slot, lt, -, rfl⟩ := Heap.exists_cell_of_owns (sound.owns_of_holds held) number
  rw [sound.issued]
  exact List.mem_map_of_mem (List.mem_range.2 lt)

theorem Sound.issued_increasing (sound : c.Sound) (few : c.issued.length < UInt64.size - 1) :
    c.issued.Pairwise fun i j => i.number < j.number := by
  rw [sound.length_issued] at few
  rw [sound.issued, List.pairwise_map]
  refine List.pairwise_lt_range.imp_of_mem fun {m n} hm hn less => ?_
  rw [List.mem_range] at hm hn
  rw [UInt64.lt_iff_toNat_lt, InstanceId.toNat_ofSlot (by omega),
    InstanceId.toNat_ofSlot (by omega)]
  omega

theorem Sound.issued_ne_zero (sound : c.Sound) (few : c.issued.length < UInt64.size - 1) :
    ∀ i ∈ c.issued, i.number ≠ 0 := by
  rw [sound.length_issued] at few
  intro i hi zero
  rw [sound.issued] at hi
  obtain ⟨slot, hs, rfl⟩ := List.mem_map.1 hi
  rw [List.mem_range] at hs
  have number : (InstanceId.ofSlot slot).number.toNat = slot + 1 :=
    InstanceId.toNat_ofSlot (by omega)
  rw [zero] at number
  cases number

theorem Sound.issued_newObject (sound : c.Sound) {className : String} {o : Object} {h : Heap}
    (made : c.heap.newObject className = .ok (o, h)) (name : String) :
    (c.perform (.newObject name className)).issued = c.issued ++ [o.id] := by
  rw [perform_newObject, made, Object.id, (Heap.newObject_eq_ok made).1, sound.ofSlot_size]
  rfl

theorem Sound.issued_newResource (sound : c.Sound) {kind : String} {r : Resource} {h : Heap}
    (made : c.heap.newResource kind = .ok (r, h)) (name : String) :
    (c.perform (.newResource name kind)).issued = c.issued ++ [r.id] := by
  rw [perform_newResource, made, Resource.id, (Heap.newResource_eq_ok made).1, sound.ofSlot_size]
  rfl

theorem perform_newObject_of_error {className : String} {e : Error}
    (refused : c.heap.newObject className = .error e) (name : String) :
    c.perform (.newObject name className) = c := by
  rw [perform_newObject, refused]
  rfl

theorem perform_newResource_of_error {kind : String} {e : Error}
    (refused : c.heap.newResource kind = .error e) (name : String) :
    c.perform (.newResource name kind) = c := by
  rw [perform_newResource, refused]
  rfl

/-- In every state that a caller gets to before the counter starts over, numbers identify instances.
The numbers handed out increase, and zero is not among them. A construction hands out the number of
its handle, and none where it is refused. Two handles, wherever they are, have one number exactly
where they are handles to one instance; then they agree in everything, in their sort and their class
or kind as well. And strict equality of objects and resources is the same as being one instance. -/
theorem numbers_identify_instances (as : List Action)
    (few : (initial.performAll as).issued.length < UInt64.size - 1) :
    let c := initial.performAll as
    (c.issued.Pairwise (fun i j => i.number < j.number) ∧ ∀ i ∈ c.issued, i.number ≠ 0) ∧
    (∀ name text,
      (∀ o h, c.heap.newObject text = .ok (o, h) →
        (c.perform (.newObject name text)).issued = c.issued ++ [o.id]) ∧
      (∀ e, c.heap.newObject text = .error e → c.perform (.newObject name text) = c) ∧
      (∀ r h, c.heap.newResource text = .ok (r, h) →
        (c.perform (.newResource name text)).issued = c.issued ++ [r.id]) ∧
      (∀ e, c.heap.newResource text = .error e → c.perform (.newResource name text) = c)) ∧
    ∀ v w i j, c.Holds v → c.Holds w → v.instanceId? = some i → w.instanceId? = some j →
      i ∈ c.issued ∧ (i = j ↔ v.sameInstance? w = some true) ∧ (i = j → v = w) ∧
      (c.heap.strictEqual v w = true ↔ v.sameInstance? w = some true) := by
  intro c
  have sound : c.Sound := sound_initial.performAll as
  refine ⟨⟨sound.issued_increasing few, sound.issued_ne_zero few⟩, fun name text =>
    ⟨fun o h made => sound.issued_newObject made name,
      fun e refused => perform_newObject_of_error refused name,
      fun r h made => sound.issued_newResource made name,
      fun e refused => perform_newResource_of_error refused name⟩, ?_⟩
  intro v w i j hv hw number number'
  have size : c.heap.instances.size < UInt64.size - 1 := sound.length_issued ▸ few
  have one (same : i = j) : v = w :=
    Heap.eq_of_instanceId?_eq size (sound.owns_of_holds hv) (sound.owns_of_holds hw) number
      (same ▸ number')
  have identical : i = j ↔ v.sameInstance? w = some true := by
    constructor
    · intro same
      rw [← one same]
      exact Value.sameInstance?_self number
    · intro same
      exact Option.some.inj ((Value.instanceId?_of_sameInstance? number same).symm.trans number')
  refine ⟨sound.mem_issued hv number, identical, one, fun equal => identical.1 ?_, fun same => ?_⟩
  · exact Option.some.inj ((Heap.instanceId?_of_strictEqual number equal).symm.trans number')
  · rw [one (identical.2 same)]
    exact Heap.strictEqual_iff.2 (Heap.Bisimilar.refl w)

/-- A note and a pipe are made, and between them an object of a class that is none. Then the note is
in two variables and a list, and the pipe in a field of the note and in what was read of the list. -/
theorem numbers_identify_instances_of_note :
    let c := initial.performAll [.newObject "note" "\\Note", .newObject "fault" "null",
      .newResource "pipe" "pipe", .assign "copy" (.named "note"),
      .newList "both" [.named "note", .named "pipe"], .setField "note" "source" (.named "pipe"),
      .snapshot "read" "both", .forget "pipe", .push "both" (.plain .null rfl)]
    let note : Value := .object ⟨0, ⟨"Note", by decide +kernel⟩⟩
    let pipe : Value := .resource ⟨1, ⟨"pipe", by decide +kernel⟩⟩
    c.issued.length < UInt64.size - 1 ∧ c.Holds note ∧ c.Holds pipe ∧
      note.instanceId? = some ⟨1⟩ ∧ pipe.instanceId? = some ⟨2⟩ ∧
      c.issued = [⟨1⟩, ⟨2⟩] ∧ c.issued.Pairwise (fun i j => i.number < j.number) ∧
      c.perform (.newObject "fault" "null") = c ∧
      (⟨2⟩ : InstanceId) ∈ c.issued ∧
      ((⟨1⟩ : InstanceId) = ⟨2⟩ ↔ note.sameInstance? pipe = some true) ∧
      (c.heap.strictEqual note note = true ↔ note.sameInstance? note = some true) := by
  intro c note pipe
  have issued : c.issued = [⟨1⟩, ⟨2⟩] := by decide +kernel
  have few : c.issued.length < UInt64.size - 1 := by decide +kernel
  have copied : c.vars["copy"]? = some note := by decide +kernel
  have stored : c.heap.field? ⟨0, ⟨"Note", by decide +kernel⟩⟩ "source" = some pipe := by
    decide +kernel
  have reserved :
      ClassName.ofText? (String.ofList (Text.dropLeading Name.separator "null".toList)) = none := by
    decide +kernel
  obtain ⟨e, refused⟩ := Heap.exists_newObject_eq_error reserved c.heap
  obtain ⟨⟨increasing, _⟩, constructions, handles⟩ := numbers_identify_instances _ few
  have ofNote := handles note pipe ⟨1⟩ ⟨2⟩ (.inVariable copied) (.inField stored) rfl rfl
  have ofPipe := handles pipe note ⟨2⟩ ⟨1⟩ (.inField stored) (.inVariable copied) rfl rfl
  have itself := handles note note ⟨1⟩ ⟨1⟩ (.inVariable copied) (.inVariable copied) rfl rfl
  exact ⟨few, .inVariable copied, .inField stored, rfl, rfl, issued, increasing,
    (constructions "fault" "null").2.1 e refused, ofPipe.1, ofNote.2.1, itself.2.2.2⟩

end Caller

end RuntimeTypes
