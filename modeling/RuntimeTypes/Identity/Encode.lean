import RuntimeTypes.Identity.Equal

/-!
# Identity keys

The identity key of a value is a text that tells it from every value that is not strictly equal to
it. Each kind opens with a letter of its own. Texts carry their length in bytes, arrays the number
of their entries.

| value    | key                                   |
|----------|---------------------------------------|
| null     | `N`                                   |
| Boolean  | `BT` or `BF`                          |
| integer  | `I` and the number                    |
| float    | `D` and sixteen digits of the bits    |
| string   | `S`, length, `:`, text                |
| array    | `A`, count, `:`, keys and values      |
| object   | `O` and the number of the object      |
| resource | `R`, length, `:`, kind, and number    |

The walk keeps what is left of the arrays it is inside of as a list of frames, the innermost first,
so no depth of nesting is too much for it. An array that contains itself has no key, and neither
has a value whose arrays are nested more deeply than a given limit.
-/

namespace RuntimeTypes

/-! ## Stacks of opened arrays

The arrays that a walk is inside of, the innermost first, each with its entries still to come. A
stack knows its depth and its arrays besides the frames, so that neither question goes through all
of a deep stack. The three are changed together, and no array is on a stack twice.
-/

namespace Identity

/-- An array that a walk is inside of, and its entries still to come. -/
structure Frame where
  array : ArrayRef
  rest : List (Key × Value)

def path (frames : List Frame) : List ArrayRef :=
  frames.map Frame.array

@[simp] theorem path_nil : path [] = [] := rfl

@[simp] theorem path_cons (f : Frame) (fs : List Frame) : path (f :: fs) = f.array :: path fs := rfl

structure Stack where
  /-- The frames, the innermost first. -/
  frames : List Frame
  depth : Nat
  visiting : Std.ExtTreeSet ArrayRef
  depth_eq : depth = frames.length
  nodup : (path frames).Nodup
  mem_visiting : ∀ a, a ∈ visiting ↔ a ∈ path frames

namespace Stack

def empty : Stack := ⟨[], 0, ∅, rfl, by simp, by simp⟩

/-- Enters an array that is not on the stack. -/
def push (s : Stack) (a : ArrayRef) (entries : List (Key × Value)) (fresh : a ∉ s.visiting) :
    Stack where
  frames := ⟨a, entries⟩ :: s.frames
  depth := s.depth + 1
  visiting := s.visiting.insert a
  depth_eq := by rw [s.depth_eq, List.length_cons]
  nodup := List.nodup_cons.2 ⟨fun on => fresh ((s.mem_visiting a).2 on), s.nodup⟩
  mem_visiting b := by
    rw [Std.ExtTreeSet.mem_insert, Std.compare_eq_iff_eq, s.mem_visiting, path_cons, List.mem_cons]
    exact or_congr eq_comm Iff.rfl

/-- Goes on in the innermost array, with so many of its entries still to come. -/
def advance (s : Stack) {f : Frame} {below : List Frame} (top : s.frames = f :: below)
    (rest : List (Key × Value)) : Stack where
  frames := ⟨f.array, rest⟩ :: below
  depth := s.depth
  visiting := s.visiting
  depth_eq := by rw [s.depth_eq, top, List.length_cons, List.length_cons]
  nodup := by simpa [top] using s.nodup
  mem_visiting b := by simpa [top] using s.mem_visiting b

def pop (s : Stack) {f : Frame} {below : List Frame} (top : s.frames = f :: below) : Stack where
  frames := below
  depth := s.depth - 1
  visiting := s.visiting.erase f.array
  depth_eq := by rw [s.depth_eq, top, List.length_cons, Nat.add_sub_cancel]
  nodup := by
    have distinct := s.nodup
    rw [top] at distinct
    exact (List.nodup_cons.1 distinct).2
  mem_visiting b := by
    have distinct := s.nodup
    have on := s.mem_visiting b
    rw [top, path_cons] at distinct on
    rw [List.nodup_cons] at distinct
    rw [Std.ExtTreeSet.mem_erase, ne_eq, Std.compare_eq_iff_eq, on, List.mem_cons]
    -- The array left is on the stack once, so what is left of the frames does not hold it.
    constructor
    · rintro ⟨other, rfl | below⟩
      · exact absurd rfl other
      · exact below
    · intro below
      exact ⟨fun same => distinct.1 (same ▸ below), Or.inr below⟩

@[simp] theorem frames_empty : empty.frames = [] := rfl

@[simp] theorem frames_push (s : Stack) (a : ArrayRef) (entries : List (Key × Value))
    (fresh : a ∉ s.visiting) : (s.push a entries fresh).frames = ⟨a, entries⟩ :: s.frames := rfl

@[simp] theorem frames_advance (s : Stack) {f : Frame} {below : List Frame}
    (top : s.frames = f :: below) (rest : List (Key × Value)) :
    (s.advance top rest).frames = ⟨f.array, rest⟩ :: below := rfl

@[simp] theorem frames_pop (s : Stack) {f : Frame} {below : List Frame}
    (top : s.frames = f :: below) : (s.pop top).frames = below := rfl

theorem length_path (s : Stack) : (path s.frames).length = s.depth := by
  rw [path, List.length_map, s.depth_eq]

theorem contains_visiting (s : Stack) (a : ArrayRef) :
    s.visiting.contains a = decide (a ∈ path s.frames) := by
  rw [Bool.eq_iff_iff, Std.ExtTreeSet.contains_iff_mem, s.mem_visiting, decide_eq_true_iff]

end Stack

end Identity

/-! ## How much work an array can make

Walking the contents of an array without entering one twice on a path comes to an end, though an
array that is shared may be walked many times. The bounds here count the work by the arrays not yet
on the path: each of them, and each of its entries, is worth more than everything below it.
-/

namespace Heap

/-- The arrays of the heap that are not on a path. -/
def unvisited (h : Heap) (path : List ArrayRef) : Nat :=
  h.refs.countP (· ∉ path)

/-- The largest number of entries that an array of the heap has. -/
def width (h : Heap) : Nat :=
  (h.refs.map fun a => (h.entries a).length).foldr max 0

theorem countP_not_mem_cons_le (refs path : List ArrayRef) (a : ArrayRef) :
    refs.countP (· ∉ a :: path) ≤ refs.countP (· ∉ path) := by
  apply List.countP_mono_left
  intro b _ hb
  simp only [decide_eq_true_eq, List.mem_cons, not_or] at hb ⊢
  exact hb.2

theorem unvisited_cons_le (h : Heap) (path : List ArrayRef) (a : ArrayRef) :
    h.unvisited (a :: path) ≤ h.unvisited path :=
  countP_not_mem_cons_le h.refs path a

theorem unvisited_cons_lt {h : Heap} {path : List ArrayRef} {a : ArrayRef} (ha : a ∈ h.refs)
    (hp : a ∉ path) : h.unvisited (a :: path) < h.unvisited path := by
  obtain ⟨before, after, eq⟩ := List.append_of_mem ha
  have := countP_not_mem_cons_le before path a
  have := countP_not_mem_cons_le after path a
  have out : (!decide (a ∈ path)) = true := by simpa using hp
  simp only [unvisited, eq, List.countP_append, List.countP_cons]
  simp [out] at *
  omega

theorem le_foldr_max {n : Nat} {ns : List Nat} (hn : n ∈ ns) : n ≤ ns.foldr max 0 := by
  induction ns with
  | nil => simp at hn
  | cons m ns ih =>
    rcases List.mem_cons.1 hn with rfl | hn
    · exact Nat.le_max_left _ _
    · exact Nat.le_trans (ih hn) (Nat.le_max_right _ _)

theorem length_entries_le_width {h : Heap} {a : ArrayRef} (ha : a ∈ h.refs) :
    (h.entries a).length ≤ h.width :=
  le_foldr_max (List.mem_map.2 ⟨a, ha, rfl⟩)

end Heap

/-- The most steps that one value can take while so many arrays are unvisited and none has more
than `width` entries. -/
def valueWork (width : Nat) : Nat → Nat
  | 0 => 1
  | unvisited + 1 => 1 + width * (1 + valueWork width unvisited)

theorem one_le_valueWork (width n : Nat) : 1 ≤ valueWork width n := by
  cases n <;> simp [valueWork]

theorem valueWork_le_succ (width n : Nat) : valueWork width n ≤ valueWork width (n + 1) := by
  induction n with
  | zero => simp [valueWork]
  | succ n ih =>
    have := Nat.mul_le_mul_left width (Nat.add_le_add_left ih 1)
    simpa [valueWork] using this

theorem valueWork_mono {width m n : Nat} (h : m ≤ n) : valueWork width m ≤ valueWork width n := by
  induction h with
  | refl => exact Nat.le_refl _
  | step _ ih => exact Nat.le_trans ih (valueWork_le_succ width _)

/-- Opening an array costs less than the value that holds it may take. -/
theorem open_lt_valueWork (h : Heap) {path : List ArrayRef} {a : ArrayRef} (hp : a ∉ path) :
    (h.entries a).length * (1 + valueWork h.width (h.unvisited (a :: path))) <
      valueWork h.width (h.unvisited path) := by
  by_cases ha : a ∈ h.refs
  · have fewer : valueWork h.width (h.unvisited (a :: path) + 1) ≤ _ :=
      valueWork_mono (Heap.unvisited_cons_lt ha hp)
    have short := Nat.mul_le_mul_right (1 + valueWork h.width (h.unvisited (a :: path)))
      (Heap.length_entries_le_width ha)
    simp only [valueWork] at fewer
    omega
  · have none := Heap.entries_of_not_mem_refs ha
    have := one_le_valueWork h.width (h.unvisited path)
    simp only [none, List.length_nil, Nat.zero_mul]
    omega

/-! ## The walk -/

namespace Identity

/-- A text after its tag, its length in bytes and a colon. -/
def measuredText (tag s : String) : String :=
  tag ++ s.utf8ByteSize.repr ++ ":" ++ s

def number (tag : String) (n : Int) : String :=
  tag ++ n.repr

/-- A key of an array, written like the value it is. -/
def keyCode : Key → String
  | .int n => number "I" n.toInt
  | .text s => measuredText "S" s

/-- What stands before the entries of an array. -/
def arrayCode (entries : List (Key × Value)) : String :=
  "A" ++ entries.length.repr ++ ":"

/-- The identity key of a value, except that the entries of an array are left out. -/
def headCode (h : Heap) : Value → String
  | .null => "N"
  | .bool b => if b then "BT" else "BF"
  | .int n => number "I" n.toInt
  | .float bits => "D" ++ Text.hexWord bits
  | .string s => measuredText "S" s
  | .array a => arrayCode (h.entries a)
  | .object o => number "O" o.id.number.toNat
  | .resource r => measuredText "R" r.kind.text ++ r.id.number.toNat.repr

/-- Whether an array may be entered from inside `depth` others, with `inside` telling whether it
is one of them. -/
def enter (limit : Option Nat) (depth : Nat) (inside : Bool) : Except Unencodable Unit :=
  if inside then .error .cycle
  else match limit with
    | none => .ok ()
    | some limit => if limit ≤ depth then .error (.depthExceeded limit) else .ok ()

theorem inside_of_enter {limit : Option Nat} {depth : Nat} {inside : Bool}
    (h : enter limit depth inside = .ok ()) : inside = false := by
  cases inside
  · rfl
  · simp [enter] at h

/-- A bound on the steps that a walk still takes. -/
def framesWork (h : Heap) : List Frame → Nat
  | [] => 0
  | f :: below =>
    1 + f.rest.length * (1 + valueWork h.width (h.unvisited (path (f :: below)))) +
      framesWork h below

/-- How far a walk has come: the arrays it is inside of, and the text written so far. -/
structure Walk where
  stack : Stack
  out : String

namespace Walk

/-- Writes a value, or opens an array whose entries are written next. -/
def value (h : Heap) (limit : Option Nat) (w : Walk) (v : Value) : Except Unencodable Walk :=
  match v with
  | .array a =>
    match entered : enter limit w.stack.depth (w.stack.visiting.contains a) with
    | .error reason => .error reason
    | .ok () =>
      have fresh : a ∉ w.stack.visiting := by
        rw [← Std.ExtTreeSet.contains_iff_mem, inside_of_enter entered]
        exact Bool.false_ne_true
      .ok ⟨w.stack.push a (h.entries a) fresh, w.out ++ headCode h (.array a)⟩
  | v => .ok ⟨w.stack, w.out ++ headCode h v⟩

/-- Writes the next entry of the innermost array, or leaves the array when none is left. -/
def step (h : Heap) (limit : Option Nat) (w : Walk) : Except Unencodable Walk :=
  match top : w.stack.frames with
  | [] => .ok w
  | ⟨_, []⟩ :: _ => .ok ⟨w.stack.pop top, w.out⟩
  | ⟨_, (k, v) :: rest⟩ :: _ =>
    value h limit ⟨w.stack.advance top rest, w.out ++ keyCode k⟩ v

theorem work_value_lt {h : Heap} {limit : Option Nat} {w next : Walk} {v : Value}
    (written : value h limit w v = .ok next) :
    framesWork h next.stack.frames <
      framesWork h w.stack.frames + 1 + valueWork h.width (h.unvisited (path w.stack.frames)) := by
  unfold value at written
  split at written
  · rename_i a
    split at written
    · cases written
    · rename_i entered
      cases written
      have out : a ∉ path w.stack.frames := by
        simpa [Stack.contains_visiting] using inside_of_enter entered
      have cost := open_lt_valueWork h out
      simp only [Stack.frames_push, framesWork, path_cons, Nat.mul_add] at cost ⊢
      omega
  · cases written
    dsimp only
    omega

theorem work_step_lt {h : Heap} {limit : Option Nat} {w next : Walk} {f : Frame}
    {below : List Frame} (top : w.stack.frames = f :: below)
    (stepped : step h limit w = .ok next) :
    framesWork h next.stack.frames < framesWork h w.stack.frames := by
  unfold step at stepped
  split at stepped
  · rename_i none
    rw [none] at top
    cases top
  · rename_i frames
    cases stepped
    simp only [Stack.frames_pop, frames, framesWork]
    omega
  · rename_i a k v rest below' frames
    have cost := work_value_lt stepped
    simp only [Stack.frames_advance, frames, framesWork, path_cons, List.length_cons, Nat.add_mul,
      Nat.one_mul] at cost ⊢
    omega

/-- Takes steps until every array is left. -/
def run (h : Heap) (limit : Option Nat) (w : Walk) : Except Unencodable String :=
  match _top : w.stack.frames with
  | [] => .ok w.out
  | _ :: _ =>
    match _stepped : step h limit w with
    | .error reason => .error reason
    | .ok next => run h limit next
termination_by framesWork h w.stack.frames
decreasing_by exact work_step_lt _top _stepped

end Walk

/-- The identity key of a value, with a limit on how deeply arrays may be nested. -/
def encode (h : Heap) (limit : Option Nat) (v : Value) : Except Unencodable String :=
  match Walk.value h limit ⟨.empty, ""⟩ v with
  | .error reason => .error reason
  | .ok w => w.run h limit

end Identity

end RuntimeTypes
