import RuntimeTypes.TypeSet.Basic

/-!
# Sets that are changed in place

A set is mostly changed where it is. A change may fail on its way, and what has been done to the set
by then stays done; so a failing change leaves the set alone only if it fails before it begins.
-/

namespace RuntimeTypes

namespace TypeSet

/-- A change to a set that may fail. -/
abbrev InPlace := ExceptT Error (StateM TypeSet)

/-- What a change comes to, and the set that it leaves. -/
def InPlace.on {α : Type} (change : InPlace α) (s : TypeSet) : Except Error α × TypeSet :=
  StateT.run (ExceptT.run change) s

/-- Adds a token and tells whether it is new. -/
def insertInPlace (t : Token) : InPlace Bool := do
  let (known, tokens) := (← get).tokens.containsThenInsert t
  set (TypeSet.mk tokens)
  return !known

/-- Adds the tokens of a specification one by one, once the whole of it is read. -/
def addInPlace (spec : TypeSpec) : InPlace Unit := do
  (← spec.parse).forM fun t => discard (insertInPlace t)

/-- Adds the tokens of another set one by one. -/
def unionInPlace (other : TypeSet) : InPlace Unit :=
  other.toList.forM fun t => discard (insertInPlace t)

/-! ## What changes come to -/

theorem InPlace.on_bind {α β : Type} (first : InPlace α) (next : α → InPlace β) (s : TypeSet) :
    (first >>= next).on s =
      match first.on s with
      | (.ok x, s') => (next x).on s'
      | (.error e, s') => (.error e, s') := by
  show (match first s with | (r, s') => ExceptT.bindCont next r s') = _
  show _ = match first s with
    | (.ok x, s') => (next x).on s'
    | (.error e, s') => (.error e, s')
  cases first s with
  | mk r s' => cases r <;> rfl

theorem insertInPlace_on (t : Token) (s : TypeSet) :
    (insertInPlace t).on s = (.ok !s.contains t, s.insert t) := by
  have both : s.tokens.containsThenInsert t = (s.contains t, s.tokens.insert t) :=
    Prod.ext Std.ExtTreeSet.containsThenInsert_fst Std.ExtTreeSet.containsThenInsert_snd
  show (match s.tokens.containsThenInsert t with
    | (known, tokens) => ((Except.ok !known : Except Error Bool), TypeSet.mk tokens)) = _
  rw [both]
  rfl

theorem forM_insertInPlace_on (ts : List Token) (s : TypeSet) :
    (ts.forM fun t => discard (insertInPlace t)).on s = (.ok (), s.insertAll ts) := by
  induction ts generalizing s with
  | nil => rfl
  | cons t ts ih =>
    have first : (discard (insertInPlace t)).on s = (.ok (), s.insert t) := by
      show (insertInPlace t >>= fun _ => pure ()).on s = _
      rw [InPlace.on_bind, insertInPlace_on]
      rfl
    show (discard (insertInPlace t) >>= fun _ => ts.forM fun t => discard (insertInPlace t)).on s = _
    rw [InPlace.on_bind, first]
    exact ih (s.insert t)

theorem unionInPlace_on (other s : TypeSet) :
    (unionInPlace other).on s = (.ok (), s.union other) :=
  forM_insertInPlace_on other.toList s

/-- Adding in place is adding, and where adding fails the set stays as it is. -/
theorem addInPlace_on (spec : TypeSpec) (s : TypeSet) :
    (addInPlace spec).on s =
      match s.add spec with
      | .ok grown => (.ok (), grown)
      | .error e => (.error e, s) := by
  rw [addInPlace, InPlace.on_bind, add]
  cases spec.parse with
  | ok ts => exact forM_insertInPlace_on ts s
  | error e => rfl

end TypeSet

end RuntimeTypes
