import RuntimeTypes.Value.Basic

/-!
# Tables

A table is what an array holds: entries in the order of their insertion, and the counter that gives
a pushed value its key. A value inserted under a key that is present replaces the value of the first
entry with that key, in place. The counter never goes down, and it stops at the largest integer;
from there on pushes repeat that key.
-/

namespace RuntimeTypes

/-- The next integer, or the same where there is none. -/
def succSaturating (n : Int64) : Int64 :=
  if n = Int64.maxValue then n else n + 1

/-- The contents of an array. -/
structure Table where
  /-- The entries, in the order of their insertion. -/
  entries : List (Key × Value) := []
  /-- The key of the next pushed value. -/
  nextIndex : Int64 := 0
  deriving DecidableEq

namespace Table

def empty : Table := {}

/-- Replaces the value of the first entry with the given key, or appends a new entry. -/
def putEntry (k : Key) (v : Value) : List (Key × Value) → List (Key × Value)
  | [] => [(k, v)]
  | e :: rest => if e.1 = k then (k, v) :: rest else e :: putEntry k v rest

def findEntry? (k : Key) : List (Key × Value) → Option Value
  | [] => none
  | e :: rest => if e.1 = k then some e.2 else findEntry? k rest

/-- The counter after a value was inserted under a key: an integer key at or above the counter
moves it behind that key. -/
def counterAfter (next : Int64) : Key → Int64
  | .int n => if next ≤ n then succSaturating n else next
  | .text _ => next

def push (t : Table) (v : Value) : Table where
  entries := t.entries ++ [(.int t.nextIndex, v)]
  nextIndex := succSaturating t.nextIndex

/-- Puts a value under a key, in place where the key is present. -/
def insert (t : Table) (k : Key) (v : Value) : Table where
  entries := putEntry k v t.entries
  nextIndex := counterAfter t.nextIndex k

def get? (t : Table) (k : Key) : Option Value :=
  findEntry? k t.entries

def size (t : Table) : Nat :=
  t.entries.length

def keys (t : Table) : List Key :=
  t.entries.map Prod.fst

def values (t : Table) : List Value :=
  t.entries.map Prod.snd

/-- The table that holds the given values under the keys from zero up. -/
def ofValues (vs : List Value) : Table :=
  vs.foldl push empty

/-! ## Entries after an operation -/

@[simp] theorem entries_empty : empty.entries = [] := rfl

@[simp] theorem entries_push (t : Table) (v : Value) :
    (t.push v).entries = t.entries ++ [(.int t.nextIndex, v)] := rfl

@[simp] theorem entries_insert (t : Table) (k : Key) (v : Value) :
    (t.insert k v).entries = putEntry k v t.entries := rfl

theorem findEntry?_putEntry_self (k : Key) (v : Value) (es : List (Key × Value)) :
    findEntry? k (putEntry k v es) = some v := by
  induction es with
  | nil => simp [putEntry, findEntry?]
  | cons e es ih => by_cases h : e.1 = k <;> simp [putEntry, findEntry?, h, ih]

theorem findEntry?_putEntry_of_ne {k l : Key} (h : k ≠ l) (v : Value) (es : List (Key × Value)) :
    findEntry? l (putEntry k v es) = findEntry? l es := by
  induction es with
  | nil => simp [putEntry, findEntry?, h]
  | cons e es ih =>
    by_cases he : e.1 = k
    · simp [putEntry, findEntry?, he, h]
    · simp [putEntry, findEntry?, he, ih]

@[simp] theorem get?_insert_self (t : Table) (k : Key) (v : Value) :
    (t.insert k v).get? k = some v :=
  findEntry?_putEntry_self k v t.entries

theorem get?_insert_of_ne (t : Table) {k l : Key} (h : k ≠ l) (v : Value) :
    (t.insert k v).get? l = t.get? l :=
  findEntry?_putEntry_of_ne h v t.entries

/-! ## Histories of a table

A table comes about by pushes and inserts. Here the two operations are data, so that one can speak
of all tables that a sequence of them leads to.
-/

/-- An operation on a table. -/
inductive Update where
  | push (v : Value)
  | insert (k : Key) (v : Value)
  deriving DecidableEq

def Update.value : Update → Value
  | push v => v
  | insert _ v => v

def apply (t : Table) : Update → Table
  | .push v => t.push v
  | .insert k v => t.insert k v

def applyAll (t : Table) (us : List Update) : Table :=
  us.foldl apply t

@[simp] theorem applyAll_nil (t : Table) : t.applyAll [] = t := rfl

@[simp] theorem applyAll_cons (t : Table) (u : Update) (us : List Update) :
    t.applyAll (u :: us) = (t.apply u).applyAll us := rfl

theorem applyAll_append (t : Table) (us vs : List Update) :
    t.applyAll (us ++ vs) = (t.applyAll us).applyAll vs :=
  List.foldl_append

theorem ofValues_eq_applyAll (vs : List Value) :
    ofValues vs = empty.applyAll (vs.map Update.push) := by
  simp only [ofValues, applyAll, List.foldl_map]
  rfl

end Table

end RuntimeTypes
