/-
The store: the lists that can change, and fresh identities.

Only lists change, and only by growing at the end: an element's attributes
and its children. A list that is to be shared is kept in the store as a
cell, and a value that holds the list holds a reference to its cell. Whoever
holds the reference sees what was appended later; the lists of two cells
never affect each other.

- `settle` moves the lists of a new value into cells of their own and makes
  its texts, byte strings, tuples, dictionaries and windows known, after
  which the value can be referred to again and again as one thing. Where a
  value was doubled, both halves become the same thing.
- `read` goes the other way: it replaces the references by the present
  items, all the way down, for printing and comparing. What it gives is a
  snapshot. It follows references as many times as there are cells, which
  is as deep as values can go as long as no list is inside itself.
- `look` replaces the reference that a value is, and none inside it, for
  taking out items, which stay the things that they are.
-/
import ParserKit.Value.Basic

namespace ParserKit

/-- The changing lists, and the next unused identity. -/
structure Store where
  nextId : Nat
  cells : List (List Value)

namespace Value

mutual

/-- Replaces references to cells. -/
def mapCells (f : Nat → Value) : Value → Value
  | .cell id => f id
  | .tuple items => .tuple (mapCellsAll f items)
  | .list items => .list (mapCellsAll f items)
  | .slice x y z =>
      .slice (mapCells f x) (mapCells f y) (mapCells f z)
  | .success rest value => .success (mapCells f rest) (mapCells f value)
  | .failure rest => .failure (mapCells f rest)
  | .element name attributes children =>
      .element (mapCells f name) (mapCells f attributes)
        (mapCells f children)
  | .parser id name => .parser id (mapCells f name)
  | .known id v => .known id (mapCells f v)
  | v => v

/-- Replaces references to cells in several values. -/
def mapCellsAll (f : Nat → Value) : List Value → List Value
  | [] => []
  | x :: xs => mapCells f x :: mapCellsAll f xs

end

end Value

namespace Store

-- ============================================================ single cells

/-- No lists, and no identity in use below the given one. -/
def empty (nextId : Nat) : Store :=
  ⟨nextId, []⟩

/-- An identity that has not been used, and the store after using it. -/
def fresh (s : Store) : Nat × Store :=
  (s.nextId, { s with nextId := s.nextId + 1 })

/-- A new cell with those items. -/
def alloc (s : Store) (items : List Value) : Nat × Store :=
  (s.cells.length, { s with cells := s.cells ++ [items] })

/-- The items of a cell. -/
def items (s : Store) (id : Nat) : List Value :=
  s.cells[id]?.getD []

/-- Appends to a cell. -/
def append (s : Store) (id : Nat) (v : Value) : Store :=
  { s with cells := s.cells.modify id (· ++ [v]) }

/-- The cell that was appended to has the item, at its end. -/
theorem items_append_self (s : Store) {id : Nat} (v : Value)
    (h : id < s.cells.length) :
    (s.append id v).items id = s.items id ++ [v] := by
  simp [items, append, h]

/-- Every other cell is as it was. -/
theorem items_append_of_ne (s : Store) {id other : Nat} (v : Value)
    (h : id ≠ other) : (s.append id v).items other = s.items other := by
  simp [items, append, h]

/-- Appending makes no cells. -/
@[simp] theorem length_cells_append (s : Store) (id : Nat) (v : Value) :
    (s.append id v).cells.length = s.cells.length := by
  simp [append]

-- ============================================================== settling

/-- What a thing is known by: what all things like it are known by, or else a
number of its own. -/
def identify (s : Store) (small : Option Identity) : Identity × Store :=
  match small with
  | some id => (id, s)
  | none =>
      let (n, s) := s.fresh
      (.number n, s)

/-- A store, and what the values that were doubled have become. -/
structure Settling where
  store : Store
  doubled : List (Identity × Value)

namespace Settling

/-- A value that is one thing from now on. -/
def name (s : Settling) (small : Option Identity) (v : Value) :
    Value × Settling :=
  let (id, store) := s.store.identify small
  (.known id v, { s with store })

/-- A list in a cell of its own. -/
def keep (s : Settling) (items : List Value) : Value × Settling :=
  let (id, store) := s.store.alloc items
  (.cell id, { s with store })

/-- A window that is one thing from now on. -/
def nameWindow (s : Settling) (w : Window) : Value × Settling :=
  match w.id with
  | some _ => (.view w, s)
  | none =>
      let (n, store) := s.store.fresh
      (.view { w with id := some n }, { s with store })

end Settling

mutual

/-- Settles a value. -/
def settleIn : Value → Settling → Value × Settling
  | .text t, s => s.name (Identity.ofSmallText? t) (.text t)
  | .bytes data, s => s.name (Identity.ofSmallBytes? data) (.bytes data)
  | .dictionary, s => s.name none .dictionary
  | .tuple xs, s =>
      let (xs, s) := settleAllIn xs s
      s.name (if xs.isEmpty then some .noItems else none) (.tuple xs)
  | .list xs, s =>
      let (xs, s) := settleAllIn xs s
      s.keep xs
  | .view w, s => s.nameWindow w
  | .success rest v, s =>
      let (rest, s) := settleIn rest s
      let (v, s) := settleIn v s
      (.success rest v, s)
  | .failure rest, s =>
      let (rest, s) := settleIn rest s
      (.failure rest, s)
  | .element name attributes children, s =>
      let (name, s) := settleIn name s
      let (attributes, s) := settleIn attributes s
      let (children, s) := settleIn children s
      (.element name attributes children, s)
  | .known (.place path) v, s =>
      match s.doubled.lookup (.place path) with
      | some v => (v, s)
      | none =>
          let (v, s) := settleIn v s
          (v, { s with doubled := (.place path, v) :: s.doubled })
  | v, s => (v, s)

/-- Settles several values from left to right. -/
def settleAllIn : List Value → Settling → List Value × Settling
  | [], s => ([], s)
  | x :: xs, s =>
      let (x, s) := settleIn x s
      let (xs, s) := settleAllIn xs s
      (x :: xs, s)

end

/-- Settles a new value. -/
def settle (v : Value) (s : Store) : Value × Store :=
  let (v, s) := settleIn v ⟨s, []⟩
  (v, s.store)

-- ============================================================== reading

/-- Replaces references, following them to the given depth. -/
def readTo (s : Store) : Nat → Value → Value
  | 0, v => v
  | depth + 1, v =>
      v.mapCells fun id =>
        .known (.cell id) (.list ((s.items id).map (s.readTo depth)))

/-- A value with the present items of all its lists. -/
def read (s : Store) (v : Value) : Value :=
  s.readTo s.cells.length v

/-- A value with its present items, if it is a list. -/
def look (s : Store) : Value → Value
  | .cell id => .known (.cell id) (.list (s.items id))
  | .known id v => .known id (look s v)
  | v => v

end Store

end ParserKit
