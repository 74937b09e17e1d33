/-
Parts of values: one item, a stretch, all of them.

Texts, byte strings, tuples and lists are sequences and are selected from
alike, by a number or by a slice; a view is the text that it has left. A
dictionary is asked by key, and has nothing to give. Everything else has no
parts to select.

- `item` is the part with a number, from the end if the number is negative;
- `stretch` is what a slice selects, as a value of the same kind; selected
  whole and in order, it is the same thing, except that a list is a new one;
- `select` is either, as the key says, and refuses keys of other kinds;
- `parts` is all of them in order.
-/
import ParserKit.Value.Hash
import ParserKit.Value.Obstacle

namespace ParserKit.Value

-- ================================================================ items

/-- The item with that number, counted from the end if it is negative. -/
def pick {α : Type} (items : List α) (i : Int) : Option α :=
  let j := Slice.offset items.length i
  if 0 ≤ j then items[j.toNat]? else .none

/-- The part of a value with that number. -/
def item (i : Int) : Value → Except Fault Value
  | .tuple items => (pick items i).elim (.error (.itemOutside .tuple)) .ok
  | .list items => (pick items i).elim (.error (.itemOutside .list)) .ok
  | .text t =>
      (pick t i).elim (.error (.itemOutside .text)) fun c => .ok (.text [c])
  | .bytes data =>
      (pick data i).elim (.error (.itemOutside .bytes)) fun b =>
        .ok (.int b.toNat)
  | .dictionary => .error (.keyMissing (Text.decimal i))
  | .view w =>
      match w.view.index i with
      | .error fault => .error fault
      | .ok c => w.text.map fun _ => .text [c]
  | .known _ v => v.item i
  | v => .error (.notSubscriptable v.kind)

-- ============================================================ stretches

/-- What a slice selects, made into a value again, or the value itself if it
stays the thing that it is when it is selected whole. -/
def cut {α : Type} (s : Slice) (items : List α) (whole : Option Value)
    (make : List α → Value) : Except Fault Value :=
  match s.select items with
  | .none => .error .zeroStep
  | some selected =>
      if s.step.getD 1 = 1 ∧ selected.length = items.length then
        .ok (whole.getD (make selected))
      else .ok (make selected)

/-- The part of a value that a slice selects. -/
def stretch (s : Slice) (v : Value) : Except Fault Value :=
  match v.bare with
  | .tuple items => cut s items (some v) .tuple
  | .list items => cut s items .none .list
  | .text t => cut s t (some v) .text
  | .bytes data => cut s data (some v) .bytes
  | .dictionary => .error (.unhashable .slice)
  | .view w =>
      match w.text, w.view.slice s with
      | .error fault, _ | _, .error fault => .error fault
      | .ok _, .ok t =>
          .ok (if s.step.getD 1 = 1 then ofStretch w t else .text t)
  | v => .error (.notSubscriptable v.kind)

/-- The items of a value backwards. -/
def reversed (v : Value) : Except Fault Value :=
  v.stretch ⟨.none, .none, some (-1)⟩

-- ================================================================= keys

/-- The numbers that may be used on a sequence that is not a view: those of
64 bits with a sign. -/
def reachable (i : Int) : Bool :=
  -0x8000000000000000 ≤ i && i < 0x8000000000000000

/-- The part of a sequence that a number or a slice selects. -/
def selectFrom (v key : Value) : Except Fault Value :=
  match key.bare with
  | .slice x y z => do v.stretch (← asSlice x y z)
  | key =>
      match key.number? with
      | .none => .error (.notSelector v.kind key.kind)
      | some i => if reachable i then v.item i else .error .indexTooLarge

/-- The part of a view that a number or a slice selects. What is sliced is
read first. -/
def selectThrough (w : Window) (key : Value) : Except Fault Value :=
  match key.bare with
  | .slice x y z => do
      let _ ← w.text
      (Value.view w).stretch (← asSlice x y z)
  | key => do (Value.view w).item (← key.asIndex)

/-- The part of a value that a key selects. -/
def select (v key : Value) : Except Fault Value :=
  match v.bare with
  | .tuple _ | .list _ | .text _ | .bytes _ => v.selectFrom key
  | .view w => selectThrough w key
  | .dictionary => do
      let _ ← key.hashKey
      match key.printFault? with
      | some fault => throw fault
      | .none => throw (.keyMissing key.render)
  | v => .error (.notSubscriptable v.kind)

-- ============================================================ all parts

/-- The parts of a value in order. A success comes apart into its rest and
its value. -/
def parts (v : Value) : Except Fault (List Value) :=
  match v.bare with
  | .tuple items | .list items => .ok items
  | .text t => .ok (t.map fun c => .text [c])
  | .bytes data => .ok (data.map fun b => .int b.toNat)
  | .dictionary => .ok []
  | .view w => w.text.map fun t => t.map fun c => .text [c]
  | .success rest value => .ok [rest, value]
  | v => .error (.notUnpackable v.kind)

end ParserKit.Value
