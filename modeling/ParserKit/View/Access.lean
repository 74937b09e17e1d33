/-
Moving a view along and reading from it.

Every operation here is relative to the start of the view. The ones that
can be asked for something that is not there answer in `Except Fault`:

- `advance` moves the start; it refuses to move back or beyond the end,
  and keeps the source, so positions along one source only ever grow;
- `consumedSince` is the text between an earlier view and this one, and
  undoes `advance`;
- `index` and `slice` read single characters and stretches, with negative
  indices counted from the end of the view;
- `peek` reads ahead without moving. An amount that is not there reads
  nothing, and a negative amount is not refused: it is an end before the
  position, which reads nothing either, unless it lies before the start of
  the source, where an end counts from the end of the source once more.
-/
import ParserKit.Fault
import ParserKit.Text.Slice

namespace ParserKit

/-- The view at a position of a source. -/
def Source.viewAt (s : Source) (pos : Number) : Except Fault View :=
  if h : 0 ≤ pos.toInt ∧ pos.toInt ≤ s.text.length then
    .ok ⟨s, pos.toInt.toNat, by omega⟩
  else .error (.positionOutside pos s.text.length)

namespace View

variable (v : View)

-- ============================================================== moving

/-- The view that starts `amount` characters later. -/
def advance (amount : Int) : Except Fault View :=
  if h : 0 ≤ amount ∧ v.pos + amount ≤ v.source.text.length then
    .ok ⟨v.source, v.pos + amount.toNat, by omega⟩
  else .error (.cannotAdvance amount v.length)

/-- The characters between an earlier view and this one. -/
def consumedSince (earlier : View) : Except Fault Text :=
  if v.isSuffixOf earlier then
    .ok ((v.source.text.take v.pos).drop earlier.pos)
  else .error .notPreceding

-- ============================================================= reading

/-- The next characters, if there are that many. -/
def peek (amount : Int) : Option Text :=
  if v.hasChars amount then
    let len := v.source.text.length
    let stop := Slice.clamp 0 len len (v.pos + amount)
    some ((v.source.text.take stop.toNat).drop v.pos)
  else none

/-- The character at an index. -/
def index (i : Int) : Except Fault Char :=
  let j := Slice.offset v.length i
  if 0 ≤ j then
    match v.source.text[v.pos + j.toNat]? with
    | some c => .ok c
    | none => .error .indexOutside
  else .error .indexOutside

/-- The characters that a slice selects. -/
def slice (s : Slice) : Except Fault Text :=
  match s.select v.unconsumed with
  | some t => .ok t
  | none => .error .zeroStep

-- ======================================================== small lemmas

/-- `advance` succeeds exactly if the amount is there and not negative, and
then moves the position and nothing else. -/
theorem advance_eq_ok_iff (amount : Int) (w : View) :
    v.advance amount = .ok w ↔
      0 ≤ amount ∧ w.source = v.source ∧ (w.pos : Int) = v.pos + amount := by
  unfold advance
  split
  · rename_i h
    constructor
    · intro he
      cases he
      exact ⟨h.1, rfl, by simp only; omega⟩
    · rintro ⟨_, hs, hp⟩
      exact congrArg Except.ok (ext_of hs.symm (by simp only; omega))
  · rename_i h
    constructor
    · intro he
      cases he
    · rintro ⟨h0, hs, hp⟩
      have hw := w.pos_le
      rw [hs] at hw
      omega

/-- `consumedSince` succeeds exactly for a view that this one is a suffix
of, and then gives what lies between the positions. -/
theorem consumedSince_eq_ok_iff (earlier : View) (t : Text) :
    v.consumedSince earlier = .ok t ↔
      v.isSuffixOf earlier = true ∧
        t = (v.source.text.take v.pos).drop earlier.pos := by
  unfold consumedSince
  split
  · rename_i h
    constructor
    · intro he
      cases he
      exact ⟨h, rfl⟩
    · rintro ⟨_, rfl⟩
      rfl
  · rename_i h
    constructor
    · intro he
      cases he
    · intro ht
      exact absurd ht.1 h

end View

end ParserKit
