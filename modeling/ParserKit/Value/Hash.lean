/-
Keys: what a table of values goes by.

A table looks a value up by its hash first and by equality second, so
values that are equal have to have equal hashes. `HashKey` stands for a
hash: two hashes are the same exactly if their keys are. Which values share
a key, and so are told apart only by equality, is part of the contract:

- a number is known by its residue for the modulus `2 ^ 61 - 1`, with the
  sign kept and minus one moved to minus two;
- a text or a byte string is known by the bytes it is stored in, one, two or
  four to a character as the widest character needs, so a text of narrow
  characters shares its key with the byte string of the same numbers, and
  the empty ones share theirs with zero;
- a view is known as its text, a success as the pair of its two parts, and
  a failure as the pair of a fixed word and its rest.

A value that can change has no key, nor has a tuple or an outcome that holds
one, nor a view with no text: `hashKey` reports the first such value it
meets, going in and from left to right.

`groupFirst` is the table at work: it numbers each value by the first one
that has the same key and is equal. A value is compared with those that
share its key, in order, and only with those.
-/
import ParserKit.Value.Equality

namespace ParserKit

/-- A hash, up to which values share it. -/
inductive HashKey where
  | number (n : Int)
  | stored (bytes : List UInt8)
  | nothing
  | object (id : Nat)
  | error (id : Nat)
  | tuple (items : List HashKey)

namespace HashKey

mutual

/-- Whether two hashes are the same. -/
def beq : HashKey → HashKey → Bool
  | .number m, k => match k with
      | .number n => m == n
      | _ => false
  | .stored x, k => match k with
      | .stored y => x == y
      | _ => false
  | .nothing, k => match k with
      | .nothing => true
      | _ => false
  | .object i, k => match k with
      | .object j => i == j
      | _ => false
  | .error i, k => match k with
      | .error j => i == j
      | _ => false
  | .tuple xs, k => match k with
      | .tuple ys => beqAll xs ys
      | _ => false

/-- Whether two lists of hashes are the same. -/
def beqAll : List HashKey → List HashKey → Bool
  | [], ys => ys.isEmpty
  | x :: xs, ys => match ys with
      | [] => false
      | y :: ys => beq x y && beqAll xs ys

end

-- ============================================================= numbers

/-- Numbers are known by their residue for this modulus, `2 ^ 61 - 1`. -/
def modulus : Int := 0x1fffffffffffffff

/-- The key of a number: its residue, signed as the number is. Minus one is
not a residue that may be used, and moves to minus two. -/
def ofInt (n : Int) : HashKey :=
  let r := Int.tmod n modulus
  .number (if r = -1 then -2 else r)

-- =============================================================== texts

/-- The lowest `width` bytes of a number, lowest first. -/
def littleEndian : Nat → Nat → List UInt8
  | 0, _ => []
  | width + 1, n => UInt8.ofNat (n % 256) :: littleEndian width (n / 256)

/-- How many bytes each character of a text is stored in. -/
def storageWidth (t : Text) : Nat :=
  if t.all fun c => c.toNat < 0x100 then 1
  else if t.all fun c => c.toNat < 0x10000 then 2
  else 4

/-- The key of stored bytes: those of no bytes at all is that of zero. -/
def ofBytes (bytes : List UInt8) : HashKey :=
  if bytes.isEmpty then .number 0 else .stored bytes

/-- The key of a text. -/
def ofText (t : Text) : HashKey :=
  ofBytes (t.flatMap fun c => littleEndian (storageWidth t) c.toNat)

end HashKey

namespace Value

-- ================================================================ keys

mutual

/-- The key of a value, if it has one. -/
def hashKey : Value → Except Fault HashKey
  | .none => .ok .nothing
  | .bool b => .ok (HashKey.ofInt (Number.ofTruth b))
  | .int n => .ok (HashKey.ofInt n)
  | .text t => .ok (HashKey.ofText t)
  | .view w => w.text.map HashKey.ofText
  | .bytes data => .ok (HashKey.ofBytes data)
  | .tuple items =>
      match hashKeys items with
      | .ok keys => .ok (.tuple keys)
      | .error e => .error e
  | .success rest value =>
      match hashKey rest with
      | .error e => .error e
      | .ok k =>
          match hashKey value with
          | .ok l => .ok (.tuple [k, l])
          | .error e => .error e
  | .failure rest =>
      match hashKey rest with
      | .ok k => .ok (.tuple [HashKey.ofText "Failure".toList, k])
      | .error e => .error e
  | .error id _ => .ok (.error id)
  | .parser id _ => .ok (.object id)
  | .known _ v => hashKey v
  | .object h => .ok (.object h.id)
  | .dictionary => .error (.unhashable .dictionary)
  | .list _ => .error (.unhashable .list)
  | .cell _ => .error (.unhashable .list)
  | .slice _ _ _ => .error (.unhashable .slice)
  | .element _ _ _ => .error (.unhashable .element)

/-- The keys of several values, up to the first that has none. -/
def hashKeys : List Value → Except Fault (List HashKey)
  | [] => .ok []
  | x :: xs =>
      match hashKey x with
      | .error e => .error e
      | .ok key =>
          match hashKeys xs with
          | .ok keys => .ok (key :: keys)
          | .error e => .error e

end

-- ============================================================ the table

/-- A table of values: each entry is a key, its value and its number. -/
abbrev Table := List (HashKey × Value × Nat)

/-- The number of the first entry with the same key and an equal value. -/
def Table.numberOf? (key : HashKey) (v : Value) :
    Table → Except Fault (Option Nat)
  | [] => .ok .none
  | (k, u, n) :: entries =>
      if k.beq key then
        match u.compare v with
        | .error e => .error e
        | .ok true => .ok (some n)
        | .ok false => numberOf? key v entries
      else numberOf? key v entries

/-- Numbers values by the first entry each one meets, going on from a table
and a count; a value that meets none becomes an entry itself. -/
def groupFrom : Table → Nat → List Value → Except Fault (List Nat)
  | _, _, [] => .ok []
  | table, n, v :: vs =>
      match v.hashKey with
      | .error e => .error e
      | .ok key =>
          match Table.numberOf? key v table with
          | .error e => .error e
          | .ok (some i) => (groupFrom table (n + 1) vs).map (i :: ·)
          | .ok .none =>
              (groupFrom (table ++ [(key, v, n)]) (n + 1) vs).map (n :: ·)

/-- Numbers each value by the first that a table takes for the same. -/
def groupFirst (vs : List Value) : Except Fault (List Nat) :=
  groupFrom [] 0 vs

end Value

end ParserKit
