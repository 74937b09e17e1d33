/-
When two values are the same thing.

Numbers are compared as numbers, whether they are written as truth values
or as whole numbers; texts are compared as texts, whether they are whole
texts or what a view has left. All other values are equal only to values of
their own kind: tuples and lists item by item, outcomes and elements part
by part, parsers, objects and errors by identity.

The definition goes down the left value. `Value.number?` and `Value.text?`
do the reading across kinds, so one line each covers all four pairings.

# Comparisons that cannot be made

Equality is total, and a comparison as it is made can end in a fault: a
view over something that is no text has nothing to compare, unless the
lengths settle it, and a view over a view is not asked whether it is a given
text. `clash?` is the fault that a comparison ends in. Parts are compared in
order and only up to the first that differ, so nothing after that is in the
way.
-/
import ParserKit.Value.Basic

namespace ParserKit.Value

mutual

/-- Whether two values are equal. -/
def beq : Value → Value → Bool
  | .none, b => match b.bare with
      | .none => true
      | _ => false
  | .bool x, b => b.number? == some (Number.ofTruth x)
  | .int n, b => b.number? == some n
  | .text t, b => b.text? == some t
  | .view v, b => match v.text with
      | .ok t => b.text? == some t
      | .error _ => match b.bare with
          | .view w => v == w
          | _ => false
  | .bytes x, b => match b.bare with
      | .bytes y => x == y
      | _ => false
  | .dictionary, b => match b.bare with
      | .dictionary => true
      | _ => false
  | .tuple xs, b => match b.bare with
      | .tuple ys => beqAll xs ys
      | _ => false
  | .list xs, b => match b.bare with
      | .list ys => beqAll xs ys
      | _ => false
  | .cell i, b => match b.bare with
      | .cell j => i == j
      | _ => false
  | .slice x y z, b => match b.bare with
      | .slice x' y' z' => beq x x' && beq y y' && beq z z'
      | _ => false
  | .success r x, b => match b.bare with
      | .success r' x' => beq r r' && beq x x'
      | _ => false
  | .failure r, b => match b.bare with
      | .failure r' => beq r r'
      | _ => false
  | .element n as cs, b => match b.bare with
      | .element n' as' cs' => beq n n' && beq as as' && beq cs cs'
      | _ => false
  | .error i _, b => match b.bare with
      | .error j _ => i == j
      | _ => false
  | .parser i _, b => match b.bare with
      | .parser j _ => i == j
      | _ => false
  | .object h, b => match b.bare with
      | .object h' => h.id == h'.id
      | _ => false
  | .known _ a, b => beq a b

/-- Whether two lists of values are equal item by item. -/
def beqAll : List Value → List Value → Bool
  | [], ys => ys.isEmpty
  | x :: xs, ys => match ys with
      | [] => false
      | y :: ys => beq x y && beqAll xs ys

end

-- ============================================================== clashes

/-- The fault of comparing a window with a text or another window. -/
def windowClash? (w : Window) : Value → Option Fault
  | .text t => if w.length = t.length then w.startFault? else .none
  | .view v =>
      if w.length = v.length then w.textFault? <|> v.textFault? else .none
  | _ => .none

/-- A second comparison, made only if a first one is, and finds no
difference. -/
def andThen (first : Option Fault) (same : Bool) (second : Option Fault) :
    Option Fault :=
  first <|> if same then second else .none

/-- Whether two values are known to be one thing. -/
def isSame (a b : Value) : Bool :=
  a.identity?.isSome && a.identity? == b.identity?

/-- The fault of comparing two items, given that of comparing them as
values: one thing is not compared with itself. -/
def unlessSame (a b : Value) (fault? : Option Fault) : Option Fault :=
  if a.isSame b then .none else fault?

mutual

/-- The fault of comparing two values. A sequence that is one thing has
the same items, and so is not compared with itself either. -/
def clash? : Value → Value → Option Fault
  | .text t, b => match b.bare with
      | .view w => windowClash? w (.text t)
      | _ => .none
  | .view w, b => windowClash? w b.bare
  | .tuple xs, b => match b.bare with
      | .tuple ys => clashAll? xs ys
      | _ => .none
  | .list xs, b => match b.bare with
      | .list ys => if xs.length = ys.length then clashAll? xs ys else .none
      | _ => .none
  | .slice x y z, b => match b.bare with
      | .slice x' y' z' =>
          andThen (unlessSame x x' (clash? x x')) (beq x x')
            (andThen (unlessSame y y' (clash? y y')) (beq y y')
              (unlessSame z z' (clash? z z')))
      | _ => .none
  | .success r x, b => match b.bare with
      | .success r' x' => andThen (clash? r r') (beq r r') (clash? x x')
      | _ => .none
  | .failure r, b => match b.bare with
      | .failure r' => clash? r r'
      | _ => .none
  | .element n as cs, b => match b.bare with
      | .element n' as' cs' =>
          andThen (unlessSame n n' (clash? n n')) (beq n n')
            (andThen (unlessSame as as' (clash? as as')) (beq as as')
              (unlessSame cs cs' (clash? cs cs')))
      | _ => .none
  | .known id a, b =>
      if b.identity? = some id then .none else clash? a b
  | _, _ => .none

/-- The fault of comparing several items with others, one by one. -/
def clashAll? : List Value → List Value → Option Fault
  | [], _ => .none
  | x :: xs, ys => match ys with
      | [] => .none
      | y :: ys =>
          andThen (unlessSame x y (clash? x y)) (beq x y) (clashAll? xs ys)

end

/-- A comparison as it is made. -/
def compare (a b : Value) : Except Fault Bool :=
  match a.clash? b with
  | some fault => .error fault
  | .none => .ok (a.beq b)

end ParserKit.Value
