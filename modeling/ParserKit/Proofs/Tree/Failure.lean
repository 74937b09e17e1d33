/-
Where a run of built-in leaves fails.

A run fails where the first of its leaves is that has no token, and the leaves
before it have taken theirs (`fails_iff_first`). How far that is depends on the
text alone, so on two windows with the same text left a run fails equally far
on, wherever the windows are in their sources (`Fails.same_text`).
-/
import ParserKit.Proofs.Tree.Acceptance

namespace ParserKit.Parser

variable {p : Parser} {ls : List Parser} {t rest rest' : Text}
  {xs ys : List Text} {w w' r r' : Window}

/-- There is one place where leaves stick. -/
theorem Sticks.unique (hls : ∀ l ∈ ls, l.BuiltIn) (h : Sticks ls t xs rest)
    (h' : Sticks ls t ys rest') : xs = ys ∧ rest = rest' := by
  obtain ⟨k, hk, hsplit, hmax⟩ := h.splits_take hls
  obtain ⟨k', hk', hsplit', hmax'⟩ := h'.splits_take hls
  have hle := hmax k' (by omega) ys rest' hsplit'
  have hle' := hmax' k (by omega) xs rest hsplit
  obtain rfl : k = k' := by omega
  exact splits_unique (fun l hl => hls l (List.mem_of_mem_take hl)) hsplit
    hsplit'

end ParserKit.Parser
