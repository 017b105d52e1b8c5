/-! # Words that are alike

How alike two words are is told from the characters that they share. A character of one word is shared if
the other word has it at about the same place; each character counts once. Shared characters in another
order make words less alike.
-/

namespace RouteServer.Text

/-! ## Shared characters -/

/-- The characters of a word, and whether they are shared already. -/
abbrev Marked : Type := List (Char × Bool)

/-- Marks the first character `c` from the place `low` to the place `high` that is not marked; the text
begins at the place `here`. -/
def mark? (c : Char) (low high : Nat) : Nat → Marked → Option Marked
  | _, [] => none
  | here, (d, isTaken) :: rest =>
    if high < here then none
    else if low ≤ here && !isTaken && d = c then some ((d, true) :: rest)
    else (mark? c low high (here + 1) rest).map ((d, isTaken) :: ·)

/-- The shared characters of two words, each in the order of its word. -/
def shared (a b : List Char) : List Char × List Char :=
  let reach := max a.length b.length / 2 - 1
  let (own, marked) := a.zipIdx.foldl (fun (own, marked) (c, i) =>
    match mark? c (i - reach) (i + reach) 0 marked with
    | some marked => (own ++ [c], marked)
    | none => (own, marked)) ([], b.map (·, false))
  (own, (marked.filter (·.2)).map (·.1))

/-! ## Likeness -/

structure Share where
  part : Nat
  whole : Nat
deriving DecidableEq, Repr

def Share.isLess (s t : Share) : Bool := s.part * t.whole < t.part * s.whole

/-- How alike two words are: the mean of the share of either word that is shared and of the share of the
shared characters that stand in the same order. -/
def likeness (a b : List Char) : Share :=
  let (own, other) := shared a b
  let count := own.length
  let moved := ((own.zip other).filter fun (c, d) => c ≠ d).length / 2
  if a = [] ∧ b = [] then ⟨1, 1⟩
  else if count = 0 then ⟨0, 1⟩
  else ⟨count * count * (a.length + b.length) + (count - moved) * a.length * b.length,
    3 * count * a.length * b.length⟩

/-- Words that are not more alike than this are not alike. -/
def leastLikeness : Share := ⟨7, 10⟩

/-- The one of the words that is most like another one, if any is; of equals the last. -/
def mostAlike? (word : String) (words : List String) : Option String :=
  let rated := words.map fun other => (likeness word.toList other.toList, other)
  (rated.foldl (fun best (share, other) =>
    let (least, _) := best
    if share.isLess least || !leastLikeness.isLess share then best else (share, some other))
    (leastLikeness, none)).2

end RouteServer.Text
