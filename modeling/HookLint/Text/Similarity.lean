/-!
How alike two words are: characters that both have, not too far apart, count; those of them that stand
in another order count half. The likeness lies between 0 and 1 and is kept as an exact fraction.
-/
namespace HookLint.Text

/-- Whether the character at `i` may be matched with the one at `j`. -/
def within (reach i j : Nat) : Bool := i ≤ j + reach && j ≤ i + reach

/-- Takes the first free place of `c` that is in reach. The places are listed with what was taken. -/
def takeMatch (reach i : Nat) (c : Char) : Nat → List (Char × Bool) → Option (List (Char × Bool))
  | _, [] => none
  | j, (d, taken) :: rest =>
    if within reach i j && c == d && !taken then some ((d, true) :: rest)
    else (takeMatch reach i c (j + 1) rest).map ((d, taken) :: ·)

/-- The characters of the first word that find a match, and the places of the second word afterwards. -/
def matchAll (reach : Nat) : Nat → List Char → List (Char × Bool) → List Char × List (Char × Bool)
  | _, [], places => ([], places)
  | i, c :: cs, places =>
    match takeMatch reach i c 0 places with
    | some places =>
      let (found, places) := matchAll reach (i + 1) cs places
      (c :: found, places)
    | none => matchAll reach (i + 1) cs places

def likeness (a b : List Char) : Nat × Nat :=
  if a = [] ∧ b = [] then (1, 1)
  else if a.length = 1 ∧ b.length = 1 then (if a = b then 1 else 0, 1)
  else
    let reach := max a.length b.length / 2 - 1
    let (found, places) := matchAll reach 0 a (b.map (·, false))
    let partners := (places.filter (·.2)).map (·.1)
    let m := found.length
    let t := ((found.zip partners).countP fun p => p.1 != p.2) / 2
    if m = 0 then (0, 1)
    else (m * m * b.length + m * m * a.length + (m - t) * a.length * b.length, 3 * m * a.length * b.length)

def fractionLess (p q : Nat × Nat) : Bool := p.1 * q.2 < q.1 * p.2

/-- The candidate that is most like a word, if one is alike enough; of equals the last. -/
def mostLike? {α : Type} (least : Nat × Nat) (word : List Char) (candidates : List (α × List Char)) :
    Option α :=
  (candidates.foldl better none).map (·.1)
where
  better (best : Option (α × (Nat × Nat))) (c : α × List Char) : Option (α × (Nat × Nat)) :=
    let l := likeness word c.2
    if !fractionLess least l then best
    else
      match best with
      | some b => if fractionLess l b.2 then best else some (c.1, l)
      | none => some (c.1, l)

end HookLint.Text
