import TrustAnchor.Binary64

/-! How alike two words are, by the measure of Jaro: letters agree if they stand near each other,
and every two of them that stand in another order count against the words. -/

namespace TrustAnchor.Text

/-- The letters of a word, each with whether it already agrees with one of the other word. -/
abbrev Marked := List (Char × Bool)

/-- Marks the first unmarked place from `low` on and before `high` that has the letter. Places are
counted from `place`. -/
def markFirst (c : Char) (low high : Nat) : (place : Nat) → Marked → Option Marked
  | _, [] => none
  | place, (d, taken) :: rest =>
    if low ≤ place ∧ place < high ∧ !taken ∧ c = d then some ((d, true) :: rest)
    else (markFirst c low high (place + 1) rest).map ((d, taken) :: ·)

/-- The letters that agree with the other word, in order, and the other word with its marks. Letters
agree if they are at most `reach` places apart. -/
def agreeing (reach : Nat) : (place : Nat) → List Char → Marked → List Char × Marked
  | _, [], other => ([], other)
  | place, c :: rest, other =>
    match markFirst c (place - reach) (place + reach + 1) 0 other with
    | none => agreeing reach (place + 1) rest other
    | some marked =>
      let (letters, marked) := agreeing reach (place + 1) rest marked
      (c :: letters, marked)

/-- From zero to one. -/
def similarity (a b : List Char) : Binary64 :=
  if a.isEmpty && b.isEmpty then .ofNat 1
  else
    let (letters, marked) := agreeing (max a.length b.length / 2 - 1) 0 a (b.map (·, false))
    let agreed := letters.length
    if agreed = 0 then .ofNat 0
    else
      let others := (marked.filter (·.2)).map (·.1)
      let displaced := ((letters.zip others).filter fun (c, d) => c ≠ d).length / 2
      (((Binary64.ofRatio false agreed a.length).add (.ofRatio false agreed b.length)).add
        (.ofRatio false (agreed - displaced) agreed)).divNat 3

/-- Words below this are not alike. -/
def likeness : Binary64 := .ofRatio false 7 10

/-- The word that is most like the given one, the last of several; nothing if none is like it. -/
def mostAlike? (word : String) (words : List String) : Option String :=
  let best := words.foldl
    (fun best w =>
      let s := similarity word.toList w.toList
      if !likeness.less s then best
      else match best with
        | some (_, t) => if s.less t then best else some (w, s)
        | none => some (w, s))
    (none : Option (String × Binary64))
  best.map (·.1)

end TrustAnchor.Text
