/-!
# How alike two words are

The command line suggests a known name when it is given one it does not know,
if the two are alike enough.  Likeness is the Jaro similarity: characters of
the two words *match* when they are equal and no further apart than half the
longer word, less one; with `m` matches of which `t` pairs are out of order,
the similarity of words of lengths `a` and `b` is

  (m / a + m / b + (m - t) / m) / 3,

and zero when nothing matches.  Two empty words are fully alike.

`Similarity.suggestions` keeps the names whose similarity exceeds 0.7 and
lists them from the least alike to the most alike; equally alike names keep
their order, so the last one is the best.
-/

namespace ShmBench
namespace Similarity

/-- The first unused position of `ys` in `[lo, hi)` that holds `c`. -/
def findMatch (ys : Array Char) (used : Array Bool) (c : Char) (lo hi : Nat) : Option Nat :=
  (List.range' lo (hi - lo)).find? fun j => ys.getD j ' ' == c && !used.getD j true

/-- Mark the matching characters: which positions of each word match, and how many. -/
def matchMarks (xs ys : Array Char) : Array Bool × Array Bool × Nat :=
  let window := (max xs.size ys.size / 2) - 1
  (List.range xs.size).foldl (fun (acc : Array Bool × Array Bool × Nat) i =>
    let (ax, ay, m) := acc
    let lo := i - window
    let hi := min ys.size (i + window + 1)
    match findMatch ys ay (xs.getD i ' ') lo hi with
    | some j => (ax.set! i true, ay.set! j true, m + 1)
    | none => (ax, ay, m)) (Array.replicate xs.size false, Array.replicate ys.size false, 0)

/-- The matched characters of a word, in order. -/
def matched (xs : Array Char) (marks : Array Bool) : List Char :=
  (List.range xs.size).filterMap fun i => if marks.getD i false then some (xs.getD i ' ') else none

/-- **The Jaro similarity** of two words. -/
def jaro (a b : String) : Float :=
  let xs := a.toList.toArray
  let ys := b.toList.toArray
  if xs.size == 0 && ys.size == 0 then 1.0
  else if xs.size == 0 || ys.size == 0 then 0.0
  else
    let (ax, ay, m) := matchMarks xs ys
    if m == 0 then 0.0
    else
      let t := ((matched xs ax).zip (matched ys ay)).countP (fun (p, q) => p != q) / 2
      let mf := m.toFloat
      (mf / xs.size.toFloat + mf / ys.size.toFloat + (m - t).toFloat / mf) / 3.0

/-- **The names alike enough to `word`**, least alike first. -/
def suggestions (word : String) (names : List String) : List String :=
  let scored := (names.map fun n => (jaro word n, n)).filter (·.1 > 0.7)
  (scored.mergeSort fun p q => p.1 ≤ q.1).map (·.2)

/-- The name most alike to `word`, if one is alike enough. -/
def best? (word : String) (names : List String) : Option String :=
  (suggestions word names).getLast?

/-- Every suggestion is one of the known names. -/
theorem mem_of_mem_suggestions {word n : String} {names : List String}
    (h : n ∈ suggestions word names) : n ∈ names := by
  simp only [suggestions, List.mem_map] at h
  obtain ⟨p, hp, rfl⟩ := h
  have hp' := (List.mergeSort_perm _ _).mem_iff.mp hp
  simp only [List.mem_filter, List.mem_map] at hp'
  obtain ⟨⟨x, hx, rfl⟩, _⟩ := hp'
  exact hx

end Similarity
end ShmBench
