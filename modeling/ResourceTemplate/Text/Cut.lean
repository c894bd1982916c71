/-
# Cutting texts

What stands behind a start, what stands around the last place of a mark, and
the segments between the places of a character.

Key definitions: `Text.behind?`, `Text.cutAtLast?`, `Text.segments`.
Key theorems: `Text.segments_ne_nil`, `Text.flatten_segments`.
-/

namespace ResourceTemplate
namespace Text

/-- What stands behind `start` in a text that starts so. -/
def behind? : List Char → List Char → Option (List Char)
  | [], cs => some cs
  | _ :: _, [] => none
  | s :: start, c :: cs => if c = s then behind? start cs else none

/-- What stands before and behind `mark` where it stands for the last time. -/
def cutAtLast? (mark : List Char) : List Char → Option (List Char × List Char)
  | [] => none
  | c :: cs =>
    match cutAtLast? mark cs with
    | some (before, behind) => some (c :: before, behind)
    | none => (behind? mark (c :: cs)).map fun behind => ([], behind)

/-- The segments of a text between the places of `mark`. -/
def segments (mark : Char) : List Char → List (List Char)
  | [] => [[]]
  | c :: cs =>
    if c = mark then [] :: segments mark cs
    else match segments mark cs with
      | [] => [[c]]
      | s :: ss => (c :: s) :: ss

theorem segments_ne_nil (mark : Char) : ∀ cs : List Char, segments mark cs ≠ []
  | [] => by simp [segments]
  | c :: cs => by
    by_cases h : c = mark
    · simp [segments, h]
    · simp only [segments, h, if_false]
      split <;> simp

theorem segments_cons_mark (mark : Char) (cs : List Char) :
    segments mark (mark :: cs) = [] :: segments mark cs := by
  rw [segments, if_pos rfl]

theorem segments_cons_of_ne {mark c : Char} (h : c ≠ mark) {cs s : List Char} {ss : List (List Char)}
    (hcs : segments mark cs = s :: ss) : segments mark (c :: cs) = (c :: s) :: ss := by
  rw [segments, if_neg h, hcs]

/-- The segments hold all of a text but the marks. -/
theorem flatten_segments (mark : Char) : ∀ cs : List Char,
    (segments mark cs).flatten = cs.filter (· != mark)
  | [] => rfl
  | c :: cs => by
    have ih := flatten_segments mark cs
    by_cases h : c = mark
    · subst h
      rw [segments_cons_mark, List.flatten_cons, List.nil_append, ih]
      simp
    · obtain ⟨s, ss, hcs⟩ := List.exists_cons_of_ne_nil (segments_ne_nil mark cs)
      rw [segments_cons_of_ne h hcs, List.flatten_cons, List.cons_append, ← List.flatten_cons, ← hcs, ih]
      simp [h]

end Text
end ResourceTemplate
