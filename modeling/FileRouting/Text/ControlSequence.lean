import FileRouting.Text.Raw

/-!
# Control sequences

A control sequence tells a terminal how to show what follows it. It is an escape character with an
opening bracket, then parameters, then intermediate characters, and one final character. A text that
goes elsewhere is better without them.
-/

namespace FileRouting.Text

def isParameter (c : Char) : Bool :=
  '0' ≤ c ∧ c ≤ '?'

/-- The characters between the parameters and the final character. -/
def isIntermediate (c : Char) : Bool :=
  ' ' ≤ c ∧ c ≤ '/'

def isFinal (c : Char) : Bool :=
  '@' ≤ c ∧ c ≤ '~'

/-- What stands behind a control sequence at the start of a text. -/
def behindControl? : RawText → Option RawText
  | .char '\x1b' :: .char '[' :: text =>
    match (text.dropWhile (Glyph.isIn isParameter)).dropWhile (Glyph.isIn isIntermediate) with
    | .char c :: rest => if isFinal c then some rest else none
    | _ => none
  | _ => none

theorem length_behindControl? {text rest : RawText} (h : behindControl? text = some rest) :
    rest.length < text.length := by
  unfold behindControl? at h
  split at h
  · rename_i text
    have hparameters := (List.dropWhile_sublist (l := text) (Glyph.isIn isParameter)).length_le
    have hboth := (List.dropWhile_sublist (l := text.dropWhile (Glyph.isIn isParameter))
      (Glyph.isIn isIntermediate)).length_le
    split at h
    · rename_i hend
      split at h
      · cases h
        rw [hend] at hboth
        simp only [List.length_cons] at hboth ⊢
        omega
      · cases h
    · cases h
  · cases h

/-- A text without its control sequences. What is left may form new ones. -/
def withoutControls : RawText → RawText
  | [] => []
  | glyph :: text =>
    match h : behindControl? (glyph :: text) with
    | some rest =>
      have := length_behindControl? h
      withoutControls rest
    | none => glyph :: withoutControls text
termination_by text => text.length
decreasing_by all_goals simp only [List.length_cons] at *; omega

end FileRouting.Text
