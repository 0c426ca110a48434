import TexTranscript.Message
import TexTranscript.Text.Blank
import TexTranscript.Text.Digit

/-!
# References to source files

The tools name a place in a source file by a path and a line number. Paths below
the working directory are printed with a leading `./`, which is dropped, however
often it stands there; and a line number is whatever digits were printed. One
that is too large, or that is not written with ASCII digits, counts as line 1.

## Main definitions

* `sourceName` – a path without what the tools put around it.
* `lineNumber` – the line that a text of digits means.
-/

namespace TexTranscript

/-- Drops every leading `./`. -/
def dropCurrentDir : Text → Text
  | '.' :: '/' :: p => dropCurrentDir p
  | p => p

/-- A path as a tool printed it, without the white space around it and without
any leading `./`. -/
def sourceName (printed : Text) : Text := dropCurrentDir (Text.trim printed)

/-- The line that a text of digits means. -/
def lineNumber (digits : Text) : UInt32 :=
  match Text.asciiNumber? digits with
  | some n => if n < UInt32.size then UInt32.ofNat n else 1
  | none => 1

/-- The place in a source file that a printed path and a printed line mean. -/
def locationOf (file line : Text) : Location := ⟨String.ofList (sourceName file), lineNumber line⟩

/-- **No leading `./` is left.** -/
theorem startsWith_dropCurrentDir (p : Text) :
    Text.startsWith ['.', '/'] (dropCurrentDir p) = false := by
  fun_induction dropCurrentDir p with
  | case1 p ih => exact ih
  | case2 p h =>
    match p with
    | [] => rfl
    | [c] => by_cases hc : '.' = c <;> simp [Text.startsWith, Text.after?, hc]
    | c :: d :: p =>
      by_cases hc : '.' = c
      · by_cases hd : '/' = d
        · exact absurd (by rw [← hc, ← hd]) (h p)
        · simp [Text.startsWith, Text.after?, hd]
      · simp [Text.startsWith, Text.after?, hc]

end TexTranscript
