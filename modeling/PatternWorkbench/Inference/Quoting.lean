import PatternWorkbench.Pattern.Reading.Escape

/-!
# Texts as patterns for themselves

A backslash goes before every character that a pattern could read as something
else than itself.
-/

namespace PatternWorkbench.Inference

open Pattern.Escape (isMeta)

def quoted (text : Text) : Text :=
  text.flatMap fun c => if isMeta c then ['\\', c] else [c]

@[simp]
theorem quoted_nil : quoted [] = [] := rfl

/-- Texts are quoted character by character. -/
theorem quoted_append (left right : Text) :
    quoted (left ++ right) = quoted left ++ quoted right := by
  simp [quoted]

end PatternWorkbench.Inference
