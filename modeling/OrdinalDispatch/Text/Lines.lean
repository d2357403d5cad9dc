/-!
Contract: texts made of lines.

Owns: joining lines, each of which a line feed ends.

Does not own: what the lines say.
-/

set_option autoImplicit false

namespace OrdinalDispatch.Text

/-- Lines, each with its line feed. -/
def unlines (lines : List String) : String :=
  lines.foldl (fun text line => text ++ line ++ "\n") ""

end OrdinalDispatch.Text
