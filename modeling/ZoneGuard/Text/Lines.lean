/-!
# Lines

Texts that are written line by line.
-/

namespace ZoneGuard.Text

def unlines (lines : List String) : String :=
  String.join (lines.map fun line => line ++ "\n")

end ZoneGuard.Text
