import ConfigSchema.Pattern.Meaning
import ConfigSchema.Pattern.Reader
import ConfigSchema.Pattern.Size

namespace ConfigSchema

/-- A pattern that has been understood. -/
structure Pattern where
  expr : Pattern.Expr

namespace Pattern

/-- Understands a pattern. One whose automaton is too large is refused. -/
def compile (text : String) : Except Error Pattern := do
  let written ← Written.ofText text
  let (expr, _) ← written.meaning {}
  if sizeLimit < expr.size then throw .tooLarge
  return { expr }

def isMatch (pattern : Pattern) (text : String) : Bool := pattern.expr.matchesIn text.toList

end Pattern

end ConfigSchema
