/-
# Why a command cannot be compiled
-/

namespace BotHost

/-- Why a command cannot be compiled. -/
inductive CompileError where
  /-- A pattern of the command is no pattern, or too large. -/
  | invalidPattern (command : String)
  | emptyTemplate
deriving DecidableEq

namespace CompileError

/-- The wording of a compile error. -/
def message : CompileError → String
  | invalidPattern command => "command '" ++ command ++ "' has an invalid pattern"
  | emptyTemplate => "command has an empty syntax"

end CompileError

end BotHost
