import Stencil.Pattern.Expr

/-!
# What comes from outside

The program relies on an engine that runs patterns, on a loader of documents and on a reader of
arguments. How much room a pattern may take and the words in which any of the three refuses its
input are theirs, so they are left open here: what is said about templates, builds and commands
holds for all of them.
-/

namespace Stencil

/-- What an engine adds to the language of patterns: whether it has room for an expression, and its
words about a text that it does not accept. -/
class Pattern.Engine where
  fits : Pattern.Expr → Bool
  explain : (ignoreCase : Bool) → (text : String) → String

/-- The words of a loader about a text that holds no build. -/
class Yaml.Loader where
  explain : (text : String) → String

/-- The words of a reader of arguments: what it says about arguments that stand for no command, and
where they ask for help. -/
class CommandLine.Manual where
  usage : (arguments : List String) → String
  help : (arguments : List String) → String

end Stencil
