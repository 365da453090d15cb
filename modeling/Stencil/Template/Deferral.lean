import Stencil.Template.Expansion

/-!
# Partial expansion

Some names get their values only later. A template can be expanded as far as it does not mention
them: the result is again a template, in which the tokens that mention a deferred name stand as they
were written, and the values of all others stand with `$` and `\` escaped.
-/

namespace Stencil

/-- Whether a node mentions one of the names. -/
def Node.mentionsAny (n : Node) (names : List String) : Bool :=
  n.names.any (names.contains ·)

/-- Text written so that it stands for itself in a template. -/
def escapeText (text : String) : String :=
  String.ofList (text.toList.flatMap fun c =>
    if c = '$' then ['$', '$'] else if c = '\\' then ['\\', '\\'] else [c])

/-- What a node of a partly expanded template is written as. A deferred bare reference gets braces,
so that what follows it cannot become a part of its name. -/
def Node.defer (source : String) (env : Environment) (deferred : List String) (n : Node) : String :=
  match n with
  | .literal _ span => span.slice source
  | .variable v =>
    if deferred.contains v.name then
      if v.braced then v.span.slice source else "$\x7b" ++ v.name ++ "\x7d"
    else escapeText (expandLenient env [n]).1
  | _ =>
    if n.mentionsAny deferred then n.span.slice source
    else escapeText (expandLenient env [n]).1

/-- The template expanded up to the deferred names, as the source of another template. -/
def Template.partialSubstitute (t : Template) (env : Environment) (deferred : List String) :
    String :=
  String.join (t.nodes.map (Node.defer t.source env deferred))

end Stencil
