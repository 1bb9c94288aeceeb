import RequestCheck.Engine.Basic

/-!
# Scripted engines

An engine that follows a list of rules: the first rule whose conditions all hold gives the reply.

    Script.engine s    the engine that follows s
-/

namespace RequestCheck.Engine

/-- A reply with the conditions under which it is given. -/
structure Rule where
  url : Option Text := none
  context : Option Text := none
  type : Option Text := none
  urlPart : Option Text := none
  reply : Reply

/-- The conditions of a rule hold: what it names is equal, and its url part occurs in the url. -/
def Rule.appliesTo (rule : Rule) (query : Query) : Bool :=
  rule.url.all (some · == query.url) && rule.context.all (some · == query.context) &&
    rule.type.all (· == query.type) &&
    rule.urlPart.all fun part => query.url.any part.occursIn

/-- Rules, and the reply where none applies. -/
structure Script where
  rules : List Rule := []
  fallback : Reply := .answered { matched := some (.boolean false) }

def Script.engine (script : Script) : Engine := fun query =>
  match script.rules.find? fun rule => rule.appliesTo query with
  | some rule => rule.reply
  | none => script.fallback

end RequestCheck.Engine
