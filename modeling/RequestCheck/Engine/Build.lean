import RequestCheck.Engine.Basic

/-!
# Building an engine from rules

An engine is built in steps: a filter set is opened, the rule texts are added to it in order, and
the set is compiled. A debug set keeps the text of its rules; optimizing merges rules and loses
their texts, so a debug engine is not optimized. What an engine answers is the matter of a matcher,
which is given the steps.

    buildSteps sources setDebug engineDebug     the steps, in order
-/

namespace RequestCheck.Engine

inductive BuildStep where
  | openSet (debug : Bool)
  | addRules (rules : Text)
  | compile (optimize : Bool)
  deriving DecidableEq

/-- The steps that fill a filter set. -/
def setSteps (sources : List Text) (debug : Bool) : List BuildStep :=
  .openSet debug :: sources.map .addRules

def buildSteps (sources : List Text) (setDebug engineDebug : Bool) : List BuildStep :=
  setSteps sources setDebug ++ [.compile (!engineDebug)]

/-- How the steps of building determine the engine. -/
abbrev Matcher := List BuildStep → Engine

end RequestCheck.Engine
