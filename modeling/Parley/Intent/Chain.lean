/-
Module: Parley.Intent.Chain
Layer: Intent
Purpose: The layers around tool calls.  Each layer receives the rest of the chain as a step that it
  may run when it likes, as often as it likes or not at all.  Layers are ordered by priority, lower
  ones further out, and layers of one priority by the order in which they were added.
Main exports: Layer, Chain, Chain.add, Chain.around, Chain.run, Layer.logging, Layer.rateLimit
-/
import Parley.Intent.Context

namespace Parley

variable {η : Type} {H : Interface}

/-- A layer around tool calls. -/
structure Layer (η : Type) (H : Interface) where
  name : String
  priority : Int
  /-- The codes of the intents it is meant for; the empty list means all. -/
  targets : List String
  /-- What the layer does, given the rest of the chain. -/
  handle : Step η H → Step η H

/-- Whether a layer is meant for an intent. -/
def Layer.appliesTo (layer : Layer η H) (intent : String) : Bool :=
  layer.targets.isEmpty || layer.targets.contains intent

/-- The layers from the outside in. -/
abbrev Chain (η : Type) (H : Interface) : Type := List (Layer η H)

namespace Chain

/-- Add a layer, inside all layers whose priority is not greater. -/
def add (layer : Layer η H) : Chain η H → Chain η H
  | [] => [layer]
  | outer :: inner =>
      if outer.priority ≤ layer.priority then outer :: add layer inner
      else layer :: outer :: inner

/-- The chain of a list of layers, added one after another. -/
def ofLayers (layers : List (Layer η H)) : Chain η H :=
  layers.foldl (fun chain layer => add layer chain) []

/-- The layers around a last step. -/
def around (layers : Chain η H) (last : Step η H) : Step η H :=
  layers.foldr (fun layer next => layer.handle next) last

/-- Run the layers meant for the intent of a context around a last step.  Which layers these are is
settled before the first of them runs. -/
def run (chain : Chain η H) (last : Step η H) : Step η H := fun context =>
  around (chain.filter fun layer => layer.appliesTo context.intent) last context

end Chain

namespace Layer

/-- The note under which the outermost layer leaves the duration of a call in milliseconds. -/
def durationNote : String := "elapsed_ms"

/-- Notes the duration of each call, in whole milliseconds. -/
def logging : Layer η H where
  name := "logging"
  priority := 0
  targets := []
  handle := fun next context => do
    let (outcome, after) ← next context
    let now ← CallProgram.clock
    let duration := Json.int ((now - after.startedAt).tdiv 1000000)
    pure (outcome, { after with notes := Dictionary.insert durationNote duration after.notes })

/-- Turns calls away that a rate limit does not admit. -/
def rateLimit (limit : RateLimit) : Layer η H where
  name := "rate_limit"
  priority := 10
  targets := limit.targets
  handle := fun next context => do
    if ← CallProgram.grant limit context.session then next context
    else
      let reason := "more than " ++ limit.maxCalls.repr ++ " calls within " ++
        limit.window.wholeSeconds.repr ++ "s"
      pure (.error (.rejected "rate_limit" context.intent reason), context)

end Layer

end Parley
