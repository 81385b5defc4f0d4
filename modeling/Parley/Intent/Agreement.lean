/-
Module: Parley.Intent.Agreement
Layer: Intent
Purpose: Whether a response agrees with the arguments of the call.  A record that repeats an
  argument must repeat its value; numbers need only stay numbers, and null agrees with everything.
  Of a list, each record is looked at.
Main exports: Json.agrees, Agreement.check
-/
import Parley.Intent.CallError

namespace Parley

/-- The name of a kind. -/
def Json.Kind.name : Json.Kind → String
  | .null => "null"
  | .boolean => "boolean"
  | .number => "number"
  | .string => "string"
  | .array => "array"
  | .object => "object"

/-- Whether a returned value agrees with the requested one. -/
def Json.agrees (requested returned : Json) : Bool :=
  requested.isNull || returned.isNull ||
    (requested.kind = returned.kind && (requested.kind = .number || requested.same returned))

namespace Agreement

/-- How a returned value disagrees with the requested one. -/
def disagreement (requested returned : Json) : String :=
  if requested.kind = returned.kind then
    "requested " ++ requested.render ++ " but got " ++ returned.render
  else
    "requested a " ++ requested.kind.name ++ " but the response holds a " ++ returned.kind.name

/-- The first argument, in key order, with which a record disagrees, with the reason. -/
def firstDisagreement? (record : Json.Object) : Json.Object → Option (String × String)
  | [] => none
  | (key, requested) :: arguments =>
      match Dictionary.find? record key with
      | none => firstDisagreement? record arguments
      | some returned =>
          if requested.agrees returned then firstDisagreement? record arguments
          else some (key, disagreement requested returned)

/-- Where a field stands: in the response, or in one of its items. -/
def place (item : Option Nat) (key : String) : String :=
  let field := "field \x60" ++ key ++ "\x60"
  match item with
  | none => field
  | some index => "item " ++ index.repr ++ ", " ++ field

/-- Check one record. -/
def checkRecord (intent : String) (arguments record : Json.Object) (item : Option Nat) :
    Except CallError Unit :=
  match firstDisagreement? record arguments with
  | none => .ok ()
  | some (key, reason) => .error (.invalidResponse intent (place item key ++ ": " ++ reason))

/-- Check the records among the items of a list, from an index on. -/
def checkItems (intent : String) (arguments : Json.Object) (index : Nat) :
    List Json → Except CallError Unit
  | [] => .ok ()
  | .obj record :: items =>
      match checkRecord intent arguments record (some index) with
      | .ok () => checkItems intent arguments (index + 1) items
      | .error error => .error error
  | _ :: items => checkItems intent arguments (index + 1) items

/-- Check a response against the arguments of the call. -/
def check (intent : String) (arguments : Json.Object) (response : Json) : Except CallError Unit :=
  match response with
  | .obj record => checkRecord intent arguments record none
  | .arr items => checkItems intent arguments 0 items
  | _ => .ok ()

end Agreement

end Parley
