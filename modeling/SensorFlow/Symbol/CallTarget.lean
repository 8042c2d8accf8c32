import SensorFlow.Symbol.Table
import SensorFlow.Text.Blank

/-!
# Receivers of calls

A call target is resolved to the class that most likely receives the call. The tiers are tried in
order and the first definite answer counts, so a precise tier shadows the looser ones after it.
-/
namespace SensorFlow
open Text
set_option autoImplicit false

structure CallTarget where
  receiver : Option String
  method : String
  deriving Repr, DecidableEq

namespace CallTarget

/-- Splits at the last dot; a text without a dot has no receiver. -/
def ofString (target : String) : CallTarget :=
  let reversed := target.toList.reverse
  match reversed.dropWhile (· != '.') with
  | [] => { receiver := none, method := target }
  | _ :: receiver =>
    { receiver := some (String.ofList receiver.reverse)
      method := String.ofList (reversed.takeWhile (· != '.')).reverse }

end CallTarget

inductive Tier where
  /-- A bare call of a method that the caller declares. -/
  | ownMethod
  /-- A bare call: the first class that declares the method. -/
  | declaringClass
  /-- The receiver is the name of a class. -/
  | receiverClass
  /-- The receiver is a field of the caller; its type, or a type argument, is a class. -/
  | receiverField
  /-- A call with a receiver: the first class that declares the method. -/
  | methodName
  deriving Repr, DecidableEq

namespace Tier

def all : List Tier := [ownMethod, declaringClass, receiverClass, receiverField, methodName]

def label : Tier → String
  | ownMethod => "self"
  | declaringClass => "declaring-class"
  | receiverClass => "receiver-class"
  | receiverField => "receiver-field"
  | methodName => "method-name"

/-- The names a field's type stands for: the type without nullability marks, then each piece
between commas of what stands between its first `<` and its last `>`. -/
def typeNames (type : String) : List String :=
  let bare := trim (type.toList.filter (· != '?'))
  let arguments :=
    if bare.contains '<' && bare.contains '>' then
      let opened := bare.takeWhile (· != '<')
      let closed := (bare.reverse.dropWhile (· != '>')).drop 1
      let inner := closed.reverse.drop (opened.length + 1)
      (inner.splitOn ',').map trim
    else []
  (bare :: arguments).map String.ofList

def resolve? (tier : Tier) (target : CallTarget) (caller : ClassSymbol) (table : SymbolTable) :
    Option ClassSymbol :=
  match tier, target.receiver with
  | ownMethod, none => if caller.hasMethod target.method then some caller else none
  | declaringClass, none => table.declaring? target.method
  | receiverClass, some receiver => table.named? receiver
  | receiverField, some receiver =>
    (caller.field? receiver).bind fun field => (typeNames field.type).findSome? table.named?
  | methodName, some _ => table.declaring? target.method
  | _, _ => none

end Tier

/-- The class that receives a call of `caller`. -/
def SymbolTable.receiver? (table : SymbolTable) (tiers : List Tier) (caller : ClassSymbol)
    (target : String) : Option ClassSymbol :=
  tiers.findSome? fun tier => tier.resolve? (CallTarget.ofString target) caller table

end SensorFlow
