import MetricFacade.Bucket.Spec
import MetricFacade.Number.Notation

/-!
# Faults of bucket specifications

Why a histogram could not be built with a specification. The parameters are checked
first and in order; a specification whose parameters pass must also expand to finite
bounds that strictly increase.
-/
namespace MetricFacade.Bucket

/-- The most bounds that a formulaic ladder may have. -/
def maxCount : Nat := 10000

inductive Fault where
  | noValues
  | noCount (kind : Kind)
  | largeCount (kind : Kind) (count : Nat)
  | startNotPositive (start : Float)
  | factorNotAboveOne (factor : Float)
  | startNotFinite (start : Float)
  | widthNotPositive (width : Float)
  | boundNotFinite (bound : Float)
  | notIncreasing (bound next : Float)
  deriving Repr, DecidableEq

def Fault.message : Fault → String
  | noValues => "explicit bucket list is empty"
  | noCount kind => kind.name ++ " bucket count must be at least 1"
  | largeCount kind count =>
    kind.name ++ " bucket count must be at most " ++ toString maxCount ++ ", got " ++ toString count
  | startNotPositive start =>
    "exponential buckets need a positive start, got " ++ Number.plain start
  | factorNotAboveOne factor =>
    "exponential buckets need a factor greater than 1, got " ++ Number.plain factor
  | startNotFinite start => "linear buckets need a finite start, got " ++ Number.plain start
  | widthNotPositive width => "linear buckets need a positive width, got " ++ Number.plain width
  | boundNotFinite bound => "bucket bound " ++ Number.plain bound ++ " is not finite"
  | notIncreasing bound next =>
    "bucket bounds must be strictly increasing, but " ++ Number.plain bound
      ++ " is followed by " ++ Number.plain next

def countFault (kind : Kind) (count : Nat) : Option Fault :=
  if count = 0 then some (.noCount kind)
  else if maxCount < count then some (.largeCount kind count)
  else none

/-- The first neighbours of which the second is not above the first. A bound that is not a
number is above nothing and below nothing. -/
def firstDescent : List Float → Option Fault
  | a :: b :: rest => if a ≥ b then some (.notIncreasing a b) else firstDescent (b :: rest)
  | _ => none

def ladderFault (bounds : List Float) : Option Fault :=
  match bounds.find? fun b => !b.isFinite with
  | some b => some (.boundNotFinite b)
  | none => firstDescent bounds

namespace Spec

/-- A fault that shows in the parameters alone. -/
def parameterFault : Spec → Option Fault
  | explicit values => if values.isEmpty then some .noValues else none
  | exponential start factor count =>
    match countFault .exponential count with
    | some fault => some fault
    | none =>
      if !start.isFinite || start ≤ 0 then some (.startNotPositive start)
      else if !factor.isFinite || factor ≤ 1 then some (.factorNotAboveOne factor)
      else none
  | linear start width count =>
    match countFault .linear count with
    | some fault => some fault
    | none =>
      if !start.isFinite then some (.startNotFinite start)
      else if !width.isFinite || width ≤ 0 then some (.widthNotPositive width)
      else none
  | standard => none

/-- The first fault of the specification, if it has any. -/
def fault? (spec : Spec) : Option Fault :=
  match spec.parameterFault with
  | some fault => some fault
  | none => ladderFault spec.bounds

end Spec

end MetricFacade.Bucket
