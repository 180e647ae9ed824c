import PegKit.Diagnostic

/-!
# Filtering diagnostics

One mistake often makes several reports. A report is dropped when one of higher priority starts
before it and reaches at least as far, or when both start at one place and the other outranks it. At
one place a missing piece beats the construct left open that it caused, whatever the priority.

Pairs of reports are compared in order, and a report already dropped drops no other.
-/

namespace PegKit

inductive Loser
  | first
  | second
  deriving DecidableEq, Repr

/-- Which of two colliding reports loses, if they collide. -/
def Diagnostic.loser? (a b : Diagnostic) : Option Loser :=
  if a.span.start < b.span.start && b.span.stop ≤ a.span.stop && a.kind.suppresses b.kind then
    some .second
  else if a.span.start ≠ b.span.start then none
  else if a.kind.isRootCause && b.kind.isStructural then some .second
  else if b.kind.isRootCause && a.kind.isStructural then some .first
  else if a.kind.suppresses b.kind then some .second
  else none

namespace Diagnostics

/-- Compares the reports at two places, unless one of them is dropped; returns what is dropped
then. -/
def compareAt (diagnostics : Diagnostics) (dropped : List Nat) (pair : Nat × Nat) : List Nat :=
  if pair.1 = pair.2 || dropped.contains pair.1 || dropped.contains pair.2 then dropped
  else
    match diagnostics[pair.1]?, diagnostics[pair.2]? with
    | some a, some b =>
      match a.loser? b with
      | some .first => pair.1 :: dropped
      | some .second => pair.2 :: dropped
      | none => dropped
    | _, _ => dropped

def placePairs (count : Nat) : List (Nat × Nat) :=
  (List.range count).flatMap fun i ↦ (List.range count).map fun j ↦ (i, j)

def droppedPlaces (diagnostics : Diagnostics) : List Nat :=
  (placePairs diagnostics.length).foldl (compareAt diagnostics) []

/-- The reports without those that follow from another one. -/
def filtered (diagnostics : Diagnostics) : Diagnostics :=
  let dropped := diagnostics.droppedPlaces
  (diagnostics.zipIdx.filter fun entry ↦ !dropped.contains entry.2).map (·.1)

end Diagnostics

end PegKit
