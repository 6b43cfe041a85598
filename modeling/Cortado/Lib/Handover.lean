import Mathlib.Data.List.Basic

/-!
# Handing messages over in order

Somebody is offered messages, holds some of them for a while and delivers
some of those.  Messages may be lost on the way, but none is delivered twice,
invented or overtaken.  Many such exchanges may share a log, which
`entriesOf` takes apart.
-/

/-- What was delivered followed by what is held is a selection, in order, of
what was offered. -/
structure Handover {α : Type*} (offered held delivered : List α) : Prop where
  ordered : (delivered ++ held).Sublist offered

namespace Handover

variable {α : Type*} {offered held delivered : List α}

theorem start (offered : List α) : Handover offered [] [] :=
  ⟨List.nil_sublist offered⟩

theorem delivered_sublist (handover : Handover offered held delivered) :
    delivered.Sublist offered :=
  (List.sublist_append_left delivered held).trans handover.ordered

/-- Some of the held messages are lost. -/
theorem lose {kept : List α} (handover : Handover offered held delivered)
    (fewer : kept.Sublist held) : Handover offered kept delivered :=
  ⟨(fewer.append_left delivered).trans handover.ordered⟩

theorem accept (handover : Handover offered held delivered)
    (messages : List α) :
    Handover (offered ++ messages) (held ++ messages) delivered := by
  constructor
  rw [← List.append_assoc]
  exact handover.ordered.append (List.Sublist.refl messages)

/-- The oldest held message is delivered. -/
theorem deliver {message : α}
    (handover : Handover offered (message :: held) delivered) :
    Handover offered held (delivered ++ [message]) := by
  constructor
  rw [List.append_assoc]
  exact handover.ordered

end Handover

section Logs

variable {κ α : Type*} [DecidableEq κ]

/-- The entries a log has for a key, in order. -/
def entriesOf (key : κ) (log : List (κ × α)) : List α :=
  log.filterMap fun entry => if entry.1 = key then some entry.2 else none

@[simp] theorem entriesOf_append (key : κ) (log more : List (κ × α)) :
    entriesOf key (log ++ more) = entriesOf key log ++ entriesOf key more :=
  List.filterMap_append

theorem entriesOf_self (key : κ) (value : α) :
    entriesOf key [(key, value)] = [value] := by
  simp [entriesOf]

theorem entriesOf_other {key other : κ} (different : other ≠ key)
    (value : α) : entriesOf key [(other, value)] = [] := by
  simp [entriesOf, different]

theorem mem_of_mem_entriesOf {key : κ} {value : α} {log : List (κ × α)}
    (member : value ∈ entriesOf key log) : (key, value) ∈ log := by
  obtain ⟨⟨other, found⟩, inLog, kept⟩ := List.mem_filterMap.mp member
  obtain ⟨same, result⟩ := Option.ite_none_right_eq_some.mp kept
  cases result
  exact same ▸ inLog

end Logs
