import EntropyTables.Entry
import EntropyTables.Error
import Std.Data.TreeMap
/-!
# Checking indices while a table is read

A `Validator` lives for one run. Entries are checked one at a time, as soon as their line has been
read, so that a repeated index is reported against the line that repeats it. After the last entry
`finish` checks that the domain, if the table has one, is complete.

Main statement: `step_refused` (a refused entry is not recorded).
-/
namespace EntropyTables

/-- The entries accepted so far (`EntryValidator`). -/
structure Validator where
  /-- The number of indices, counted from zero, that must all be present. -/
  domain : Option Nat
  /-- The accepted indices, each with the line of its entry. -/
  firstSeen : Std.TreeMap Int Nat
  /-- The accepted entries, in the order in which they came. -/
  entries : Array Entry

namespace Validator

def new (domain : Option Nat) : Validator := ⟨domain, ∅, #[]⟩

def inDomain (domain : Option Nat) (index : Int) : Bool :=
  match domain with
  | none => true
  | some d => 0 ≤ index && index < d

/-- One call of `EntryValidator::observe`: the validator after it, and the fault of an entry that is
refused. An entry is recorded if its index is new and lies in the domain. -/
def step (v : Validator) (entry : Entry) (line : Nat) : Validator × Option TableError :=
  match v.firstSeen[entry.index]? with
  | some firstLine => (v, some (.duplicateIndex entry.index line firstLine))
  | none =>
    if inDomain v.domain entry.index then
      ({ v with
        firstSeen := v.firstSeen.insert entry.index line
        entries := v.entries.push entry }, none)
    else (v, some (.indexOutOfRange entry.index line (v.domain.getD 0)))

/-- What a call of `EntryValidator::observe` says: the validator after an entry that is accepted, or
the fault of one that is refused. -/
def observe (v : Validator) (entry : Entry) (line : Nat) : Except TableError Validator :=
  match v.step entry line with
  | (v', none) => .ok v'
  | (_, some e) => .error e

section

variable {v v' : Validator} {entry : Entry} {line : Nat} {e : TableError}

/-- **A refused entry leaves the validator as it was.** -/
theorem step_refused (h : v.step entry line = (v', some e)) : v' = v := by
  unfold step at h
  split at h
  · exact (Prod.mk.inj h).1.symm
  · split at h
    · cases h
    · exact (Prod.mk.inj h).1.symm

theorem step_of_observe_ok (h : v.observe entry line = .ok v') :
    v.step entry line = (v', none) := by
  unfold observe at h
  split at h
  · next hs =>
    obtain rfl := Except.ok.inj h
    exact hs
  · cases h

theorem step_of_observe_error (h : v.observe entry line = .error e) :
    v.step entry line = (v, some e) := by
  unfold observe at h
  split at h
  · cases h
  · next hs =>
    obtain rfl := Except.error.inj h
    rw [hs, step_refused hs]

end

/-! ## Completeness -/

/-- The number whose signed 64-bit form has the same bits as `n`: the size of a domain as
`EntryValidator::finish` compares it. -/
def signed64 (n : Nat) : Int := Int.bmod n UInt64.size

/-- The loop of `EntryValidator::finish` over ascending indices that should run on from `expected`:
the first number that is skipped, or else the number after the last. -/
def walk (expected : Int) : List Int → Except Int Int
  | [] => .ok expected
  | index :: rest => if index = expected then walk (expected + 1) rest else .error expected

/-- The number that `EntryValidator::finish` reports of a domain: the one at which its loop stops,
or the one after the last index if a signed count can tell that it lies in the domain. -/
def missing? (domain : Nat) (indices : List Int) : Option Int :=
  match walk 0 indices with
  | .error skipped => some skipped
  | .ok next => if next < signed64 domain then some next else none

/-- `EntryValidator::finish`: the accepted entries, in the order in which they came, if the domain
is complete. -/
def finish (v : Validator) : Except TableError (List Entry) :=
  match v.domain.bind fun d => missing? d v.firstSeen.keys with
  | some index => .error (.missingIndex index)
  | none => .ok v.entries.toList

end Validator

end EntropyTables
