import ClientGen.CommandLine.Run
import ClientGen.Proofs.Output.Containment

namespace ClientGen.CommandLine

open Output

variable {yes keepBase : Bool} {turn : Turn} {turns : List Turn} {disk : Disk}

section Entries

end Entries

section Loop

end Loop

section Records

-- A record tells how its entry went, and its number if it failed.
structure Tells (position : Nat) (result : Except EntryFault Generated) (r : Record) : Prop where
  info : r.level = .info ↔ ∃ generated, result = .ok generated
  error : r.level = .error ↔ ∃ fault, result = .error fault
  number : (∃ fault, result = .error fault) →
    ("Entry " ++ toString position ++ " (").toList <+: r.message.toList

end Records

section Answers

def failures (log : List Record) : Nat := log.countP fun r => r.level = .error

-- The answer for so many entries, from their records.
def verdict (count : Nat) (log : List Record) : Outcome :=
  { code := if failures log = 0 then 0 else 1
    log
    failure :=
      if failures log = 0 then none
      else some (toString (failures log) ++ " of " ++ toString count ++ " entries failed") }

end Answers

def fails : Nat → Bool := fun i => i ∉ [1, 5]

end ClientGen.CommandLine
