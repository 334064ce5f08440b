namespace ClientGen

def numberedName (name : String) (k : Nat) : String := name ++ "_" ++ toString k

-- `name` itself if it is not taken, and else `name_1`, `name_2`, … whichever comes first and is free. As
-- many candidates as there are taken names are enough, since `name` is one of the latter. A counter of 32 bits
-- with a sign holds all these numbers, as long as less than two thousand million names are taken.
def freshName (name : String) (taken : List String) : String :=
  if name ∉ taken then name
  else
    let candidates := (List.range taken.length).map fun i => numberedName name (i + 1)
    (candidates.find? (· ∉ taken)).getD name

def freshNames (names : List String) : List String :=
  names.foldl (fun done name => done ++ [freshName name done]) []

end ClientGen
