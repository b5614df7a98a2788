import FormatConformance.Json.Basic

/-! Keys of snapshots. A key is made of the titles of a fixture and of an entry; later uses of the
same titles are numbered. -/

namespace FormatConformance

abbrev KeyCounter := Fields Nat

namespace KeyCounter

def baseKey (fixture entry : String) : String := fixture ++ " › " ++ entry

def numbered (key : String) (use : Nat) : String :=
  if use = 1 then key else key ++ " #" ++ toString use

def next (counter : KeyCounter) (fixture entry : String) : String × KeyCounter :=
  let key := baseKey fixture entry
  let use := (counter.lookup key).getD 0 + 1
  (numbered key use, Fields.insert key use counter)

end KeyCounter

end FormatConformance
