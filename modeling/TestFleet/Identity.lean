import TestFleet.Directory
import TestFleet.Text.Hex

/-!
# Who and what takes part

Jobs, buckets and workers are known by a text of their own choice. Clients are known by a number of
128 bits, written in groups of hexadecimal digits.
-/

namespace TestFleet

/-- A job: the tests that a client submitted together. -/
structure JobId where
  text : String
  deriving DecidableEq, Repr, Inhabited

/-- A bucket: tests that run together on one worker. -/
structure BucketId where
  text : String
  deriving DecidableEq, Repr, Inhabited

/-- A worker: a process that runs buckets. -/
structure WorkerId where
  text : String
  deriving DecidableEq, Repr, Inhabited

instance : Key JobId := ⟨JobId.text, fun {a b} h => by cases a; cases b; simp_all⟩

instance : Key BucketId := ⟨BucketId.text, fun {a b} h => by cases a; cases b; simp_all⟩

instance : Key WorkerId := ⟨WorkerId.text, fun {a b} h => by cases a; cases b; simp_all⟩

/-- A client: whoever submits jobs or looks at the queue. -/
structure ClientId where
  number : BitVec 128
  deriving DecidableEq, Repr, Inhabited

namespace ClientId

/-- The 32 digits of a client's number. -/
def digits (c : ClientId) : List Char :=
  (List.range 32).map fun i => Nat.digitChar ((c.number.toNat >>> (4 * (31 - i))) % 16)

/-- A client's number in groups of 8, 4, 4, 4 and 12 digits. -/
def shown (c : ClientId) : String :=
  let ds := c.digits
  String.ofList (ds.take 8 ++ '-' :: (ds.drop 8).take 4 ++ '-' :: (ds.drop 12).take 4 ++
    '-' :: (ds.drop 16).take 4 ++ '-' :: ds.drop 20)

/-- The digits of a text in groups, if it is cut where it should be. -/
def ungroup? (cs : List Char) : Option (List Char) :=
  let dashes := [8, 13, 18, 23]
  if cs.length = 36 ∧ dashes.all (fun i => cs[i]? == some '-') then
    some (cs.take 8 ++ (cs.drop 9).take 4 ++ (cs.drop 14).take 4 ++ (cs.drop 19).take 4 ++
      cs.drop 24)
  else none

/-- The number that 32 digits of either case write. -/
def ofDigits? (cs : List Char) : Option ClientId :=
  if cs.length = 32 then (Text.hexNumber? cs).map fun n => ⟨BitVec.ofNat 128 n⟩ else none

/-- Drops `front` from the beginning of a text that starts with it, in letters of either case. -/
def after? (front cs : List Char) : Option (List Char) :=
  if (cs.take front.length).map Char.toLower = front then some (cs.drop front.length) else none

/-- Reads a client's number: 32 digits, or digits in groups, which may stand in braces or behind
the name of the kind of number, in letters of either case. -/
def ofText? (s : String) : Option ClientId :=
  let cs := s.toList
  let urn := "urn:uuid:".toList
  if cs.length = 32 then ofDigits? cs
  else if cs.length = 36 then ungroup? cs >>= ofDigits?
  else if cs.length = 38 then
    if cs.head? = some '\x7b' ∧ cs.getLast? = some '\x7d' then
      ungroup? (cs.drop 1).dropLast >>= ofDigits?
    else none
  else if cs.length = 45 then after? urn cs >>= ungroup? >>= ofDigits?
  else none

end ClientId

/-- The party at the other end of a connection to the queue. -/
inductive Party where
  | worker (id : WorkerId)
  | client (id : ClientId)
  deriving DecidableEq, Repr

namespace Party

/-- The worker, if the party is one. -/
def worker? : Party → Option WorkerId
  | worker w => some w
  | client _ => none

/-- The kind and the name of a party. -/
def shown : Party → String
  | worker w => "worker:" ++ w.text
  | client c => "client:" ++ c.shown

end Party

end TestFleet
