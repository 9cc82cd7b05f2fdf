import ShareCheck.Access.Share
import ShareCheck.Text.Search

set_option autoImplicit false

namespace ShareCheck

open Text (Bytes)

def probePayload : Bytes := Text.encode "smbshare-e2e access probe\n".toList

def probeName (suffix : UInt32) : String :=
  -- Eight hexadecimal digits tell the probe files of concurrent round trips apart.
  let digits := Text.hex suffix.toNat
  "e2e-probe-" ++ String.ofList (List.replicate (8 - digits.length) '0' ++ digits) ++ ".txt"

structure RoundTrip where
  target : Target
  credential : Credential
  probe : String
deriving DecidableEq, Repr

inductive Stage
  | listing
  | writing
  | relisting
  | reading
  | removing
  /-- After the failure that will be reported. -/
  | cleaning (e : Error)
deriving DecidableEq, Repr

def Stage.rank : Stage → Nat
  | listing => 5
  | writing => 4
  | relisting => 3
  | reading => 2
  | removing => 1
  | cleaning _ => 1

inductive Progress (s : Stage)
  | next (after : Stage) (later : after.rank < s.rank)
  | finished (r : Except Error Unit)

namespace RoundTrip

variable {σ : Type}

def missing (t : RoundTrip) : Error :=
  .access .operation t.target.unc (t.probe ++ " missing from listing after put")

def differs (t : RoundTrip) (contents : Bytes) : Error :=
  .access .operation t.target.unc
    (t.probe ++ s!" read back {contents.length} bytes that differ from what was written")

def afterListing : Except Error (List String) → Progress .listing
  | .ok _ => .next .writing (by decide)
  | .error e => .finished (.error e)

def afterWriting : Except Error Unit → Progress .writing
  | .ok () => .next .relisting (by decide)
  | .error e => .finished (.error e)

def afterRelisting (t : RoundTrip) : Except Error (List String) → Progress .relisting
  | .ok names =>
    if names.contains t.probe then .next .reading (by decide)
    else .next (.cleaning t.missing) (by show 1 < _; decide)
  | .error e => .next (.cleaning e) (by show 1 < _; decide)

def afterReading (t : RoundTrip) : Except Error Bytes → Progress .reading
  -- What was written may stand anywhere in what is read back, as one block.
  | .ok contents =>
    if Text.occurs probePayload contents then .next .removing (by decide)
    else .next (.cleaning (t.differs contents)) (by show 1 < _; decide)
  | .error e => .next (.cleaning e) (by show 1 < _; decide)

def afterRemoving : Except Error Unit → Progress .removing
  | .ok () => .finished (.ok ())
  | .error e => .finished (.error e)

def afterCleaning (e : Error) : Except Error Unit → Progress (.cleaning e)
  | _ => .finished (.error e)

def call (client : ShareClient σ) (t : RoundTrip) : (s : Stage) → Call σ (Progress s)
  | .listing => (client.list t.target t.credential).map afterListing
  | .writing => (client.put t.target t.credential t.probe probePayload).map afterWriting
  | .relisting => (client.list t.target t.credential).map t.afterRelisting
  | .reading => (client.get t.target t.credential t.probe).map t.afterReading
  | .removing => (client.remove t.target t.credential t.probe).map afterRemoving
  | .cleaning e => (client.remove t.target t.credential t.probe).map (afterCleaning e)

end RoundTrip

end ShareCheck
