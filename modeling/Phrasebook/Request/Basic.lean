import Phrasebook.Request.Key

/-!
# Requests

A request is a list of keys. It is resolved key by key, and the results are
written one after the other.
-/

namespace Phrasebook

/-- Keys in reading order. -/
structure Request where
  /-- The keys. -/
  keys : List Key := []
deriving DecidableEq, Repr

namespace Request

/-- The request with one key. -/
def single (key : Key) : Request := ⟨[key]⟩

/-- The request with one piece of literal text. -/
def literal (text : String) : Request := ⟨[Key.literal text]⟩

/-- The keys of one request followed by those of another. -/
def append (left right : Request) : Request := ⟨left.keys ++ right.keys⟩

instance : Append Request := ⟨append⟩

/-- The request with one more key at its end. -/
def push (request : Request) (key : Key) : Request := ⟨request.keys ++ [key]⟩

/-- The number of keys. -/
def size (request : Request) : Nat := request.keys.length

/-- Whether there are no keys. -/
def isEmpty (request : Request) : Bool := request.keys.isEmpty

/-- The request with only the keys that a test accepts. -/
def filter (test : Key → Bool) (request : Request) : Request := ⟨request.keys.filter test⟩

/-- The request with a text put before every name that is looked up. It is left as
it is when there is nothing to be put there. -/
def under (path : String) (request : Request) : Request :=
  if path.isEmpty then request else ⟨request.keys.map (Key.under path)⟩

end Request

end Phrasebook
