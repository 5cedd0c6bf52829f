import RelayPool.Time.Calendar

/-!
# Documents

The tree of values that a configuration file holds.  A document that contains
itself is unfolded into a finite tree: where a collection is met again inside
itself, an `again` leaf stands for it.
-/

namespace RelayPool

/-- The kinds of collections that can be met again inside themselves. -/
inductive Collection
  | list
  | set
  | map
  deriving DecidableEq, Repr

/-- A value of a configuration file. -/
inductive Document
  | null
  | bool (value : Bool)
  | int (value : Int)
  | float (value : Number.Binary64)
  | text (value : String)
  | bytes (value : List UInt8)
  | date (value : Calendar.Date)
  | instant (value : Calendar.Instant)
  | span (value : TimeSpan)
  | list (items : List Document)
  | pair (first second : Document)
  | set (members : List Document)
  | map (entries : List (Document × Document))
  | again (kind : Collection)
  deriving Inhabited

namespace Document

/-- The entries of a mapping with text keys, in order. -/
def record (entries : List (String × Document)) : Document :=
  .map (entries.map fun entry => (.text entry.1, entry.2))

/-- The integer that a number counts as when it is a key: the truth values
count as one and zero. -/
def integerKey? : Document → Option Int
  | .bool value => some (if value then 1 else 0)
  | .int value => some value
  | _ => none

/-- Two values are the same as keys of a mapping.  Numbers are compared by
value, whatever their type. -/
def sameKey (first second : Document) : Bool :=
  match first.integerKey?, second.integerKey? with
  | some value, some value' => value == value'
  | some value, none =>
      match second with
      | .float number => number.equalsInt value
      | _ => false
  | none, some value =>
      match first with
      | .float number => number.equalsInt value
      | _ => false
  | none, none =>
      match first, second with
      | .null, .null => true
      | .float number, .float number' => number.equals number'
      | .text value, .text value' => value == value'
      | .bytes value, .bytes value' => value == value'
      | .date value, .date value' => value == value'
      | .instant value, .instant value' => value.same value'
      | .span value, .span value' => value == value'
      | _, _ => false

/-- Puts a value under a key: at the place of the same key, which stays as it
was written first, or else at the end. -/
def insertEntry (same : Document → Document → Bool) (key value : Document) :
    List (Document × Document) → List (Document × Document)
  | [] => [(key, value)]
  | entry :: rest =>
      if same entry.1 key then (entry.1, value) :: rest
      else entry :: insertEntry same key value rest

/-- The entries of a mapping in which the same key may have been written more
than once: the first place and the last value count. -/
def collapseEntries (same : Document → Document → Bool)
    (entries : List (Document × Document)) : List (Document × Document) :=
  entries.foldl (fun kept entry => insertEntry same entry.1 entry.2 kept) []

/-- The value under a text key. -/
def lookup? (name : String) : List (Document × Document) → Option Document
  | [] => none
  | (.text key, value) :: rest => if key = name then some value else lookup? name rest
  | _ :: rest => lookup? name rest

end Document

end RelayPool
