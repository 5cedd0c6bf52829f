import RelayPool.Number.Numeral

/-!
# Components of duration texts

A duration text is a sequence of components, each a number and a unit.  A
number is a run of decimal digits of any script with at most one point, and
has a digit before the point or behind it.
-/

namespace RelayPool.Duration

/-- A unit of time. -/
inductive TimeUnit
  | nanosecond
  | microsecond
  | millisecond
  | second
  | minute
  | hour
  deriving DecidableEq, Repr

/-- The length of a unit in seconds. -/
def TimeUnit.seconds : TimeUnit → Number.Binary64
  | .nanosecond => .ofDecimal false 1 (-9)
  | .microsecond => .ofDecimal false 1 (-6)
  | .millisecond => .ofDecimal false 1 (-3)
  | .second => .ofInt 1
  | .minute => .ofInt 60
  | .hour => .ofInt 3600

/-- The spellings of the units.  The sign of micro may be U+00B5 or U+03BC,
and `ms` stands before `m`, which it begins with. -/
def unitSpellings : List (List Char × TimeUnit) :=
  [(['n', 's'], .nanosecond), (['u', 's'], .microsecond),
    (['µ', 's'], .microsecond), (['μ', 's'], .microsecond),
    (['m', 's'], .millisecond), (['s'], .second), (['m'], .minute), (['h'], .hour)]

/-- A number as written, by its digits before and behind the point, and its
unit. -/
structure Component where
  whole : List Char
  fraction : List Char
  unit : TimeUnit
  deriving DecidableEq, Repr

/-- The length of a component in seconds: its number times its unit, each
rounded. -/
def Component.seconds (component : Component) : Number.Binary64 :=
  (Number.Binary64.ofDecimal false
    (Number.digitsValue 10 (component.whole ++ component.fraction))
    (-(component.fraction.length : Int))).mul component.unit.seconds

/-- The unit at the front of a text, and the text behind it. -/
def readUnit? (text : List Char) : Option (TimeUnit × List Char) :=
  unitSpellings.findSome? fun (spelling, unit) =>
    if spelling.isPrefixOf text then some (unit, text.drop spelling.length) else none

/-- The component at the front of a text, and the text behind it. -/
def readComponent? (text : List Char) : Option (Component × List Char) :=
  let (whole, rest) := Number.splitDigits text
  let (fraction, rest) :=
    match rest with
    | '.' :: behind => Number.splitDigits behind
    | _ => ([], rest)
  if whole.isEmpty && fraction.isEmpty then none
  else
    (readUnit? rest).map fun (unit, behind) => (⟨whole, fraction, unit⟩, behind)

/-- A text is made of components, of which at most `fuel` are read. -/
def isSequenceWithin : Nat → List Char → Bool
  | _, [] => true
  | 0, _ => false
  | fuel + 1, text =>
      match readComponent? text with
      | some (_, rest) => isSequenceWithin fuel rest
      | none => false

/-- A text is made of at least one component and nothing else.  Each takes at
least two characters, so the length of the text is enough fuel. -/
def isSequence (text : List Char) : Bool :=
  !text.isEmpty && isSequenceWithin text.length text

/-- The components in a text, found in at most `fuel` steps from the left.  A
character that begins none is passed over. -/
def componentsWithin : Nat → List Char → List Component
  | 0, _ => []
  | _, [] => []
  | fuel + 1, character :: rest =>
      match readComponent? (character :: rest) with
      | some (component, behind) => component :: componentsWithin fuel behind
      | none => componentsWithin fuel rest

/-- The components in a text, from the left.  Each step takes at least a
character, so the length of the text is enough fuel. -/
def components (text : List Char) : List Component :=
  componentsWithin text.length text

end RelayPool.Duration
