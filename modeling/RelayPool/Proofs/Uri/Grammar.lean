import RelayPool.Proofs.Uri.Parts

/-!
# The grammar of URIs

What a URI looks like, told by how it is put together: a scheme or none, a part
that may begin with an authority, a query that is free, and a fragment.  Only
the fragment and the part in front of the query have to be written with
well-formed escapes, and a part behind a scheme that does not begin with `/` is
free as well.
-/

namespace RelayPool.Uri

/-- A control character of ASCII. -/
def IsControl (character : Char) : Prop :=
  character.toNat ≤ 0x1F ∨ character.toNat = 0x7F

/-- A hexadecimal digit of either case. -/
def IsHexDigit (character : Char) : Prop :=
  character.isDigit ∨ character ∈ "abcdefABCDEF".toList

/-- A letter, a digit or one of the marks that never delimit anything. -/
def IsUnreserved (character : Char) : Prop :=
  character.isAlphanum ∨ character ∈ "-._~".toList

/-- A mark that may delimit parts of a name. -/
def IsSubDelimiter (character : Char) : Prop :=
  character ∈ "!$&'()*+,;=".toList

def IsUserinfoCharacter (character : Char) : Prop :=
  IsUnreserved character ∨ IsSubDelimiter character ∨ character ∈ ":%@".toList

/-- Beyond ASCII every character may stand in a host. -/
def IsHostCharacter (character : Char) : Prop :=
  0x80 ≤ character.toNat ∨ IsUnreserved character ∨ IsSubDelimiter character ∨
    character ∈ ":[]<>\"%".toList

/-- A text begins with two characters that make an escape behind a `%`. -/
inductive BeginsEscape (escape : Char → Char → Prop) : List Char → Prop
  | two {high low : Char} {rest : List Char} (allowed : escape high low) :
      BeginsEscape escape (high :: low :: rest)

/-- Every `%` of a text begins an escape. -/
def EscapesAre (escape : Char → Char → Prop) (text : List Char) : Prop :=
  ∀ before behind, text = before ++ '%' :: behind → BeginsEscape escape behind

def IsEscape (high low : Char) : Prop :=
  IsHexDigit high ∧ IsHexDigit low

/-- An escape of `%` itself or of a byte beyond ASCII. -/
def IsHostEscape (high low : Char) : Prop :=
  IsEscape high low ∧ (high ∉ "01234567".toList ∨ high = '2' ∧ low = '5')

inductive IsScheme : List Char → Prop
  | letter {first : Char} {rest : List Char} (letter : first.isAlpha)
      (others : ∀ character ∈ rest, character.isAlphanum ∨ character ∈ "+-.".toList) :
      IsScheme (first :: rest)

/-- A text, whether it begins with a scheme and `:`, and what is left of it
behind them. -/
inductive Schemed : List Char → Bool → List Char → Prop
  | present {scheme rest : List Char} (isScheme : IsScheme scheme) :
      Schemed (scheme ++ ':' :: rest) true rest
  | absent {text : List Char}
      (without : ∀ scheme rest, IsScheme scheme → text ≠ scheme ++ ':' :: rest) :
      Schemed text false text

/-- A port with its colon, or nothing. -/
inductive IsPortText : List Char → Prop
  | absent : IsPortText []
  | digits {digits : List Char} (digit : ∀ character ∈ digits, character.isDigit) :
      IsPortText (':' :: digits)

/-- A host with its port, the host and the port.  A host in brackets ends at the
last `]`; any other host holds its port. -/
inductive Ported : List Char → List Char → List Char → Prop
  | bracketed {host port : List Char} (last : ']' ∉ port) :
      Ported ('[' :: (host ++ ']' :: port)) host port
  | given {front digits : List Char} (bare : (front ++ ':' :: digits).head? ≠ some '[')
      (last : ':' ∉ digits) :
      Ported (front ++ ':' :: digits) (front ++ ':' :: digits) (':' :: digits)
  | none {host : List Char} (bare : host.head? ≠ some '[') (absent : ':' ∉ host) :
      Ported host host []

inductive IsHost : List Char → Prop
  | ported {text host port : List Char} (ported : Ported text host port)
      (portText : IsPortText port) (escapes : EscapesAre IsHostEscape host)
      (characters : ∀ character ∈ host, IsHostCharacter character) : IsHost text

inductive IsAuthority : List Char → Prop
  | host {host : List Char} (absent : '@' ∉ host) (isHost : IsHost host) : IsAuthority host
  | userinfo {userinfo host : List Char} (last : '@' ∉ host)
      (characters : ∀ character ∈ userinfo, IsUserinfoCharacter character)
      (escapes : EscapesAre IsEscape userinfo) (isHost : IsHost host) :
      IsAuthority (userinfo ++ '@' :: host)

/-- Two slashes in front of a text begin an authority, unless a third one
follows and there is no scheme. -/
def BeginsAuthority (hasScheme : Bool) (behind : List Char) : Prop :=
  hasScheme = true ∨ behind.head? ≠ some '/'

/-- The part of a URI between its scheme and its query. -/
inductive IsHierarchy (hasScheme : Bool) : List Char → Prop
  | free {part : List Char} (unrooted : part.head? ≠ some '/') (scheme : hasScheme = true) :
      IsHierarchy hasScheme part
  | relative {part segment behind : List Char} (unrooted : part.head? ≠ some '/')
      (schemeless : hasScheme = false) (first : Parted '/' part segment behind)
      (noColon : ':' ∉ segment) (escapes : EscapesAre IsEscape part) :
      IsHierarchy hasScheme part
  | authority {authority path : List Char} (slashless : '/' ∉ authority)
      (pathBegins : path = [] ∨ path.head? = some '/')
      (begins : BeginsAuthority hasScheme (authority ++ path))
      (isAuthority : IsAuthority authority) (escapes : EscapesAre IsEscape path) :
      IsHierarchy hasScheme ('/' :: '/' :: (authority ++ path))
  | rooted {rest : List Char}
      (without : ∀ behind, rest = '/' :: behind → ¬ BeginsAuthority hasScheme behind)
      (escapes : EscapesAre IsEscape ('/' :: rest)) : IsHierarchy hasScheme ('/' :: rest)

/-- What stands before the fragment of a URI. -/
inductive IsFront : List Char → Prop
  | parts {text rest part query : List Char} {hasScheme : Bool}
      (uncontrolled : ∀ character ∈ text, ¬ IsControl character)
      (noColon : text.head? ≠ some ':') (schemed : Schemed text hasScheme rest)
      (queried : Parted '?' rest part query) (hierarchy : IsHierarchy hasScheme part) :
      IsFront text

/-- A whole URI. -/
inductive Grammatical : List Char → Prop
  | parts {uri front fragment : List Char} (parted : Parted '#' uri front fragment)
      (isFront : IsFront front) (escapes : EscapesAre IsEscape fragment) : Grammatical uri

theorem Schemed.mem {text rest : List Char} {hasScheme : Bool}
    (schemed : Schemed text hasScheme rest) {character : Char} (member : character ∈ rest) :
    character ∈ text := by
  cases schemed with
  | present isScheme => simp [member]
  | absent without => exact member

section Escapes

variable {escape : Char → Char → Prop}

@[simp]
theorem not_beginsEscape_nil : ¬ BeginsEscape escape [] := by
  rintro ⟨⟩

@[simp]
theorem not_beginsEscape_singleton (character : Char) : ¬ BeginsEscape escape [character] := by
  rintro ⟨⟩

@[simp]
theorem beginsEscape_cons_cons_iff (high low : Char) (rest : List Char) :
    BeginsEscape escape (high :: low :: rest) ↔ escape high low := by
  refine ⟨?_, .two⟩
  rintro ⟨allowed⟩
  exact allowed

theorem escapesAre_nil : EscapesAre escape [] := by
  intro before behind split
  simp at split

theorem escapesAre_cons_iff (character : Char) (rest : List Char) :
    EscapesAre escape (character :: rest) ↔
      (character = '%' → BeginsEscape escape rest) ∧ EscapesAre escape rest := by
  constructor
  · intro escapes
    refine ⟨?_, fun before behind split => ?_⟩
    · rintro rfl
      exact escapes [] rest rfl
    · exact escapes (character :: before) behind (by rw [split, List.cons_append])
  · rintro ⟨first, others⟩ before behind split
    cases before with
    | nil =>
        obtain ⟨rfl, rfl⟩ := List.cons.inj split
        exact first rfl
    | cons head before =>
        obtain ⟨-, split⟩ := List.cons.inj split
        exact others before behind split

end Escapes

end RelayPool.Uri
