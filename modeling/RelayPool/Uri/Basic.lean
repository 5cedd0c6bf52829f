import RelayPool.Text.Half
import RelayPool.Text.Quoted
import RelayPool.Text.Utf8
import RelayPool.Uri.Percent

/-!
# Node URIs

The structural checks on a node URI and the fragment behind its `#`.  A URI
passes when it holds no control character before the fragment, its scheme and
authority are well formed, and every `%` begins an escape.  The node's own
name is its fragment, read once more as a query component when that succeeds.
-/

namespace RelayPool.Uri

/-- Why a URI is refused. -/
inductive Fault
  | controlCharacter
  | missingScheme
  | colonInFirstSegment
  | userinfo
  | missingBracket
  | port (written : String)
  | hostEscape
  | hostCharacter (character : Char)
  | escape
  | halves (run : Text.HalfRun)
  deriving DecidableEq, Repr

/-- The sentence that reports a fault. -/
def Fault.message : Fault → String
  | .controlCharacter => "invalid control character in URI"
  | .missingScheme => "missing scheme"
  | .colonInFirstSegment => "first path segment cannot contain colon"
  | .userinfo => "invalid userinfo"
  | .missingBracket => "missing ']' in host"
  | .port written => "invalid port " ++ Text.quoted written
  | .hostEscape => "invalid escape in host"
  | .hostCharacter character =>
      "invalid character " ++ Text.quoted (String.singleton character) ++ " in host"
  | .escape => "invalid percent escape"
  | .halves run => run.message

/-- An ASCII letter. -/
def isLetter (character : Char) : Bool :=
  ('a' ≤ character && character ≤ 'z') || ('A' ≤ character && character ≤ 'Z')

/-- An ASCII digit. -/
def isDigit (character : Char) : Bool :=
  '0' ≤ character && character ≤ '9'

/-- A control character of ASCII. -/
def isControl (character : Char) : Bool :=
  character.toNat < 0x20 || character.toNat == 0x7F

/-- A character of a scheme after its first, which is a letter. -/
def isSchemeChar (character : Char) : Bool :=
  isLetter character || isDigit character || "+-.".toList.contains character

/-- A character of the user information before the `@` of an authority. -/
def isUserinfoChar (character : Char) : Bool :=
  isLetter character || isDigit character ||
    "-._:~!$&'()*+,;=%@".toList.contains character

/-- A character of a host: any beyond ASCII, and in ASCII the letters, the
digits, `%` and some punctuation. -/
def isHostChar (character : Char) : Bool :=
  0x7F < character.toNat || isLetter character || isDigit character ||
    "-._~!$&'()*+,;=:[]<>\"%".toList.contains character

/-- The parts before and after the first `mark`; the second is empty when
there is none. -/
def cutFirst (mark : Char) (text : List Char) : List Char × List Char :=
  (text.takeWhile (· ≠ mark), (text.dropWhile (· ≠ mark)).drop 1)

/-- The parts before and after the last `mark`, if there is one. -/
def cutLast? (mark : Char) (text : List Char) : Option (List Char × List Char) :=
  if text.contains mark then
    let backwards := cutFirst mark text.reverse
    some (backwards.2.reverse, backwards.1.reverse)
  else none

/-- The scheme before the first `:` and the text after it.  A text has no
scheme when it does not begin with a letter or the characters before its
first other character are not followed by `:`. -/
def splitScheme (text : List Char) : Except Fault (Option (List Char) × List Char) :=
  match text with
  | ':' :: _ => .error .missingScheme
  | first :: _ =>
      if isLetter first then
        match text.dropWhile isSchemeChar with
        | ':' :: rest => .ok (some (text.takeWhile isSchemeChar), rest)
        | _ => .ok (none, text)
      else .ok (none, text)
  | [] => .ok (none, [])

/-- The bytes of a text whose escapes are well formed and that has an
encoding. -/
def unescape (text : List Char) : Except Fault (List UInt8) :=
  if !Percent.wellFormed text then .error .escape
  else
    match Text.refusedHalves? Text.isHalf 0 text with
    | some run => .error (.halves run)
    | none => .ok (Percent.decode (Text.Utf8.encode text))

/-- A port with its colon, or nothing. -/
def isPort : List Char → Bool
  | [] => true
  | first :: digits => first == ':' && digits.all isDigit

/-- Every `%` of a host begins an escape, either of `%` itself or of a byte
beyond ASCII. -/
def hostEscapesValid : List Char → Bool
  | [] => true
  | '%' :: rest =>
      (match rest with
      | high :: low :: _ =>
          match Text.hexValue? high, Text.hexValue? low with
          | some first, some _ => 8 ≤ first || (high == '2' && low == '5')
          | _, _ => false
      | _ => false) && hostEscapesValid rest
  | _ :: rest => hostEscapesValid rest

/-- The host and the port part of an authority behind its user information.
A bracketed host ends at the last `]`; any other host is checked together
with its port. -/
def splitPort (host : List Char) : Except Fault (List Char × List Char) :=
  match host with
  | '[' :: _ =>
      match cutLast? ']' host with
      | none => .error .missingBracket
      | some (bracketed, port) => .ok (bracketed.drop 1, port)
  | _ =>
      match cutLast? ':' host with
      | none => .ok (host, [])
      | some (_, port) => .ok (host, ':' :: port)

/-- The checks on the user information of an authority. -/
def checkUserinfo (userinfo : List Char) : Except Fault Unit :=
  if userinfo.all isUserinfoChar then (unescape userinfo).map fun _ => ()
  else .error .userinfo

/-- The checks on the host and port of an authority. -/
def checkHost (written : List Char) : Except Fault Unit := do
  let (host, port) ← splitPort written
  if !isPort port then
    throw (.port (String.ofList port))
  if !hostEscapesValid host then
    throw .hostEscape
  match host.find? fun character => !isHostChar character with
  | some character => throw (.hostCharacter character)
  | none => return ()

/-- The checks on an authority: user information up to the last `@`, then a
host with an optional port. -/
def checkAuthority (authority : List Char) : Except Fault Unit :=
  match cutLast? '@' authority with
  | some (userinfo, host) => do
      checkUserinfo userinfo
      checkHost host
  | none => checkHost authority

/-- The checks on the part between the scheme and the query.  A part behind a
scheme that does not begin with `/` is opaque. -/
def checkHierarchy (hasScheme : Bool) (part : List Char) : Except Fault Unit := do
  match part with
  | '/' :: rest =>
      let path ←
        match rest with
        | '/' :: behind =>
            if hasScheme || behind.head? != some '/' then do
              checkAuthority (behind.takeWhile (· ≠ '/'))
              pure (behind.dropWhile (· ≠ '/'))
            else pure part
        | _ => pure part
      discard (unescape path)
  | _ =>
      if hasScheme then return ()
      if (part.takeWhile (· ≠ '/')).contains ':' then
        throw .colonInFirstSegment
      discard (unescape part)

/-- The checks on everything before the fragment. -/
def check (text : List Char) : Except Fault Unit := do
  if text.any isControl then
    throw .controlCharacter
  let (scheme, rest) ← splitScheme text
  checkHierarchy scheme.isSome (rest.takeWhile (· ≠ '?'))

/-- The unescaped fragment of a URI that passes every check. -/
def fragment (uri : String) : Except Fault (List UInt8) := do
  let (text, written) := cutFirst '#' uri.toList
  check text
  unescape written

/-- The text of an unescaped fragment: it is read as a query component, or
taken as it is when its escapes are not well formed. -/
def label (bytes : List UInt8) : String :=
  String.ofList
    (Text.Utf8.decodeLenient
      (if Percent.wellFormedBytes bytes then Percent.decodeQuery bytes else bytes))

/-- The name that a URI carries in its fragment; empty when the URI is refused
or has no fragment. -/
def name (uri : String) : String :=
  match fragment uri with
  | .ok bytes => label bytes
  | .error _ => ""

end RelayPool.Uri
