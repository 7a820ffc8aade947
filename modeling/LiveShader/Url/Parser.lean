import LiveShader.Text.Search
import LiveShader.Url.Basic
import LiveShader.Url.Host

/-! Reading URLs, as browsers do: blanks around them and line breaks within them
are left out, dots in paths are resolved, and every part is escaped anew. -/

namespace LiveShader.Url

/-! ## Characters that are left out -/

/-- Whether a character is left out at the ends of a URL. -/
def isOuterBlank (character : Char) : Bool :=
  character.toNat ≤ 0x20

/-- Whether a character is left out everywhere. -/
def isInnerBlank (character : Char) : Bool :=
  character == '\t' || character == '\n' || character == '\r'

def trimOuter (text : List Char) : List Char :=
  ((text.dropWhile isOuterBlank).reverse.dropWhile isOuterBlank).reverse

def dropInner (text : List Char) : List Char :=
  text.filter fun character => !isInnerBlank character

/-- The first character that is not left out, and what follows it. -/
def next? (text : List Char) : Option (Char × List Char) :=
  match text.dropWhile isInnerBlank with
  | [] => none
  | character :: rest => some (character, rest)

/-- What follows a character that a text starts with. -/
def skip? (expected : Char → Bool) (text : List Char) : Option (List Char) :=
  match next? text with
  | some (character, rest) => if expected character then some rest else none
  | none => none

/-! ## Scheme -/

def isSchemeCharacter (character : Char) : Bool :=
  character.isAlphanum || character == '+' || character == '-' || character == '.'

/-- The scheme in lower case, and what follows its colon. -/
def readScheme? (text : List Char) : Option (List Char × List Char) :=
  let isInside (character : Char) : Bool :=
    isSchemeCharacter character || isInnerBlank character
  match dropInner (text.takeWhile isInside), text.dropWhile isInside with
  | first :: scheme, ':' :: rest =>
      if first.isAlpha then some ((first :: scheme).map Char.toLower, rest) else none
  | _, _ => none

/-! ## Authority -/

/-- Whether a character ends the authority. -/
def endsAuthority (kind : SchemeKind) (character : Char) : Bool :=
  character == '/' || character == '?' || character == '#' ||
    (character == '\\' && kind != .plain)

/-- What stands before and after the last at sign. -/
def splitLastAt? (text : List Char) : Option (List Char × List Char) :=
  (Text.splitAtFirst? (· == '@') text.reverse).map fun (after, before) =>
    (before.reverse, after.reverse)

/-- The user and the password as written, with the sign at their end. An empty
password is left out with its colon. -/
def writeUserinfo (text : List Char) : List Char :=
  match Text.splitAtFirst? (· == ':') text with
  | none => if text.isEmpty then [] else encode escapesUserinfo text ++ ['@']
  | some (user, password) =>
      let user := encode escapesUserinfo user
      if password.isEmpty then
        if user.isEmpty then [] else user ++ ['@']
      else
        user ++ [':'] ++ encode escapesUserinfo password ++ ['@']

/-- The host and what follows it up to the end of the authority. A colon inside
brackets belongs to the host. -/
def splitHost (isInside : Bool) : List Char → List Char × List Char
  | [] => ([], [])
  | character :: rest =>
      if character = ':' ∧ !isInside then
        ([], character :: rest)
      else
        let isInside :=
          if character = '[' then true else if character = ']' then false else isInside
        let (host, rest) := splitHost isInside rest
        (character :: host, rest)

/-- The port behind a colon. None at all stands for the default. -/
def readPort? (scheme digits : List Char) : Option (Option Nat) :=
  if digits.isEmpty then
    some none
  else if digits.all Char.isDigit then
    let port := Text.digitsValue 0 digits
    if 65535 < port then none
    else if defaultPorts.lookup scheme = some port then some none
    else some (some port)
  else
    none

/-- Reads the authority of a scheme other than `file`, and what follows its port. The
authority is the last part of a URL if `isLast` holds. -/
def readAuthority? (scheme : List Char) (kind : SchemeKind) ( isLast : Bool)
    (text : List Char) : Option (Authority × List Char) := do
  let (userinfo, hostAndPort) ←
    match splitLastAt? text with
    | some ([], []) => if isLast then some ([], []) else none
    | some parts => some parts
    | none => some ([], text)
  let userinfo := writeUserinfo userinfo
  let (host, portText) := splitHost false hostAndPort
  let (digits, rest) := portText.tail.span (· != '\\')
  let port ← readPort? scheme digits
  if host.isEmpty then
    if kind = .special ∨ !portText.isEmpty ∨ !userinfo.isEmpty then none
    else some ({ userinfo, host, port }, rest)
  else
    let host ← if kind = .special then readDomainHost? host else readOpaqueHost? host
    some ({ userinfo, host, port }, rest)

/-! ## Path -/

/-- The ways to write a segment that stands for its parent. -/
def isDoubleDot (segment : List Char) : Bool :=
  let folded := segment.map Char.toLower
  ["..".toList, ".%2e".toList, "%2e.".toList, "%2e%2e".toList].contains folded

/-- The ways to write a segment that stands for itself. -/
def isSingleDot (segment : List Char) : Bool :=
  let folded := segment.map Char.toLower
  [".".toList, "%2e".toList].contains folded

/-- A drive letter with its colon or bar. -/
def isDriveLetter : List Char → Bool
  | [letter, mark] => letter.isAlpha && (mark == ':' || mark == '|')
  | _ => false

/-- Whether a segment starts with a drive letter that nothing or a backslash follows. -/
def isDrive (segment : List Char) : Bool :=
  isDriveLetter (segment.take 2) && (segment.drop 2).head?.all (· == '\\')

/-- The segments of a path that is read. -/
structure Trail where
  segments : List (List Char) := []
  /-- Whether the path turned out to start with a drive. -/
  startsWithDrive : Bool := false
  deriving DecidableEq, Repr

/-- Removes the last segment, but not a drive. -/
def Trail.shorten (trail : Trail) : Trail :=
  if trail.segments.getLast?.any isDrive then trail
  else { trail with segments := trail.segments.dropLast }

/-- Whether a character that is left out stands behind a drive letter and its colon. -/
def isDriveCutOff (raw : List Char) : Bool :=
  ((raw.dropWhile (· != ':')).drop 1).head?.any isInnerBlank

/-- The parts of a segment that starts with a drive letter which is cut off from the
rest. -/
def cutDrive? (raw : List Char) : Option (List (List Char)) :=
  match dropInner raw with
  | letter :: ':' :: next :: rest =>
      if letter.isAlpha && isDriveCutOff raw then some [[letter, ':'], next :: rest] else none
  | _ => none

/-- Adds a segment that stands for no other. At its start, the path of a file may name
a drive. -/
def Trail.push (trail : Trail) (kind : SchemeKind) (segment : List Char) : Trail :=
  match segment with
  | letter :: _ =>
      if kind = .file ∧ trail.segments = [] ∧ isDriveLetter segment then
        { segments := [[letter, ':']], startsWithDrive := true }
      else
        { trail with segments := trail.segments ++ [encode escapesPath segment] }
  | [] => { trail with segments := trail.segments ++ [[]] }

/-- Adds one segment to the path. The last one of a path ends it even when it stands
for another. -/
def Trail.add (trail : Trail) (kind : SchemeKind) (raw : List Char) ( isLast : Bool) :
    Trail :=
  let end? (trail : Trail) : Trail :=
    if isLast then { trail with segments := trail.segments ++ [[]] } else trail
  let segment := dropInner raw
  match if kind = .file ∧ trail.segments = [] then cutDrive? raw else none with
  | some parts => { trail with segments := parts.map (encode escapesPath) }
  | none =>
      if isDoubleDot segment then end? trail.shorten
      else if isSingleDot segment then end? trail
      else trail.push kind segment

def Trail.addAll (trail : Trail) (kind : SchemeKind) : List (List Char) → Trail
  | [] => trail
  | [raw] => trail.add kind raw true
  | raw :: rest => (trail.add kind raw false).addAll kind rest

/-- Whether a character separates segments. -/
def isSeparator (kind : SchemeKind) (character : Char) : Bool :=
  character == '/' || (character == '\\' && kind != .plain)

/-- The path behind its first slash. The path of a file has no empty segments at its
start. -/
def readTrail (kind : SchemeKind) (text : List Char) : Trail :=
  let trail := Trail.addAll {} kind (text.splitOnP (isSeparator kind))
  match kind with
  | .file =>
      let trimmed := trail.segments.dropWhile List.isEmpty
      { trail with segments := if trimmed.isEmpty then [[]] else trimmed }
  | _ => trail

/-- The path behind an authority. -/
def readTrailAfterAuthority (kind : SchemeKind) (text : List Char) : Trail :=
  match kind, next? text with
  | .plain, none => {}
  | _, none => { segments := [[]] }
  | _, some (first, rest) => readTrail kind (if isSeparator kind first then rest else text)

/-! ## Whole URLs -/

/-- What stands before a mark, and what stands behind it, if it occurs. -/
def cutAt (mark : Char) (text : List Char) : List Char × Option (List Char) :=
  match Text.splitAtFirst? (· == mark) text with
  | some (before, after) => (before, some after)
  | none => (text, none)

/-- The authority and the path of a URL with a host. Nothing follows the path if
`isLast` holds. -/
def readHierarchy? (scheme : List Char) (kind : SchemeKind) ( isLast : Bool)
    (text : List Char) : Option (Option Authority × Path) := do
  let (authority, path) := text.span fun character => !endsAuthority kind character
  let (authority, rest) ← readAuthority? scheme kind (isLast && path.isEmpty) (dropInner authority)
  some (some authority, .segments (readTrailAfterAuthority kind (rest ++ path)).segments)

/-- An authority with nothing but a host. -/
def hostOnly (host : List Char) : Option Authority :=
  some { userinfo := [], host, port := none }

/-- A file without a host. -/
def noHost (path : List Char) : Option Authority × Path :=
  (hostOnly [], .segments (readTrail .file path).segments)

/-- The authority and the path of a file behind two slashes. The host is left out when
it is this machine or in fact a drive, and when the path starts with a drive. -/
def readFileHost? (text : List Char) : Option (Option Authority × Path) :=
  let (before, path) := text.span fun character => !isSeparator .file character
  let host := dropInner before
  if isDriveLetter host || host.isEmpty then
    some (noHost text)
  else do
    let host ← readDomainHost? host
    if host = "localhost".toList then
      some (noHost path)
    else
      let trail := readTrailAfterAuthority .file path
      some (hostOnly (if trail.startsWithDrive then [] else host), .segments trail.segments)

/-- The authority and the path of a file. -/
def readFile? (text : List Char) : Option (Option Authority × Path) :=
  match skip? (isSeparator .file) text with
  | none => some (noHost text)
  | some path =>
      match skip? (isSeparator .file) path with
      | some rest => readFileHost? rest
      | none => some (noHost path)

/-- The authority and the path behind a scheme. -/
def readBody? (scheme : List Char) ( isLast : Bool) (text : List Char) :
    Option (Option Authority × Path) :=
  match SchemeKind.ofScheme scheme with
  | .special =>
      readHierarchy? scheme .special isLast <|
        text.dropWhile fun character => isSeparator .special character || isInnerBlank character
  | .file => readFile? text
  | .plain =>
      match skip? (· == '/') text with
      | none => some (none, .opaqueText (encode escapesControl (dropInner text)))
      | some path =>
          match skip? (· == '/') path with
          | some rest => readHierarchy? scheme .plain isLast rest
          | none => some (none, .segments (readTrail .plain path).segments)

/-- Reads an absolute URL. -/
def parse? (text : List Char) : Option Url := do
  let (scheme, rest) ← readScheme? (trimOuter text)
  let (rest, fragment) := cutAt '#' rest
  let (body, query) := cutAt '?' rest
  let (authority, path) ← readBody? scheme (query.isNone && fragment.isNone) body
  let escapes :=
    if SchemeKind.ofScheme scheme = .plain then escapesQuery else escapesSpecialQuery
  some {
    scheme
    authority
    isDotted := authority.isNone && needsDot path
    path
    query := query.map fun query => encode escapes (dropInner query)
    fragment := fragment.map fun fragment => encode escapesFragment (dropInner fragment) }

end LiveShader.Url
