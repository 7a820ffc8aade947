import LiveShader.Text.Decimal
import LiveShader.Url.Percent

/-! URLs in their normal form, and writing them. -/

namespace LiveShader

namespace Url

/-- The schemes whose hosts are domain names or addresses, and `file`. -/
inductive SchemeKind where
  | special
  | file
  | plain
  deriving DecidableEq, Repr

/-- The default ports of the special schemes. -/
def defaultPorts : List (List Char × Nat) :=
  [("http".toList, 80), ("https".toList, 443), ("ws".toList, 80), ("wss".toList, 443),
   ("ftp".toList, 21)]

def SchemeKind.ofScheme (scheme : List Char) : SchemeKind :=
  if scheme = "file".toList then .file
  else if (defaultPorts.lookup scheme).isSome then .special
  else .plain

/-- The part behind two slashes. All of it is escaped as it is written. -/
structure Authority where
  /-- The user and the password with the sign at their end, or nothing. -/
  userinfo : List Char
  host : List Char
  /-- The port, unless it is the scheme's default. -/
  port : Option Nat
  deriving DecidableEq, Repr

/-- A path that other paths can be added to, or a text without structure. -/
inductive Path where
  | segments (segments : List (List Char))
  | opaqueText (text : List Char)
  deriving DecidableEq, Repr

end Url

structure Url where
  scheme : List Char
  authority : Option Url.Authority
  /-- Whether a dot stands before the path. It keeps a path with an empty first segment
  from being read as an authority, and stays where it is when the path changes. -/
  isDotted : Bool
  path : Url.Path
  query : Option (List Char)
  fragment : Option (List Char)
  deriving DecidableEq, Repr

namespace Url

def Authority.text (authority : Authority) : List Char :=
  authority.userinfo ++ authority.host ++
    match authority.port with
    | some port => ':' :: Text.decimal port
    | none => []

def segmentsText (segments : List (List Char)) : List Char :=
  segments.flatMap ('/' :: ·)

/-- Whether a path without an authority would be read as one. -/
def needsDot : Path → Bool
  | .segments segments => segments.head? = some [] && 1 < segments.length
  | .opaqueText _ => false

def Path.text : Path → List Char
  | .segments names => segmentsText names
  | .opaqueText text => text

def text (url : Url) : List Char :=
  url.scheme ++ [':'] ++
    (match url.authority with
    | some authority => "//".toList ++ authority.text
    | none => []) ++
    (if url.isDotted then "/.".toList else []) ++ url.path.text ++
    (match url.query with
    | some query => '?' :: query
    | none => []) ++
    match url.fragment with
    | some fragment => '#' :: fragment
    | none => []

/-- The path and the query, as a request line names them. -/
def requestTarget (url : Url) : List Char :=
  url.path.text ++
    match url.query with
    | some query => '?' :: query
    | none => []

/-- Whether paths can be added to the URL. -/
def isBase (url : Url) : Bool :=
  match url.path with
  | .segments _ => true
  | .opaqueText _ => false

/-- Removes one empty segment at the end, unless it is the whole path. -/
def popIfEmpty : List (List Char) → List (List Char)
  | [segment] => [segment]
  | segments => if segments.getLast? = some [] then segments.dropLast else segments

/-- Adds a segment at the end. It takes the place of an empty path. -/
def pushSegment (name : List Char) : List (List Char) → List (List Char)
  | [[]] => [name]
  | segments => segments ++ [name]

/-- The URL of a resource directly below this one. -/
def child (url : Url) (name : List Char) : Url :=
  match url.path with
  | .segments segments =>
      { url with path := .segments (pushSegment name (popIfEmpty segments)) }
  | .opaqueText _ => url

end Url

end LiveShader
