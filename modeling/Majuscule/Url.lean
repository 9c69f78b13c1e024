import Majuscule.Url.Host

/-!
# URLs in normal form

Documents are named by URLs. A `Url` is its normalised text, so two spellings of one URL are equal
after parsing. `Parts` is the structure behind the text: scheme, authority, path, query and
fragment, and `Parts.text` writes them.

`Url.parse` reads an absolute URL. Blanks and control characters around the text and tabs and line
breaks inside it do not count. Schemes are of three kinds. The web schemes always have a host, take
any number of slashes before it and read a backslash as a slash; `file` has a host or none and knows
drive letters; all others keep what follows as it is unless it starts with a slash. Dot segments of
a path are resolved.
-/

namespace Majuscule

/-- A URL, by its normalised text. -/
structure Url where
  text : String
  deriving DecidableEq, Repr, Inhabited

namespace Url

/-! ## Parts and their text -/

/-- What stands between the double slash and the path. -/
structure Authority where
  /-- User name and password, encoded, with a colon between them if there is a password. -/
  userinfo : String
  host : String
  port : Option Nat
  deriving DecidableEq, Repr

/-- A path is a list of segments, or a text that is not divided at all. -/
inductive Path where
  | bare (text : String)
  | segments (list : List String)
  deriving DecidableEq, Repr

/-- The structure of a URL. -/
structure Parts where
  scheme : String
  authority : Option Authority
  path : Path
  query : Option String
  fragment : Option String
  deriving DecidableEq, Repr

def Authority.text (a : Authority) : String :=
  let user := if a.userinfo.isEmpty then "" else a.userinfo ++ "@"
  let port := match a.port with
    | some n => ":" ++ toString n
    | none => ""
  user ++ a.host ++ port

/-- Each segment after a slash. -/
def segmentsText : List String → String
  | [] => ""
  | s :: rest => "/" ++ s ++ segmentsText rest

/--
The text of a path. Without an authority a path that starts with an empty segment gets a dot segment
in front, since a double slash would start an authority.
-/
def Path.text (hasAuthority : Bool) : Path → String
  | bare text => text
  | segments list =>
    let guarded := match list with
      | "" :: _ :: _ => !hasAuthority
      | _ => false
    if guarded then "/." ++ segmentsText list else segmentsText list

/-- The text of a URL. -/
def Parts.text (p : Parts) : String :=
  let authority := match p.authority with
    | some a => "//" ++ a.text
    | none => ""
  let query := match p.query with
    | some q => "?" ++ q
    | none => ""
  let fragment := match p.fragment with
    | some f => "#" ++ f
    | none => ""
  p.scheme ++ ":" ++ authority ++ p.path.text p.authority.isSome ++ query ++ fragment

/-! ## Schemes -/

/-- The three kinds of scheme. -/
inductive Kind where
  | web
  | file
  | other
  deriving DecidableEq, Repr

def Kind.ofScheme (scheme : String) : Kind :=
  if scheme = "file" then file
  else if ["http", "https", "ws", "wss", "ftp"].contains scheme then web
  else other

/-- Web schemes and `file` are special. -/
def Kind.isSpecial : Kind → Bool
  | other => false
  | _ => true

/-- The port that a scheme has without saying so. -/
def defaultPort? (scheme : String) : Option Nat :=
  if scheme = "http" || scheme = "ws" then some 80
  else if scheme = "https" || scheme = "wss" then some 443
  else if scheme = "ftp" then some 21
  else none

/-- What does not count inside a URL. -/
def isIgnored (c : Char) : Bool :=
  c = '\t' || c = '\n' || c = '\r'

/-- What does not count at either end of a URL. -/
def isMargin (c : Char) : Bool :=
  c.toNat ≤ 0x20

/-- The text without what does not count. -/
def significant (cs : List Char) : List Char :=
  (((cs.dropWhile isMargin).reverse.dropWhile isMargin).reverse).filter fun c => !isIgnored c

def isSchemeChar (c : Char) : Bool :=
  c.isAlphanum || c = '+' || c = '-' || c = '.'

/-- The scheme, in lower case, and what follows its colon. -/
def scheme? (cs : List Char) : Option (String × List Char) :=
  match cs.head?, cs.dropWhile isSchemeChar with
  | some first, ':' :: rest =>
    if first.isAlpha then
      some (String.ofList ((cs.takeWhile isSchemeChar).map Char.toLower), rest)
    else none
  | _, _ => none

/-! ## Paths -/

/-- Whether a slash, or in a special URL a backslash. -/
def isSlash (special : Bool) (c : Char) : Bool :=
  c = '/' || (special && c = '\\')

/-- Where a path ends. -/
def endsPath (c : Char) : Bool :=
  c = '?' || c = '#'

/-- Where an authority ends. -/
def endsAuthority (special : Bool) (c : Char) : Bool :=
  isSlash special c || endsPath c

/-- One dot, spelled or encoded. -/
def isSingleDot (s : String) : Bool :=
  ["." , "%2e", "%2E"].contains s

/-- Two dots, each spelled or encoded. -/
def isDoubleDot (s : String) : Bool :=
  ["..", "%2e.", "%2E.", ".%2e", ".%2E", "%2e%2e", "%2e%2E", "%2E%2e", "%2E%2E"].contains s

/-- A letter and a colon, or a vertical bar that stands for one. -/
def isDriveLetter (cs : List Char) : Bool :=
  match cs with
  | [letter, mark] => letter.isAlpha && (mark = ':' || mark = '|')
  | _ => false

/-- A drive letter with its colon. -/
def normalDriveLetter (s : String) : String :=
  String.ofList (s.toList.take 1 ++ [':'])

/-- Drop the last segment, but keep a drive letter. The segments are listed from
the last to the first. -/
def shorten : List String → List String
  | [] => []
  | last :: rest => if isDriveLetter last.toList then last :: rest else rest

/--
Resolve the dot segments of a path. `done` holds the segments so far, the last one first. A dot
segment at the end leaves an empty segment behind. Where the path may name a drive, a drive letter
as the first segment gets its colon.
-/
def resolve (drives : Bool) (done : List String) : List String → List String
  | [] => done.reverse
  | s :: rest =>
    if isDoubleDot s then
      let done := shorten done
      resolve drives (if rest.isEmpty then "" :: done else done) rest
    else if isSingleDot s then
      resolve drives (if rest.isEmpty then "" :: done else done) rest
    else if drives && done.isEmpty && isDriveLetter s.toList then
      resolve drives (normalDriveLetter s :: done) rest
    else resolve drives (s :: done) rest

/-- The encoded segments of a text that starts after a slash. -/
def splitPath (special : Bool) (cs : List Char) : List String :=
  (Text.pieces (isSlash special) cs).map fun s => String.ofList (Percent.encode Percent.path s)

/-- What follows the slash at the front, if there is one. -/
def dropSlash (special : Bool) (cs : List Char) : List Char :=
  match cs with
  | c :: rest => if isSlash special c then rest else cs
  | [] => []

/-- The path of a web URL: its first slash may be missing. -/
def webPath (cs : List Char) : Path :=
  .segments (resolve false [] (splitPath true (dropSlash true cs)))

/-- The path after the authority of a URL without special scheme. -/
def otherPath (cs : List Char) : Path :=
  match cs with
  | [] => .segments []
  | _ => .segments (resolve false [] (splitPath false (dropSlash false cs)))

/-- The segments of a `file` URL. -/
def fileSegments (cs : List Char) : List String :=
  resolve true [] (splitPath true cs)

/-- Whether a path names a drive. -/
def namesDrive (segments : List String) : Bool :=
  segments.head?.any fun s => isDriveLetter s.toList

/-- Leave out the empty segments at the front; the path itself stays. -/
def dropEmpty (segments : List String) : List String :=
  match segments.dropWhile String.isEmpty with
  | [] => [""]
  | rest => rest

/-! ## Authorities -/

/-- What ends a port. -/
def endsPort (c : Char) : Bool :=
  c = '/' || c = '\\' || endsPath c

/-- The port after a colon, and what follows it. The scheme's own port is left out. -/
def port (scheme : String) (cs : List Char) : Except ParseError (Option Nat × List Char) :=
  let digits := cs.takeWhile Char.isDigit
  let rest := cs.dropWhile Char.isDigit
  let n := Number.ofDigits digits
  if 65535 < n || rest.head?.any (fun c => !endsPort c) then .error .invalidPort
  else if digits.isEmpty || defaultPort? scheme = some n then .ok (none, rest)
  else .ok (some n, rest)

/-- What stands before the last `@`, if there is one, and what follows it. -/
def splitUser (cs : List Char) : Option (List Char × List Char) :=
  if cs.contains '@' then
    let back := cs.reverse
    some ((back.dropWhile (· ≠ '@')).reverse.dropLast, (back.takeWhile (· ≠ '@')).reverse)
  else none

/-- User name and password, encoded; a colon without password is dropped. -/
def userinfo (cs : List Char) : String :=
  let user := cs.takeWhile (· ≠ ':')
  let password := (cs.dropWhile (· ≠ ':')).drop 1
  let encoded := Percent.encode Percent.userinfo user
  if password.isEmpty then String.ofList encoded
  else String.ofList (encoded ++ ':' :: Percent.encode Percent.userinfo password)

/-- Cut host and port: at the first colon that is not inside brackets. -/
def splitPort (inside : Bool) : List Char → List Char × Option (List Char)
  | [] => ([], none)
  | c :: cs =>
    if c = ':' && !inside then ([], some cs)
    else
      let inside := if c = '[' then true else if c = ']' then false else inside
      let (host, port) := splitPort inside cs
      (c :: host, port)

/--
The authority of a URL that is not a `file` URL, given the text up to the path and whether the URL
ends there; and what the port leaves of that text. An `@` with nothing before it needs something
after it, unless the URL ends with it; after a user name or a password there has to be a host.
-/
def authority (scheme : String) (special atEnd : Bool) (cs : List Char) :
    Except ParseError (Authority × List Char) := do
  if cs = ['@'] && !atEnd then throw .emptyHost
  let (user, hostport) := (splitUser cs).getD ([], cs)
  let (hostText, portText) := splitPort false hostport
  if hostText.isEmpty && (special || portText.isSome) then throw .emptyHost
  let host ← if special then Host.domain hostText else Host.bare hostText
  let (port, rest) ← match portText with
    | some digits => port scheme digits
    | none => pure (none, [])
  let userinfo := userinfo user
  if hostText.isEmpty && !userinfo.isEmpty then throw .emptyHost
  return (⟨userinfo, host, port⟩, rest)

/-- The host of a `file` URL; none for the local one. -/
def fileHost? (cs : List Char) : Except ParseError (Option String) := do
  if cs.isEmpty then return none
  let host ← Host.domain cs
  return if host = "localhost" then none else some host

/-! ## Whole URLs -/

/-- The query and the fragment at the end of a URL, given the text from their first mark on. -/
def tail (special : Bool) (cs : List Char) : Option String × Option String :=
  let query := match cs with
    | '?' :: rest =>
      some (String.ofList (Percent.encode (Percent.query special) (rest.takeWhile (· ≠ '#'))))
    | _ => none
  let fragment := match cs.dropWhile (· ≠ '#') with
    | '#' :: rest => some (String.ofList (Percent.encode Percent.fragment rest))
    | _ => none
  (query, fragment)

/-- What follows the double slash, divided into the authority and the rest. -/
def splitAuthority (special : Bool) (cs : List Char) : List Char × List Char :=
  (cs.takeWhile fun c => !endsAuthority special c, cs.dropWhile fun c => !endsAuthority special c)

/-- An authority with a host alone. -/
def Authority.ofHost (host : String) : Authority := ⟨"", host, none⟩

/--
Authority and path of a `file` URL, given what follows the colon and stands before query and
fragment. A drive letter is not a host, and a path that names a drive has none.
-/
def fileBody (cs : List Char) : Except ParseError (Authority × Path) := do
  let (host, segments) ← match cs with
    | a :: b :: rest =>
      if isSlash true a && isSlash true b then
        let (front, path) := splitAuthority true rest
        if isDriveLetter front then pure ("", fileSegments rest)
        else
          match ← fileHost? front with
          | none => pure ("", fileSegments path)
          | some host => pure (host, fileSegments (dropSlash true path))
      else pure ("", fileSegments (dropSlash true cs))
    | _ => pure ("", fileSegments (dropSlash true cs))
  return (.ofHost (if namesDrive segments then "" else host), .segments (dropEmpty segments))

/--
Authority and path of any URL, given what follows the colon and stands before query and fragment,
and whether there is neither of these two.
-/
def body (scheme : String) (atEnd : Bool) (cs : List Char) :
    Except ParseError (Option Authority × Path) :=
  match Kind.ofScheme scheme with
  | .file => (fileBody cs).map fun (authority, path) => (some authority, path)
  | .web =>
    let (front, path) := splitAuthority true (cs.dropWhile (isSlash true))
    (authority scheme true (atEnd && path.isEmpty) front).map fun (a, rest) =>
      (some a, webPath (rest ++ path))
  | .other =>
    match cs with
    | '/' :: '/' :: after =>
      let (front, path) := splitAuthority false after
      (authority scheme false (atEnd && path.isEmpty) front).map fun (a, rest) =>
        (some a, otherPath (rest ++ path))
    | '/' :: rest => .ok (none, otherPath ('/' :: rest))
    | _ => .ok (none, .bare (String.ofList (Percent.encode Percent.control cs)))

/-- The parts of an absolute URL. -/
def Parts.parse (text : String) : Except ParseError Parts :=
  match scheme? (significant text.toList) with
  | none => .error .relativeWithoutBase
  | some (scheme, rest) =>
    let ending := rest.dropWhile fun c => !endsPath c
    let (query, fragment) := tail (Kind.ofScheme scheme).isSpecial ending
    (body scheme ending.isEmpty (rest.takeWhile fun c => !endsPath c)).map fun (authority, path) =>
      ⟨scheme, authority, path, query, fragment⟩

/-- The URL that a text denotes. -/
def parse (text : String) : Except ParseError Url :=
  (Parts.parse text).map fun parts => ⟨parts.text⟩

end Url
end Majuscule
