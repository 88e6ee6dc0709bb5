import ClusterEvidence.Http.Host

/-!
# URLs

URLs as the URL standard reads and writes them: the scheme and the host are in lower case, a default
port is left out, the segments `.` and `..` of the path are resolved, and characters that may not
stand for themselves are percent-encoded. What is encoded already stays as it is.

For the schemes that the standard knows a backslash counts as a slash, and there is a host; only
files need none. A URL of another scheme may have no authority, and then its path may be any text.
The letter of a drive at the front of a path is not gone above, whatever the scheme.
-/

namespace ClusterEvidence.Http

/-! ## The parts of a URL -/

/-- Who is asked: a host, and how to reach it. Everything is encoded. -/
structure Authority where
  user : String
  /-- The password, unless it is empty. -/
  password? : Option String
  /-- The host, which is empty if there is none. -/
  host : String
  /-- The port, unless it is the default one. -/
  port? : Option Nat
  deriving DecidableEq, Repr

/-- A URL. -/
structure Url where
  scheme : String
  authority? : Option Authority
  /-- The path, encoded, from its first slash on if it has one. -/
  path : String
  /-- The query, encoded, without its question mark. -/
  query? : Option String
  /-- The fragment, encoded, without its mark; servers do not see it. -/
  fragment? : Option String
  deriving DecidableEq, Repr

/-- The name and the password in front of a host. -/
def Authority.credentials (authority : Authority) : String :=
  if authority.user = "" && authority.password?.isNone then ""
  else authority.user ++ (authority.password?.map (":" ++ ·)).getD "" ++ "@"

namespace Url

/-- Whether the standard knows a scheme. -/
def isSpecial (scheme : String) : Bool :=
  ["http", "https", "ws", "wss", "ftp", "file"].contains scheme

/-- The port of a scheme that has one. -/
def defaultPort? (scheme : String) : Option Nat :=
  if scheme = "http" || scheme = "ws" then some 80
  else if scheme = "https" || scheme = "wss" then some 443
  else if scheme = "ftp" then some 21
  else none

/-- Whether a URL has a host. -/
def hasHost (url : Url) : Bool := url.authority?.any (·.host != "")

/-- The port of an authority with its colon. -/
def portText (authority : Authority) : String :=
  (authority.port?.map fun port => ":" ++ toString port).getD ""

/-- The server of a URL: its scheme, its host and its port. -/
def server (url : Url) : String :=
  url.scheme ++ ":" ++
    (url.authority?.map fun authority => "//" ++ authority.host ++ portText authority).getD ""

/-- What a server is asked for: the path and the query. -/
def target (url : Url) : String := url.path ++ (url.query?.map ("?" ++ ·)).getD ""

/-- What stands before the path of a URL. A path that begins with two slashes is kept apart from the
authority that it would look like. -/
def front (url : Url) : String :=
  match url.authority? with
  | some authority => "//" ++ authority.credentials ++ authority.host ++ portText authority
  | none => if url.path.startsWith "//" then "/." else ""

/-- The text of a URL. -/
def text (url : Url) : String :=
  url.scheme ++ ":" ++ url.front ++ url.target ++ (url.fragment?.map ("#" ++ ·)).getD ""

/-! ## Paths -/

/-- Whether a text is a segment for the directory itself. -/
def isSingleDot (segment : List Char) : Bool :=
  [".", "%2e"].contains (String.ofList (segment.map Char.toLower))

/-- Whether a text is a segment for the directory above. -/
def isDoubleDot (segment : List Char) : Bool :=
  ["..", ".%2e", "%2e.", "%2e%2e"].contains (String.ofList (segment.map Char.toLower))

/-- Whether a text is a segment for a drive: a letter and a colon, or a bar instead of it. -/
def isDrive : List Char → Bool
  | [letter, mark] => letter.isAlpha && (mark == ':' || mark == '|')
  | _ => false

/-- The segments above some segments, which are given in reverse. -/
def above : List (List Char) → List (List Char)
  | [] => []
  | segment :: before => if isDrive segment then segment :: before else before

/-- A segment after others as it is written. A drive at the front of a file's path has a colon. -/
def segmentText (isFile isFirst : Bool) (segment : List Char) : List Char :=
  if isFile && isFirst && isDrive segment then segment.take 1 ++ [':']
  else encodeWhere reservedInPath segment

/-- Resolves segments against those before them, which are given in reverse. -/
def resolveSegments (isFile : Bool) (done : List (List Char)) :
    List (List Char) → List (List Char)
  | [] => done.reverse
  | segment :: rest =>
      let done :=
        if isDoubleDot segment then if rest.isEmpty then [] :: above done else above done
        else if isSingleDot segment then if rest.isEmpty then [] :: done else done
        else segmentText isFile done.isEmpty segment :: done
      resolveSegments isFile done rest

/-- Whether a character separates segments. -/
def isSlash (special : Bool) (c : Char) : Bool := c == '/' || (special && c == '\\')

/-- A text without the slash at its front. -/
def dropSlash (special : Bool) : List Char → List Char
  | [] => []
  | c :: text => if isSlash special c then text else c :: text

/-- The segments of a path after its first slash. -/
def segments (scheme : String) (text : List Char) : List (List Char) :=
  resolveSegments (scheme = "file") [] (Text.splitWhen (isSlash (isSpecial scheme)) text)

/-- The path of segments. -/
def pathText (segments : List (List Char)) : List Char := segments.flatMap ('/' :: ·)

/-- The path of a file, which begins with one slash. -/
def filePathText (segments : List (List Char)) : List Char :=
  '/' :: (pathText segments).dropWhile (· == '/')

/-! ## Authorities -/

/-- The name and the password that a text in front of a host gives, and the rest of the authority.
It ends with the last `@`. -/
def readCredentials (text : List Char) : String × Option String × List Char :=
  let rest := (text.reverse.takeWhile (· != '@')).reverse
  let given := text.take (text.length - rest.length - 1)
  let user := given.takeWhile (· != ':')
  let password := (given.dropWhile (· != ':')).drop 1
  let encoded (part : List Char) : String := String.ofList (encodeWhere reservedInUser part)
  (encoded user, if password.isEmpty then none else some (encoded password), rest)

/-- The host in front of a text and what follows it; a colon ends it unless it stands between
brackets. -/
def cutHost (bracketed : Bool) : List Char → List Char × List Char
  | [] => ([], [])
  | c :: text =>
      if c = ':' && !bracketed then ([], c :: text)
      else
        let (host, rest) := cutHost (if c = '[' then true else if c = ']' then false else bracketed)
          text
        (c :: host, rest)

/-- The port in front of a text after a host, and what follows it; none within if it is the default
one or not given. Only a backslash may follow. -/
def readPort? (scheme : String) (text : List Char) : Option (Option Nat × List Char) :=
  let digits := (text.drop 1).takeWhile Char.isDigit
  let rest := (text.drop 1).dropWhile Char.isDigit
  let port := Text.valueOfDigits digits
  if 65535 < port || rest.head?.any (· != '\\') then none
  else if digits.isEmpty || defaultPort? scheme = some port then some (none, rest)
  else some (some port, rest)

/-- The authority that a text writes, and what is left of it for the path. An authority without a
host is empty; it may only be written with an `@` where the URL ends or a colon is in front of the
`@`. -/
def readAuthority? (scheme : String) (isEnd : Bool) (text : List Char) :
    Option (Authority × List Char) := do
  let (user, password?, rest) := readCredentials text
  let (host, rest) := cutHost false rest
  let host ← if isSpecial scheme then Host.read? host else Host.readOther? host
  let isBare := rest.isEmpty && user = "" && password?.isNone && (isEnd || text ≠ ['@'])
  if host = "" && !isBare then none
  else do
    let (port?, rest) ← readPort? scheme rest
    some (⟨user, password?, host, port?⟩, rest)

/-! ## Reading -/

/-- The text without what the standard drops: white space around it, tabs and line ends in it. -/
def cleaned (text : String) : List Char :=
  let isMargin (c : Char) : Bool := c ≤ ' '
  let inner := (text.toList.dropWhile isMargin).reverse.dropWhile isMargin |>.reverse
  inner.filter fun c => c != '\t' && c != '\n' && c != '\r'

/-- Whether a character may continue a scheme. -/
def isSchemeChar (c : Char) : Bool := c.isAlphanum || c == '+' || c == '-' || c == '.'

/-- The scheme in front of a text, and what follows its colon. -/
def readScheme? (text : List Char) : Option (String × List Char) :=
  match text.dropWhile isSchemeChar with
  | ':' :: rest =>
      if text.head?.any Char.isAlpha then
        some (String.ofList ((text.takeWhile isSchemeChar).map Char.toLower), rest)
      else none
  | _ => none

/-- The authority and the path that follow two slashes, for a scheme other than that of files, and
whether the URL ends with them. -/
def readServer? (scheme : String) (isEnd : Bool) (text : List Char) :
    Option (Authority × List Char) := do
  let special := isSpecial scheme
  let path := text.dropWhile (!isSlash special ·)
  let (authority, rest) ←
    readAuthority? scheme (isEnd && path.isEmpty) (text.takeWhile (!isSlash special ·))
  let path := rest ++ path
  if path.isEmpty && !special then some (authority, [])
  else some (authority, pathText (segments scheme (dropSlash special path)))

/-- The host and the path of a file after two slashes. A drive is no host, and next to a drive the
host does not count; the host of the machine itself is left out. -/
def readFile? (text : List Char) : Option (String × List Char) :=
  let name := text.takeWhile (!isSlash true ·)
  let path := text.dropWhile (!isSlash true ·)
  if isDrive name then some ("", filePathText (segments "file" text))
  else
    let segments := segments "file" (dropSlash true path)
    let host? := if name.isEmpty then some "" else Host.read? name
    host?.map fun host =>
      let isOwn := host = "localhost" || segments.head?.any isDrive
      (if isOwn then "" else host, filePathText segments)

/-- The authority and the path of a URL of some scheme, which may end with them. -/
def readHierarchy? (scheme : String) (isEnd : Bool) (text : List Char) :
    Option (Option Authority × List Char) :=
  let ofFile := fun (host, path) => (some ⟨"", none, host, none⟩, path)
  if scheme = "file" then
    match text with
    | [] => some (ofFile ("", ['/']))
    | c :: rest =>
        if isSlash true c && rest.head?.any (isSlash true) then
          (readFile? (rest.drop 1)).map ofFile
        else some (ofFile ("", filePathText (segments scheme (dropSlash true text))))
  else if isSpecial scheme then
    (readServer? scheme isEnd (text.dropWhile (isSlash true))).map fun (authority, path) =>
      (some authority, path)
  else
    match text with
    | '/' :: '/' :: rest =>
        (readServer? scheme isEnd rest).map fun (authority, path) => (some authority, path)
    | '/' :: rest => some (none, pathText (segments scheme rest))
    | text => some (none, encodeWhere isBeyondPrint text)

/-- A part of a text without its mark, encoded, if it is there. -/
def partAfterMark (reserved : Char → Bool) : List Char → Option String
  | [] => none
  | _ :: part => some (String.ofList (encodeWhere reserved part))

/-- Reads a URL. -/
def read (text : String) : Option Url := do
  let (scheme, rest) ← readScheme? (cleaned text)
  let isMark (c : Char) : Bool := c == '?' || c == '#'
  let front := rest.takeWhile (!isMark ·)
  let rest := rest.dropWhile (!isMark ·)
  let (authority?, path) ← readHierarchy? scheme rest.isEmpty front
  return {
    scheme, authority?
    path := String.ofList path
    query? := partAfterMark (reservedInQuery (isSpecial scheme)) (rest.takeWhile (· != '#'))
    fragment? := partAfterMark reservedInFragment (rest.dropWhile (· != '#')) }

/-! ## Requests -/

/-- Whether encoded text is UTF-8. -/
def isReadable (encoded : String) : Bool := (percentText? encoded.toList).isSome

/-- The URL without its name and password, if they can be read. -/
def withoutCredentials (url : Url) : Url :=
  match url.authority? with
  | none => url
  | some authority =>
      if isReadable authority.user && (authority.user != "" || authority.password?.any isReadable)
      then { url with authority? := some { authority with user := "", password? := none } }
      else url

/-- The parameters of a form as text. -/
def formText (parameters : List (String × String)) : String :=
  String.intercalate "&" (parameters.map fun (name, value) =>
    String.ofList (encodeForm name ++ '=' :: encodeForm value))

/-- The URL with parameters after those that its query has. -/
def withParameters (url : Url) (parameters : List (String × String)) : Url :=
  if parameters.isEmpty then url
  else
    let query := match url.query? with
      | none | some "" => formText parameters
      | some query => query ++ "&" ++ formText parameters
    { url with query? := some query }

end Url

end ClusterEvidence.Http
