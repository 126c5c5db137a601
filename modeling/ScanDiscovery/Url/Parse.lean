import ScanDiscovery.Url.Path
/-!
# Url.Parse — addresses read from text

Blanks and controls around an address do not count, nor do tabs and line breaks inside it. In an address of a
known scheme a backslash counts as a slash, any number of slashes leads to the host, and there must be one.
-/
namespace ScanDiscovery.Url

/-- The text without the blanks and controls at its two ends. -/
def trimmed (text : List Char) : List Char :=
  let isOuter (c : Char) : Bool := c.toNat ≤ 0x20
  ((text.dropWhile isOuter).reverse.dropWhile isOuter).reverse

/-- The scheme, in lower case, and what follows its colon. -/
def scheme? (text : List Char) : Option (String × List Char) :=
  let inScheme (c : Char) : Bool := c.isAlphanum || c = '+' || c = '-' || c = '.'
  match text, text.dropWhile inScheme with
  | c :: _, ':' :: rest =>
    if c.isAlpha then some (String.ofList ((text.takeWhile inScheme).map Char.toLower), rest) else none
  | _, _ => none

/-- Where an authority ends. -/
def endsAuthority (kind : SchemeKind) (c : Char) : Bool :=
  isSlash kind c || c = '?' || c = '#'

/-- What stands before the last of some characters, and what stands after it. -/
def splitLast (p : Char → Bool) (text : List Char) : Option (List Char × List Char) :=
  match text.reverse.dropWhile (!p ·) with
  | [] => none
  | _ :: before => some (before.reverse, (text.reverse.takeWhile (!p ·)).reverse)

/-- User name and password, from what stands before the host. -/
def readCredentials (text : List Char) : String × Option String :=
  let username := text.takeWhile (· ≠ ':')
  let password := text.drop (username.length + 1)
  (String.ofList (encode userinfoSet username),
    if password.isEmpty then none else some (String.ofList (encode userinfoSet password)))

/-- What belongs to the host, up to the colon of a port; `inside` says that a bracket is open. -/
def hostLength : Bool → List Char → Nat
  | _, [] => 0
  | inside, c :: cs =>
    if c = ':' && !inside then 0
    else 1 + hostLength (if c = '[' then true else if c = ']' then false else inside) cs

/-- A port, none if it is the scheme's own. -/
def readPort (scheme : String) (digits : List Char) : Except Fault (Option Nat) :=
  if !digits.all Char.isDigit then .error .port
  else
    match readDigits? 10 digits with
    | none => .error .port
    | some n =>
      if 65535 < n then .error .port
      else if digits.isEmpty || defaultPort? scheme = some n then .ok none
      else .ok (some n)

/-- Host and port, and what follows them: in an address of which nothing is known, a backslash ends the port. -/
def readHost (scheme : String) (text : List Char) : Except Fault (Host × Option Nat × List Char) := do
  let kind := schemeKind scheme
  let length := hostLength false text
  let name := text.take length
  let digits := (text.drop length).drop 1
  if kind = .special && name.isEmpty then throw .emptyHost
  let host ← if kind = .other then Host.parseOther name else Host.parseSpecial name
  if name.isEmpty && length < text.length then throw .emptyHost
  let port ← readPort scheme (digits.takeWhile (· ≠ '\\'))
  pure (host, port, digits.dropWhile (· ≠ '\\'))

/-- Where a path ends. -/
def endsPath (c : Char) : Bool := c = '?' || c = '#'

/-- Query and fragment from the text from a path on. -/
def readTail (kind : SchemeKind) (text : List Char) : Option String × Option String :=
  let tail := withoutBreaks (text.dropWhile (!endsPath ·))
  let fragment := match tail.dropWhile (· ≠ '#') with
    | [] => none
    | _ :: f => some (String.ofList (encode fragmentSet f))
  let set := if kind = .other then querySet else specialQuerySet
  match tail.takeWhile (· ≠ '#') with
  | '?' :: q => (some (String.ofList (encode set q)), fragment)
  | _ => (none, fragment)

/-- An address from its parts, of which the query and the fragment are read from the text from its path on. -/
def assemble (scheme : String) (login : String × Option String) (host : Option Host) (port : Option Nat)
    (path : String) (text : List Char) : Url :=
  let (query, fragment) := readTail (schemeKind scheme) text
  { scheme, username := login.1, password := login.2, host, port, path, query, fragment }

/-- An address from the text after the slashes that lead to its host. -/
def readAuthority (scheme : String) (text : List Char) : Except Fault Url := do
  let kind := schemeKind scheme
  let authority := text.takeWhile (!endsAuthority kind ·)
  let rest := text.dropWhile (!endsAuthority kind ·)
  let (login, hostPart) ← match splitLast (· = '@') authority with
    | none => pure (("", none), authority)
    | some (before, behind) =>
      if before.isEmpty && behind.isEmpty && !rest.isEmpty then throw .emptyHost
      else pure (readCredentials before, behind)
  let (host, port, behind) ← readHost scheme hostPart
  if host = .domain "" && (login.2.isSome || !login.1.isEmpty) then throw .emptyHost
  let text := behind ++ rest
  let path := Path.afterHost kind (text.takeWhile (!endsPath ·))
  pure (assemble scheme login (some host) port (path.text kind) text)

/-- The host of a file address, unless it is this machine. -/
def readFileHost (text : List Char) : Except Fault Host :=
  if text.isEmpty then .ok (.domain "")
  else (Host.parseSpecial text).map fun host => if host = .domain "localhost" then .domain "" else host

/-- A file's address from the text from its path on. A path on this machine has no other host. -/
def ofFile (host : Host) (path : Path) (text : List Char) : Url :=
  assemble "file" ("", none) (some (if path.isLocal then .domain "" else host)) none (path.text .file) text

/-- A file's address from the text after two slashes. If no host is named, then what follows is read from its slash
on, and its first segment is empty, and no drive. -/
def readFileAuthority (text : List Char) : Except Fault Url :=
  let name := withoutBreaks (text.takeWhile (!endsAuthority .file ·))
  let rest := text.dropWhile (!endsAuthority .file ·)
  let pathOf (text : List Char) : List Char := text.takeWhile (!endsPath ·)
  if Drive.isLetter name then .ok (ofFile (.domain "") (Path.ofText .file (pathOf text)) text)
  else
    (readFileHost name).map fun host =>
      if host = .domain "" then ofFile host (Path.ofText .file (pathOf rest)) rest
      else ofFile host (Path.afterHost .file (pathOf rest)) rest

/-- What follows a slash, if the text begins with one. -/
def afterSlash? (text : List Char) : Option (List Char) :=
  match text.dropWhile isBreak with
  | c :: cs => if isSlash .file c then some cs else none
  | [] => none

/-- A file's address from the text after the scheme, in which the breaks still stand. -/
def readFile (text : List Char) : Except Fault Url :=
  match (afterSlash? text).bind afterSlash? with
  | some rest => readFileAuthority rest
  | none => .ok (ofFile (.domain "") (Path.afterHost .file (text.takeWhile (!endsPath ·))) text)

/-- The address of a scheme of which nothing is known. -/
def readOther (scheme : String) (text : List Char) : Except Fault Url :=
  let path := text.takeWhile (!endsPath ·)
  match text with
  | '/' :: '/' :: rest => readAuthority scheme rest
  | '/' :: _ => .ok (assemble scheme ("", none) none none ((Path.afterHost .other path).text .other) text)
  | text => .ok (assemble scheme ("", none) none none (String.ofList (encode controls path)) text)

/-- Reads an address. -/
def parse (text : String) : Except Fault Url :=
  let text := trimmed text.toList
  match scheme? (withoutBreaks text) with
  | none => .error .relative
  | some (scheme, rest) =>
    match schemeKind scheme with
    | .file => readFile ((text.dropWhile (· ≠ ':')).drop 1)
    | .special => readAuthority scheme (rest.dropWhile (isSlash .special ·))
    | .other => readOther scheme rest

end ScanDiscovery.Url
