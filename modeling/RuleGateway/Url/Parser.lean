import RuleGateway.Url.Basic

/-!
# Reading web addresses

An address is read against an optional base. The reader follows the URL
standard: surrounding blanks and control characters are dropped, and so are
tabs and line breaks anywhere; dot segments are resolved; every part is
percent-encoded as it is read. `Url.parse` and `Url.join` are the two entries.
-/

namespace RuleGateway

/-- Why a text is no address. -/
inductive UrlError where
  | emptyHost
  | invalidName
  | invalidPort
  | invalidIpv4
  | invalidIpv6
  | invalidHostCharacter
  | relativeWithoutBase
  | relativeToRootless
  deriving DecidableEq, Repr

/-- The wording of an error. -/
def UrlError.message : UrlError → Text
  | emptyHost => "empty host"
  | invalidName => "invalid international domain name"
  | invalidPort => "invalid port number"
  | invalidIpv4 => "invalid IPv4 address"
  | invalidIpv6 => "invalid IPv6 address"
  | invalidHostCharacter => "invalid domain character"
  | relativeWithoutBase => "relative URL without a base"
  | relativeToRootless => "relative URL with a cannot-be-a-base base"

namespace Url

/-- The characters escaped in a fragment. -/
def inFragmentSet (c : Char) : Bool :=
  Percent.isControl c || [' ', '"', '<', '>', '\x60'].contains c

/-- The characters escaped in a path. -/
def inPathSet (c : Char) : Bool := inFragmentSet c || ['#', '?', '\x7b', '\x7d'].contains c

/-- The characters escaped in credentials. -/
def inCredentialSet (c : Char) : Bool :=
  inPathSet c || ['/', ':', ';', '=', '@', '[', '\\', ']', '^', '|'].contains c

/-- The characters escaped in a query; schemes with a host escape the
apostrophe too. -/
def inQuerySet (kind : SchemeKind) (c : Char) : Bool :=
  Percent.isControl c || [' ', '"', '#', '<', '>'].contains c ||
    (kind.isSpecial && c == '\'')

/-- The text without what surrounds an address and without tabs and breaks. -/
def clean (text : Text) : Text :=
  let outer (c : Char) : Bool := c.toNat ≤ 0x20
  (((text.dropWhile outer).reverse.dropWhile outer).reverse).filter
    fun c => !(['\t', '\n', '\r'].contains c)

/-- The characters of a scheme after its first letter. -/
def isSchemeChar (c : Char) : Bool := c.isAlphanum || ['+', '-', '.'].contains c

/-- The scheme that a text starts with, in small letters, and what follows its
colon. -/
def scheme? (input : Text) : Option (Text × Text) :=
  if (input.head?.map Char.isAlpha).getD false then
    match input.dropWhile isSchemeChar with
    | ':' :: rest => some (Text.lower (input.takeWhile isSchemeChar), rest)
    | _ => none
  else none

/-- A slash, or what is taken for one. -/
def isSlash (kind : SchemeKind) (c : Char) : Bool := c == '/' || (kind.isSpecial && c == '\\')

/-- A slash of either direction. -/
def isAnySlash (c : Char) : Bool := c == '/' || c == '\\'

/-- The characters that end an authority. -/
def endsAuthority (kind : SchemeKind) (c : Char) : Bool :=
  isSlash kind c || c == '?' || c == '#'

section Host

/-- A part of an address of four bytes: decimal, octal after a zero, or
hexadecimal after `0x`. -/
def ipv4Number? (text : Text) : Option Nat :=
  match text with
  | [] => none
  | '0' :: 'x' :: rest | '0' :: 'X' :: rest =>
    if rest.isEmpty then some 0 else Text.number? 16 Text.hexDigit? rest
  | '0' :: c :: rest =>
    Text.number? 8 (fun c => (Text.digit? c).filter (· < 8)) (c :: rest)
  | _ => Text.decimal? text

/-- The parts of a name with a final empty one dropped. -/
def nameParts (name : Text) : List Text :=
  let parts := Text.split '.' name
  if parts.getLast? = some [] then parts.dropLast else parts

/-- Whether the last part of a name is a number, so that the name must be an
address of four bytes. -/
def endsInNumber (name : Text) : Bool :=
  match (nameParts name).getLast? with
  | some last => (!last.isEmpty && last.all Char.isDigit) || (ipv4Number? last).isSome
  | none => false

/-- The address that up to four numbers write; the last one fills the bytes
that are left. -/
def ipv4OfParts? (numbers : List Nat) : Option Nat := do
  let last ← numbers.getLast?
  let front := numbers.dropLast
  let left := Nat.pow 256 (4 - front.length)
  if 4 < numbers.length ∨ front.any (255 < ·) ∨ left ≤ last then none
  else some (front.foldl (fun sum n => sum * 256 + n) 0 * left + last)

/-- The host of a scheme with hosts. -/
def parseHost (text : Text) : Except UrlError Host :=
  match text with
  | '[' :: rest =>
    if Text.endsWith rest ']' then
      match Ip.v6? rest.dropLast with
      | some pieces => .ok (.v6 pieces)
      | none => .error .invalidIpv6
    else .error .invalidIpv6
  | _ =>
    match Domain.toAscii? text with
    | none => .error .invalidName
    | some [] => .error .emptyHost
    | some name =>
      if endsInNumber name then
        match ((nameParts name).mapM ipv4Number?).bind ipv4OfParts? with
        | some address => .ok (.v4 address)
        | none => .error .invalidIpv4
      else .ok (.domain name)

/-- The characters that no host may contain. -/
def isHostBreaker (c : Char) : Bool :=
  c == '\x00' || "\t\n\r #/:<>?@[\\]^|".toList.contains c

/-- The host of any other scheme, which keeps its text. -/
def parsePlainHost (text : Text) : Except UrlError Host :=
  match text with
  | '[' :: _ => parseHost text
  | _ =>
    if text.any isHostBreaker then .error .invalidHostCharacter
    else .ok (.domain (Percent.encode Percent.isControl text))

end Host

section Authority

/-- The length of the host at the start of a text: up to a colon outside
brackets or the end of the authority. -/
def hostLength (kind : SchemeKind) : Bool → Text → Nat
  | _, [] => 0
  | inside, c :: rest =>
    if (c = ':' ∧ !inside) ∨ endsAuthority kind c then 0
    else 1 + hostLength kind (if c = '[' then true else if c = ']' then false else inside) rest

/-- The credentials before a host. -/
def credentials (text : Text) : Text × Text :=
  let username := text.takeWhile (· != ':')
  let password := (text.dropWhile (· != ':')).drop 1
  (Percent.encode inCredentialSet username, Percent.encode inCredentialSet password)

/-- The part of a text before its last `@`, and what follows it. -/
def cutAtLastAt (text : Text) : Option (Text × Text) :=
  let back := text.reverse
  match back.dropWhile (· != '@') with
  | [] => none
  | _ :: left => some (left.reverse, (back.takeWhile (· != '@')).reverse)

/-- The port after a colon, unless it is the usual one, and what follows it. -/
def parsePort (scheme : Text) (input : Text) : Except UrlError (Option Nat × Text) :=
  let digits := input.takeWhile Char.isDigit
  let rest := input.dropWhile Char.isDigit
  let stops := (rest.head?.map fun c => isAnySlash c || c == '?' || c == '#').getD true
  match Text.decimal? digits with
  | none => if stops then .ok (none, rest) else .error .invalidPort
  | some port =>
    if 65535 < port then .error .invalidPort
    else if !stops then .error .invalidPort
    else .ok (if defaultPort? scheme = some port then none else some port, rest)

/-- A host that no text is left for, where one is needed. -/
def hostOf (kind : SchemeKind) (text rest : Text) : Except UrlError (Option Host) :=
  if text.isEmpty then
    if kind.isSpecial ∨ rest.head? = some ':' then .error .emptyHost else .ok none
  else
    match kind with
    | .other => (parsePlainHost text).map some
    | _ => (parseHost text).map some

/-- The authority at the start of a text, and what follows it. -/
def parseAuthority (scheme : Text) (input : Text) : Except UrlError (Authority × Text) := do
  let kind := SchemeKind.of scheme
  let zone := input.takeWhile (!endsAuthority kind ·)
  let after := input.drop zone.length
  let (user, host) := (cutAtLastAt zone).getD ([], zone)
  if (cutAtLastAt zone).isSome ∧ user.isEmpty ∧ host.isEmpty ∧ !after.isEmpty then
    throw .emptyHost
  let (username, password) := credentials user
  let length := hostLength kind false host
  let rest := host.drop length ++ after
  let found ← hostOf kind (host.take length) rest
  let (port, rest) ←
    match rest with
    | ':' :: digits => parsePort scheme digits
    | _ => pure (none, rest)
  let authority : Authority := { username, password, host := found, port }
  if found.isNone ∧ authority.hasCredentials then throw .emptyHost
  return (authority, rest)

end Authority

section Path

/-- Whether a text starts with a drive letter, a letter and a colon or a bar,
that is a whole segment. -/
def startsWithDrive (text : Text) : Bool :=
  match text with
  | letter :: mark :: rest =>
    letter.isAlpha && (mark == ':' || mark == '|') &&
      (rest.head?.map fun c => isAnySlash c || c == '?' || c == '#').getD true
  | _ => false

/-- A drive letter with its colon or bar. -/
def isDrive (segment : Text) : Bool := segment.length == 2 && startsWithDrive segment

/-- A drive letter with a colon. -/
def isColonDrive (segment : Text) : Bool := isDrive segment && segment.getLast? == some ':'

/-- The segments without the last one. A drive letter is never left. -/
def leave (segments : List Text) : List Text :=
  if (segments.getLast?.map startsWithDrive).getD false then segments else segments.dropLast

/-- Whether the segment stands for the directory it is in. -/
def isSingleDot (segment : Text) : Bool :=
  [".".toList, "%2e".toList].contains (Text.lower segment)

/-- Whether the segment stands for the directory above. -/
def isDoubleDot (segment : Text) : Bool :=
  ["..".toList, "%2e.".toList, ".%2e".toList, "%2e%2e".toList].contains (Text.lower segment)

/-- The segments after one more; `last` tells that no slash follows it. -/
def addSegment (segments : List Text) (segment : Text) (last : Bool) : List Text :=
  if isDoubleDot segment then leave segments ++ (if last then [[]] else [])
  else if isSingleDot segment then segments ++ (if last then [[]] else [])
  else segments ++ [Percent.encode inPathSet segment]

/-- The segments after a list of more. -/
def addSegments : List Text → List Text → List Text
  | segments, [] => segments
  | segments, [segment] => addSegment segments segment true
  | segments, segment :: rest => addSegments (addSegment segments segment false) rest

/-- The segments of a path text, and the query and fragment that follow it. -/
def cutPath (kind : SchemeKind) (input : Text) : List Text × Text :=
  let isPath (c : Char) : Bool := c != '?' && c != '#'
  let text := (input.takeWhile isPath).map fun c => if isSlash kind c then '/' else c
  (Text.split '/' text, input.dropWhile isPath)

/-- The path of a file without empty segments at its start. -/
def dropEmptyFront : List Text → List Text
  | [] :: segment :: rest => dropEmptyFront (segment :: rest)
  | segments => segments

/-- The path with a colon behind a drive letter at its root. -/
def nameDrive : List Text → List Text
  | first :: rest => (if isDrive first then first.take 1 ++ [':'] else first) :: rest
  | [] => []

/-- The segments of a file after given ones and a list of more. A drive letter
that becomes the first segment gets a colon. -/
def addFileSegments (start pieces : List Text) : List Text :=
  let segments := addSegments start pieces
  if start.head?.any isDrive then segments else nameDrive segments

/-- The segments of a path text behind given ones, and the query and fragment
that follow the path. The text starts behind a slash. -/
def parseSegments (kind : SchemeKind) (start : List Text) (input : Text) : List Text × Text :=
  let (pieces, rest) := cutPath kind input
  match kind with
  | .file => (dropEmptyFront (addFileSegments start pieces), rest)
  | _ => (addSegments start pieces, rest)

/-- The path after an authority: it may be left out where a scheme has no
special rules, and otherwise starts with a slash, written or not. -/
def parseAfterAuthority (kind : SchemeKind) (input : Text) : List Text × Text :=
  match input with
  | [] => if kind.isSpecial then ([[]], []) else ([], [])
  | c :: rest =>
    if isSlash kind c then parseSegments kind [] rest
    else if (c = '?' ∨ c = '#') ∧ !kind.isSpecial then ([], input)
    else parseSegments kind [] input

end Path

/-- The query and the fragment at the start of a text. -/
def parseTail (kind : SchemeKind) (input : Text) : Option Text × Option Text :=
  let fragmentOf (text : Text) : Option Text :=
    match text with
    | '#' :: rest => some (Percent.encode inFragmentSet rest)
    | _ => none
  match input with
  | '?' :: rest =>
    (some (Percent.encode (inQuerySet kind) (rest.takeWhile (· != '#'))),
      fragmentOf (rest.dropWhile (· != '#')))
  | _ => (none, fragmentOf input)

/-- The address with the query and fragment at the start of a text. -/
def withTail (url : Url) (input : Text) : Url :=
  let (query, fragment) := parseTail (.of url.scheme) input
  { url with query, fragment }

/-- An address from after the two slashes before its authority. -/
def parseWithAuthority (scheme : Text) (input : Text) : Except UrlError Url := do
  let (authority, rest) ← parseAuthority scheme input
  let (segments, rest) := parseAfterAuthority (.of scheme) rest
  return withTail { scheme, authority := some authority, path := .rooted segments } rest

/-- An address of a scheme without special rules, from after its colon. -/
def parseOther (scheme : Text) (input : Text) : Except UrlError Url :=
  match input with
  | '/' :: '/' :: rest => parseWithAuthority scheme rest
  | '/' :: rest =>
    let (segments, rest) := parseSegments .other [] rest
    .ok (withTail { scheme, path := .rooted segments } rest)
  | _ =>
    let isPath (c : Char) : Bool := c != '?' && c != '#'
    let text := Percent.encode Percent.isControl (input.takeWhile isPath)
    .ok (withTail { scheme, path := .rootless text } (input.dropWhile isPath))

/-- The base with a new fragment, from after the number sign. -/
def withFragment (base : Url) (input : Text) : Url :=
  { base with fragment := some (Percent.encode inFragmentSet input) }

/-- The segments of a path. -/
def segmentsOf (url : Url) : List Text :=
  match url.path with
  | .rooted segments => segments
  | .rootless _ => []

/-- A path that does not start with a slash, in the directory of the base. -/
def parseInDirectory (base : Url) (input : Text) : Url :=
  let (segments, rest) := parseSegments (.of base.scheme) (segmentsOf base).dropLast input
  withTail { base with path := .rooted segments } rest

/-- A reference without a scheme, against a base that has segments. -/
def parseRelative (base : Url) (input : Text) : Except UrlError Url :=
  match input with
  | [] => .ok { base with fragment := none }
  | '?' :: _ => .ok (withTail base input)
  | '#' :: rest => .ok (withFragment base rest)
  | c :: rest =>
    if isAnySlash c then
      if 2 ≤ (input.takeWhile isAnySlash).length then
        match input with
        | '/' :: '/' :: rest => parseWithAuthority base.scheme rest
        | _ => parseWithAuthority base.scheme (input.dropWhile isAnySlash)
      else
        let (segments, rest) := parseSegments (.of base.scheme) [] rest
        .ok (withTail { base with path := .rooted segments } rest)
    else .ok (parseInDirectory base input)

section File

/-- The word for the scheme of files. -/
def fileScheme : Text := "file"

/-- A file address from the start of its path, behind given segments. A drive
letter at the root takes the place of the host. -/
def fileAt (host : Option Host) (start : List Text) (input : Text) : Url :=
  let (pieces, rest) := cutPath .file input
  let segments := addFileSegments start pieces
  let host := if segments.head?.any isDrive then none else host
  withTail
    { scheme := fileScheme, authority := some { host },
      path := .rooted (dropEmptyFront segments) } rest

/-- A file address from after its two slashes. The local host is no host. Where
the host is left out an empty segment comes first, so that a drive letter behind
it is not at the root and keeps its bar. -/
def parseFileHost (input : Text) : Except UrlError Url := do
  let text := input.takeWhile fun c => !(isAnySlash c || c == '?' || c == '#')
  let after := input.drop text.length
  let rest := if after.head?.any isAnySlash then after.drop 1 else after
  if isDrive text then return fileAt none [] input
  if text.isEmpty then return fileAt none [[]] rest
  let host ← parseHost text
  return fileAt (if host = .domain "localhost".toList then none else some host) [] rest

/-- The host and the drive letter that a base gives to a path from its root. -/
def fileBase (base : Option Url) (input : Text) : Option Host × List Text :=
  match base with
  | some base =>
    if startsWithDrive input then (none, [])
    else
      match (segmentsOf base).head?.filter isColonDrive with
      | some drive => (none, [drive])
      | none => (base.authority.bind Authority.host, [])
  | none => (none, [])

/-- A path that does not start with a slash, for a base file. A drive letter
is no file in a directory: at the root it is the directory, and below the root
the path continues its segment. -/
def parseBesideFile (base : Url) (input : Text) : Url :=
  let segments := segmentsOf base
  let (pieces, rest) := cutPath .file input
  let found : List Text :=
    match segments.getLast?.filter isColonDrive, pieces with
    | some drive, first :: more =>
      if segments.length = 1 then addSegments segments pieces
      else if isDoubleDot first ∧ more.isEmpty then segments
      else if isSingleDot first ∨ isDoubleDot first then
        addSegments segments (if more.isEmpty then [[]] else more)
      else addSegments segments.dropLast ((drive ++ first) :: more)
    | _, _ => addFileSegments segments.dropLast pieces
  withTail { base with path := .rooted (dropEmptyFront found) } rest

/-- A file address, from after its colon or without a scheme, against a base
that is a file address too. -/
def parseFile (base : Option Url) (input : Text) : Except UrlError Url :=
  match input with
  | c :: rest =>
    if isAnySlash c then
      match rest with
      | d :: after =>
        if isAnySlash d then parseFileHost after
        else fromRoot rest
      | [] => fromRoot rest
    else
      match base with
      | none => .ok (fileAt none [] input)
      | some base =>
        if c = '?' then .ok (withTail base input)
        else if c = '#' then .ok (withFragment base rest)
        else if startsWithDrive input then .ok (fileAt none [] input)
        else .ok (parseBesideFile base input)
  | [] =>
    match base with
    | none => .ok (fileAt none [] input)
    | some base => .ok { base with fragment := none }
where
  /-- A path from the root, on the host of the base. -/
  fromRoot (rest : Text) : Except UrlError Url :=
    let (host, start) := fileBase base rest
    let (segments, rest) := parseSegments .file start rest
    .ok (withTail
      { scheme := fileScheme, authority := some { host }, path := .rooted segments } rest)

end File

/-- An address with a scheme, from after its colon. Within its own scheme a
base lends the parts that a text with fewer than two slashes leaves out. -/
def parseWithScheme (base : Option Url) (scheme input : Text) : Except UrlError Url :=
  match SchemeKind.of scheme with
  | .file => parseFile (base.filter (·.scheme == scheme)) input
  | .other => parseOther scheme input
  | .web =>
    match base.filter (·.scheme == scheme) with
    | some base =>
      if (input.takeWhile isAnySlash).length < 2 then parseRelative base input
      else parseWithAuthority scheme (input.dropWhile isAnySlash)
    | none => parseWithAuthority scheme (input.dropWhile isAnySlash)

/-- The address that a text is, against a base if there is one. -/
def parseAgainst (base : Option Url) (text : Text) : Except UrlError Url :=
  let input := clean text
  match scheme? input with
  | some (scheme, rest) => parseWithScheme base scheme rest
  | none =>
    match base with
    | none => .error .relativeWithoutBase
    | some base =>
      match input, base.path with
      | '#' :: rest, _ => .ok (withFragment base rest)
      | _, .rootless _ => .error .relativeToRootless
      | _, .rooted _ =>
        if SchemeKind.of base.scheme = .file then parseFile (some base) input
        else parseRelative base input

/-- The address that a text is by itself. -/
def parse (text : Text) : Except UrlError Url := parseAgainst none text

/-- The address that a text is for a page at `base`. -/
def join (base : Url) (text : Text) : Except UrlError Url := parseAgainst (some base) text

/-- The address that a text is by itself, without the reason if it is none. -/
def parse? (text : Text) : Option Url := (parse text).toOption

/-- The origin of an address. A blob has the origin of the address inside it;
the first argument bounds how deep such addresses may be nested. -/
def originWithin : Nat → Url → Option Origin
  | 0, _ => none
  | n + 1, url =>
    if url.scheme = "blob".toList then (parse? url.pathText).bind (originWithin n)
    else url.hostOrigin?

/-- The origin of an address, none if it is like no other. -/
def origin? (url : Url) : Option Origin := originWithin (url.pathText.length + 1) url

/-- Whether two addresses have the same origin. -/
def sameOrigin (a b : Url) : Bool :=
  match a.origin?, b.origin? with
  | some x, some y => x == y
  | _, _ => false

/-- The text of the origin of an address. -/
def renderOrigin (url : Url) : Text :=
  match url.origin? with
  | some origin => origin.render
  | none => "null"

end Url

end RuleGateway
