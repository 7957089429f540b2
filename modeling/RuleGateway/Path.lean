import RuleGateway.Percent

/-!
# Request paths

Rules are matched against paths in one normal form: no repeated slash, no
slash at the end, and percent escapes decoded. This module brings a path into
that form and answers the two questions asked of it, whether it lies under a
base path and whether it names a root asset of a front-end framework.
-/

namespace RuleGateway.Path

/-- The path with every run of slashes made one. -/
def collapse : Text → Text
  | [] => []
  | c :: rest => if c = '/' ∧ rest.head? = some '/' then collapse rest else c :: collapse rest

/-- The normal form of a path: slashes collapsed, one final slash dropped, and
the empty path read as the root. -/
def normalize (path : Text) : Text :=
  match collapse path with
  | [] => ['/']
  | ['/'] => ['/']
  | text => Text.dropFinalSlash text

/-- The path with its escapes decoded. A path with a malformed escape, or one
whose bytes are no UTF-8, is left as it is: there is no partial decoding. -/
def decode (path : Text) : Text := ((Percent.decode? path).bind Utf8.decode?).getD path

/-- Whether a segment of a base path stands for more than itself. -/
def isDynamic (segment : Text) : Bool := segment == ['*'] || segment.head? == some ':'

/-- The segments of a base path. A base path starts with a slash, so what
stands before the first slash is no segment. -/
def segments (base : Text) : List Text := (Text.split '/' base).tail

/-- The segments as a path, each after a slash. -/
def ofSegments (segments : List Text) : Text := segments.flatMap ('/' :: ·)

/-- The part of a base path before its first dynamic segment, or the root when
that is empty. It is as long as the leading literal segments with their slashes,
and there is none if a cut at that length would split a character. -/
def literalPrefix? (base : Text) : Option Text :=
  let literal := ofSegments ((segments base).takeWhile (!isDynamic ·))
  if literal.isEmpty then some ['/'] else Text.takeBytes? (Text.byteLength literal) base

/-- Whether the path is the base or lies below it. -/
def isUnder (path base : Text) : Bool :=
  base == ['/'] || path == base ||
    match Text.after? base path with
    | some rest => rest.head? == some '/'
    | none => false

/-- The directories that front-end frameworks load from the site root. -/
def assetRoots : List Text := ["/_next", "/_nuxt"]

/-- Whether the path lies in one of the framework directories at the root. -/
def isRootAsset (path : Text) : Bool :=
  assetRoots.any fun root =>
    match Text.after? root path with
    | some rest => rest.isEmpty || rest.head? == some '/'
    | none => false

end RuleGateway.Path
