import RuleGateway.Http.Message

/-!
# The icon of the site

A disc in one colour, sixteen pixels wide, as a file in the icon format: a
directory with one entry, the header of a bitmap, the pixels row by row, and a
mask that hides none of them.
-/

namespace RuleGateway.Page

namespace Icon

/-- A number in the given count of bytes, the lowest byte first. -/
def little : Nat → Nat → Bytes
  | 0, _ => []
  | count + 1, n => (n % 256).toUInt8 :: little count (n / 256)

/-- The width and height of the icon. -/
def size : Nat := 16

/-- The widths of the rows of the disc. Each row is in the middle. -/
def rows : List Nat := [0, 8, 10, 12, 14, 14, 14, 14, 14, 14, 14, 14, 12, 10, 8, 0]

/-- The colour of the disc: blue, green, red and opacity. -/
def ink : Bytes := [0x2A, 0x17, 0x0F, 0xFF]

/-- A pixel outside the disc. -/
def clear : Bytes := [0, 0, 0, 0]

/-- The pixels of a row of the disc. -/
def row (width : Nat) : Bytes :=
  let margin := (List.replicate ((size - width) / 2) clear).flatten
  margin ++ (List.replicate width ink).flatten ++ margin

/-- The pixels and the mask. -/
def picture : Bytes := rows.flatMap row ++ List.replicate (size * 4) 0

/-- The header of the bitmap. Its height counts the pixels and the mask. -/
def header : Bytes :=
  little 4 40 ++ little 4 size ++ little 4 (2 * size) ++ little 2 1 ++ little 2 32 ++
    little 4 0 ++ little 4 picture.length ++ List.replicate 16 0

/-- The directory: its kind, the count of entries, and the one entry. -/
def directory : Bytes :=
  little 2 0 ++ little 2 1 ++ little 2 1 ++ [size.toUInt8, size.toUInt8, 0, 0] ++ little 2 1 ++
    little 2 32 ++ little 4 (header.length + picture.length) ++ little 4 22

/-- The bytes of the file. -/
def file : Bytes := directory ++ header ++ picture

end Icon

/-- The answer to a request for the icon. Browsers may keep it for a day. -/
def icon : Response :=
  let file := Response.withBody 200 "image/x-icon" Icon.file
  { file with headers := file.headers.insert "cache-control" (Utf8.encode "public, max-age=86400") }

end RuleGateway.Page
