/-! # Lines

* `Text.lines`: the lines of bytes as texts, without what ends them.
-/

namespace RefAtlas.Text
set_option autoImplicit false

/-- A line that ended with a line feed, without the carriage return in front of it. -/
def trimReturn (line : List UInt8) : List UInt8 :=
  if line.getLast? == some 13 then line.dropLast else line

/-- The lines of bytes as texts; one whose bytes are no text is none. A line ends with a line feed,
in front of which a carriage return may stand. The last line may lack its end, and then a carriage
return is a part of it. -/
def lines (bytes : ByteArray) : List (Option String) :=
  let pieces := bytes.toList.splitOn 10
  let unended := pieces.getLast?.filter fun piece => !piece.isEmpty
  (pieces.dropLast.map trimReturn ++ unended.toList).map fun line =>
    String.fromUTF8? line.toByteArray

end RefAtlas.Text
