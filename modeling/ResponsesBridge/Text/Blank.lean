/-!
# Blank text

The characters that count as white space are those with the Unicode property
`White_Space`: twenty-five code points, among them the no-break space and the ideographic
space, but not the zero-width space and not the byte order mark. A text is *blank* when it
holds no other character.
-/

set_option autoImplicit false

namespace ResponsesBridge.Text

/-- The code points with the property `White_Space`. -/
def isBlankChar (character : Char) : Bool :=
  let point := character.toNat
  (0x09 ≤ point && point ≤ 0x0D) || point == 0x20 || point == 0x85 || point == 0xA0 ||
    point == 0x1680 || (0x2000 ≤ point && point ≤ 0x200A) || point == 0x2028 ||
    point == 0x2029 || point == 0x202F || point == 0x205F || point == 0x3000

/-- A text is blank when every character of it is white space; the empty text is blank. -/
def isBlank (text : String) : Bool :=
  text.toList.all isBlankChar

/-- The text without the white space it starts with. -/
def trimStart (text : List Char) : List Char :=
  text.dropWhile isBlankChar

/-- The text without the white space it ends with. -/
def trimEnd (text : List Char) : List Char :=
  (text.reverse.dropWhile isBlankChar).reverse

/-- The text without the white space around it. -/
def trim (text : String) : String :=
  String.ofList (trimEnd (trimStart text.toList))

end ResponsesBridge.Text
