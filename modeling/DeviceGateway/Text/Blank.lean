import DeviceGateway.Text.Ranges
/-!
White space as Unicode lists it, which is more than the ASCII blanks: trimming and blank texts go by
it.
-/
namespace DeviceGateway.Text

/-- The ranges of the property White_Space, ends included. -/
def blankRanges : List (Nat × Nat) :=
  [(0x09, 0x0D), (0x20, 0x20), (0x85, 0x85), (0xA0, 0xA0), (0x1680, 0x1680), (0x2000, 0x200A),
    (0x2028, 0x2029), (0x202F, 0x202F), (0x205F, 0x205F), (0x3000, 0x3000)]

def isBlankChar (c : Char) : Bool := within blankRanges c

def trimStart (text : List Char) : List Char := text.dropWhile isBlankChar

def trimEnd (text : List Char) : List Char := (text.reverse.dropWhile isBlankChar).reverse

/-- The text without the white space at its two ends. -/
def trim (text : List Char) : List Char := trimEnd (trimStart text)

/-- A text is blank when it holds nothing but white space. -/
def isBlank (s : String) : Bool := s.toList.all isBlankChar

@[simp] theorem isBlank_empty : isBlank "" = true := by
  simp [isBlank]

end DeviceGateway.Text
