/-!
# Blanks

The characters that count as blank around a text: the spaces and line ends of every script, and the
four separator controls below the space. A number in a text is read without the separator controls,
which are then no blanks but a fault.
-/
namespace TableQuery.Text

def isSpace (c : Char) : Bool :=
  let n := c.toNat
  (0x09 ≤ n ∧ n ≤ 0x0D) ∨ n = 0x20 ∨ n = 0x85 ∨ n = 0xA0 ∨ n = 0x1680 ∨
    (0x2000 ≤ n ∧ n ≤ 0x200A) ∨ n = 0x2028 ∨ n = 0x2029 ∨ n = 0x202F ∨ n = 0x205F ∨ n = 0x3000

def isSeparatorControl (c : Char) : Bool := 0x1C ≤ c.toNat ∧ c.toNat ≤ 0x1F

def isBlank (c : Char) : Bool := isSpace c || isSeparatorControl c

def isBlankOctet (n : Nat) : Bool := (0x09 ≤ n ∧ n ≤ 0x0D) ∨ n = 0x20

def stripWhile (cut : Char → Bool) (text : List Char) : List Char :=
  ((text.dropWhile cut).reverse.dropWhile cut).reverse

def strip (text : List Char) : List Char := stripWhile isBlank text

def allBlank (text : List Char) : Bool := text.all isBlank

/-- The pieces of a text between the occurrences of a character; always one piece at least. -/
def splitAt (mark : Char) : List Char → List (List Char)
  | [] => [[]]
  | c :: rest =>
    if c = mark then [] :: splitAt mark rest
    else match splitAt mark rest with
      | [] => [[c]]
      | piece :: pieces => (c :: piece) :: pieces

end TableQuery.Text
