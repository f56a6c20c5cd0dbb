import TableQuery.Text.CaseTable

/-!
# Letter case

Small letters of a text, for every script. Two characters need a rule of their own: the dotted
capital I becomes two characters, and a capital sigma becomes the final form where a word ends. A
word ends at the sigma when, looking through characters that case rules ignore, a letter with case
stands before it and none behind it.
-/
namespace TableQuery.Text

def isCased (c : Char) : Bool := inRanges c.toNat casedRanges

def isCaseIgnorable (c : Char) : Bool := inRanges c.toNat caseIgnorableRanges

def lookUp (code : Nat) : List CaseRow → Nat
  | [] => code
  | row :: rest =>
    if code < row.first then code
    else if code ≤ row.last then
      if (code - row.first) % row.stride = 0 then (code + row.shift).toNat else code
    else lookUp code rest

def smallLetter (c : Char) : Char := Char.ofNat (lookUp c.toNat smallLetters)

/-- Whether the first character that case rules do not look through has case. -/
def meetsCased (text : List Char) : Bool :=
  match text.dropWhile isCaseIgnorable with
  | [] => false
  | c :: _ => isCased c

/-- Whether a sigma ends a word; `before` runs backwards from it. -/
def endsWord (before after : List Char) : Bool := meetsCased before && !meetsCased after

def lowerAt (before : List Char) (c : Char) (after : List Char) : List Char :=
  if c = 'İ' then ['i', '\u0307']
  else if c = 'Σ' then [if endsWord before after then 'ς' else 'σ']
  else [smallLetter c]

/-- The small letters of a text that stands behind `before`, which runs backwards. -/
def lowerFrom (before : List Char) : List Char → List Char
  | [] => []
  | c :: rest => lowerAt before c rest ++ lowerFrom (c :: before) rest

def lowerChars (text : List Char) : List Char := lowerFrom [] text

def lower (text : String) : String := String.ofList (lowerChars text.toList)

/-- Capital letters as far as they are written with the letters A to Z; any other character stays as
it is, which a search for a word in those letters cannot tell. -/
def latinCapitals (c : Char) : List Char :=
  match c with
  | 'ß' => ['S', 'S']
  | 'ı' => ['I']
  | 'ŉ' => ['ʼ', 'N']
  | 'ſ' => ['S']
  | 'ǰ' => ['J', '\u030C']
  | 'ẖ' => ['H', '\u0331']
  | 'ẗ' => ['T', '\u0308']
  | 'ẘ' => ['W', '\u030A']
  | 'ẙ' => ['Y', '\u030A']
  | 'ẚ' => ['A', 'ʾ']
  | 'ﬀ' => ['F', 'F']
  | 'ﬁ' => ['F', 'I']
  | 'ﬂ' => ['F', 'L']
  | 'ﬃ' => ['F', 'F', 'I']
  | 'ﬄ' => ['F', 'F', 'L']
  | 'ﬅ' => ['S', 'T']
  | 'ﬆ' => ['S', 'T']
  | c => [c.toUpper]

def upperLatin (text : List Char) : List Char := text.flatMap latinCapitals

end TableQuery.Text
