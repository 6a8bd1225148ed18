/-! Letter case as far as it meets ASCII: the upper and lower case of those characters whose
other case has an ASCII letter in it. All others stand for themselves, so a comparison with
ASCII text comes out as it would under the full case mappings. -/

namespace CaretSql.Character

/-- Dotless i and long s have ASCII capitals, and a few small letters have no capital of their
own but one written with a combining mark. -/
def upper (c : Char) : List Char :=
  match c with
  | 'ı' => ['I']
  | 'ſ' => ['S']
  | 'ß' => ['S', 'S']
  | 'ŉ' => ['ʼ', 'N']
  | 'ǰ' => ['J', '\u030C']
  | 'ẖ' => ['H', '\u0331']
  | 'ẗ' => ['T', '\u0308']
  | 'ẘ' => ['W', '\u030A']
  | 'ẙ' => ['Y', '\u030A']
  | 'ẚ' => ['A', 'ʾ']
  | 'ﬀ' => ['F', 'F']
  | 'ﬁ' => ['F', 'I']
  | 'ﬂ' => ['F', 'L']
  | 'ﬃ' => ['F', 'F', 'I']
  | 'ﬄ' => ['F', 'F', 'L']
  | 'ﬅ' => ['S', 'T']
  | 'ﬆ' => ['S', 'T']
  | c => [c.toUpper]

/-- The kelvin sign has an ASCII small letter; the dotted capital I has one with a mark. -/
def lower (c : Char) : List Char :=
  match c with
  | '\u212A' => ['k']
  | 'İ' => ['i', '\u0307']
  | c => [c.toLower]

def toUpper (s : List Char) : List Char := s.flatMap upper

def toLower (s : List Char) : List Char := s.flatMap lower

end CaretSql.Character
