/-!
# Names of characters

The names of the characters of ASCII that can be seen. A name counts in any case.
-/

namespace Tenancy.Text

/-- The names of signs, in the order of their codes between the digits and the letters. -/
def signNames : List (Char × String) := [
    (' ', "SPACE"), ('!', "EXCLAMATION MARK"), ('"', "QUOTATION MARK"), ('#', "NUMBER SIGN"),
    ('$', "DOLLAR SIGN"), ('%', "PERCENT SIGN"), ('&', "AMPERSAND"), ('\'', "APOSTROPHE"),
    ('(', "LEFT PARENTHESIS"), (')', "RIGHT PARENTHESIS"), ('*', "ASTERISK"), ('+', "PLUS SIGN"),
    (',', "COMMA"), ('-', "HYPHEN-MINUS"), ('.', "FULL STOP"), ('/', "SOLIDUS"), (':', "COLON"),
    (';', "SEMICOLON"), ('<', "LESS-THAN SIGN"), ('=', "EQUALS SIGN"), ('>', "GREATER-THAN SIGN"),
    ('?', "QUESTION MARK"), ('@', "COMMERCIAL AT"), ('[', "LEFT SQUARE BRACKET"),
    ('\\', "REVERSE SOLIDUS"), (']', "RIGHT SQUARE BRACKET"), ('^', "CIRCUMFLEX ACCENT"),
    ('_', "LOW LINE"), ('\x60', "GRAVE ACCENT"), ('\x7b', "LEFT CURLY BRACKET"),
    ('|', "VERTICAL LINE"), ('\x7d', "RIGHT CURLY BRACKET"), ('~', "TILDE")]

/-- The names of the digits. -/
def digitNames : List String :=
  ["ZERO", "ONE", "TWO", "THREE", "FOUR", "FIVE", "SIX", "SEVEN", "EIGHT", "NINE"]

/-- The name of a character of ASCII that can be seen. -/
def charName? (c : Char) : Option String :=
  if c.isDigit then (digitNames[c.toNat - 48]?).map ("DIGIT " ++ ·)
  else if c.isUpper then some ("LATIN CAPITAL LETTER " ++ String.ofList [c])
  else if c.isLower then some ("LATIN SMALL LETTER " ++ String.ofList [c.toUpper])
  else signNames.lookup c

/-- The character of ASCII with a name. -/
def namedChar? (name : List Char) : Option Char :=
  ((List.range 128).map Char.ofNat).find? fun c =>
    (charName? c).any (·.toList = name.map Char.toUpper)

end Tenancy.Text
