/-!
# Lower case

Storage modes, levels, truth words and the names of environment variables are
compared without regard to case, always against words of ASCII letters.

## Main Definitions

- `lowerChar`, `lower`: the lower-case form of a character and of a text

## Design Notes

Only two kinds of characters have an ASCII lower-case form of their own: the
capitals `A` to `Z`, and the Kelvin sign U+212A, whose lower case is `k`.  Every
other character either is an ASCII character already or keeps a character
outside ASCII in its lower-case form, so leaving it as it is changes no
comparison with an ASCII word.
-/

namespace FeatureLock.Text

/-- The lower-case form of a character, exact wherever that form is ASCII. -/
def lowerChar (c : Char) : Char :=
  if c = '\u212A' then 'k' else c.toLower

/-- The lower-case form of a text, for comparison with words of ASCII letters. -/
def lower (s : String) : String :=
  String.ofList (s.toList.map lowerChar)

end FeatureLock.Text
