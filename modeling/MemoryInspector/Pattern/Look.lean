import MemoryInspector.Pattern.Property.Binary

/-!
# Conditions on places in a text

What a pattern can ask of a place between two characters: that it is the start or the end of the
text, of a line or of a word. Lines and words come in two kinds each.
-/

namespace MemoryInspector.Pattern

/-- What ends a line: a newline alone, or also a carriage return, with one end for the two of them
together. -/
inductive LineEnding where
  | newline
  | anyReturn
deriving DecidableEq, Repr

/-- What words are made of: characters of all scripts or of ASCII. -/
inductive Alphabet where
  | unicode
  | ascii
deriving DecidableEq, Repr

/-- The characters of words of all scripts. -/
def wordCharacters : CodePoints := Property.wordRule.members

/-- The ASCII characters of words. -/
def asciiWordCharacters : CodePoints := .ofRanges [⟨48, 57⟩, ⟨65, 90⟩, ⟨95, 95⟩, ⟨97, 122⟩]

def Alphabet.wordSet : Alphabet → CodePoints
  | unicode => wordCharacters
  | ascii => asciiWordCharacters

inductive Look where
  | textStart
  | textEnd
  | lineStart (ending : LineEnding)
  | lineEnd (ending : LineEnding)
  | wordBoundary (alphabet : Alphabet)
  | noWordBoundary (alphabet : Alphabet)
  | wordStart (alphabet : Alphabet)
  | wordEnd (alphabet : Alphabet)
  /-- Nothing of a word stands before the place. -/
  | wordStartHalf (alphabet : Alphabet)
  /-- Nothing of a word stands behind the place. -/
  | wordEndHalf (alphabet : Alphabet)
deriving DecidableEq, Repr

namespace Look

/-- Whether a condition holds between two characters; there is none at an end of the text. -/
def holdsBetween (before after : Option Char) : Look → Bool
  | textStart => before.isNone
  | textEnd => after.isNone
  | lineStart .newline => before.all (· == '\n')
  | lineEnd .newline => after.all (· == '\n')
  | lineStart .anyReturn =>
    before.all (· == '\n') || (before == some '\r' && after != some '\n')
  | lineEnd .anyReturn => after.all (· == '\r') || (after == some '\n' && before != some '\r')
  | wordBoundary alphabet => inWord alphabet before != inWord alphabet after
  | noWordBoundary alphabet => inWord alphabet before == inWord alphabet after
  | wordStart alphabet => !inWord alphabet before && inWord alphabet after
  | wordEnd alphabet => inWord alphabet before && !inWord alphabet after
  | wordStartHalf alphabet => !inWord alphabet before
  | wordEndHalf alphabet => !inWord alphabet after
where
  inWord (alphabet : Alphabet) (c : Option Char) : Bool :=
    c.any (alphabet.wordSet.contains ·.toNat)

/-- Whether a condition holds at a position of a text. -/
def holds (look : Look) (text : Array Char) (position : Nat) : Bool :=
  look.holdsBetween (if position = 0 then none else text[position - 1]?) text[position]?

end Look

end MemoryInspector.Pattern
