import ModalLexer.Unicode.Property
import ModalLexer.Unicode.Script

/-! # Segmentation of texts

Where a text may be divided into clusters of characters, words and sentences is told by classes of
characters. Most of the classes follow from categories, scripts and other properties.
-/

namespace ModalLexer.Unicode

def emojiModifiers : CharSet := ⟨[(0x1f3fb, 0x1f3ff)]⟩

def regionalIndicators : CharSet := ⟨[(0x1f1e6, 0x1f1ff)]⟩

/-- The format characters that stand before numbers. -/
def numberSigns : CharSet := prependedMarks.diff (.single '\u070f')

def clusterExtenders : CharSet := extenders.union emojiModifiers

def clusterControls : CharSet :=
  ((charsOf [.zl, .zp, .cc, .cf]).union (ignorables.diff assigned)).diff
    (.unionAll [.ofChars ['\r', '\n'], joinControls, prependedMarks, extenders])

/-- The spacing marks that do not belong to the cluster of the character before them. -/
def separateMarks : CharSet := ⟨[
  (0x102b, 0x102c), (0x1038, 0x1038), (0x1062, 0x1064), (0x1067, 0x106d), (0x1083, 0x1083),
  (0x1087, 0x108c), (0x108f, 0x108f), (0x109a, 0x109c), (0x1a61, 0x1a61), (0x1a63, 0x1a64),
  (0xaa7b, 0xaa7b), (0xaa7d, 0xaa7d), (0x11720, 0x11721)]⟩

def clusterSpacingMarks : CharSet :=
  ((charsOf [.mc]).union (.ofChars ['\u0e33', '\u0eb3'])).diff (extenders.union separateMarks)

/-- The letters that stand before the letter to which they belong. -/
def prependedLetters : CharSet := ⟨[
  (0xd4e, 0xd4e), (0x111c2, 0x111c3), (0x113d1, 0x113d1), (0x1193f, 0x1193f), (0x11941, 0x11941),
  (0x11a3a, 0x11a3a), (0x11a84, 0x11a89), (0x11d46, 0x11d46), (0x11f02, 0x11f02)]⟩

def leadingConsonants : CharSet := ⟨[(0x1100, 0x115f), (0xa960, 0xa97c)]⟩

def syllableVowels : CharSet :=
  ⟨[(0x1160, 0x11a7), (0xd7b0, 0xd7c6), (0x16d63, 0x16d63), (0x16d67, 0x16d6a)]⟩

def trailingConsonants : CharSet := ⟨[(0x11a8, 0x11ff), (0xd7cb, 0xd7fb)]⟩

/-- The code points of the syllables without a trailing consonant. Each is followed by those of the
27 syllables that have one. -/
def openSyllableCodes : List Nat := (List.range 399).map fun i => 0xac00 + 28 * i

/-- The class of characters in the division of a text into clusters that has a name. -/
def clusterBreak? (name : String) : Option CharSet :=
  match name with
  | "cr" => some (.single '\r')
  | "lf" => some (.single '\n')
  | "control" | "cn" => some clusterControls
  | "extend" | "ex" => some clusterExtenders
  | "zwj" => some (.single '\u200d')
  | "regionalindicator" | "ri" => some regionalIndicators
  | "prepend" | "pp" => some (prependedMarks.union prependedLetters)
  | "spacingmark" | "sm" => some clusterSpacingMarks
  | "l" => some leadingConsonants
  | "v" => some syllableVowels
  | "t" => some trailingConsonants
  | "lv" => some ⟨openSyllableCodes.map fun n => (n, n)⟩
  | "lvt" => some ⟨openSyllableCodes.map fun n => (n + 1, n + 27)⟩
  | _ => none

def wordExtenders : CharSet := clusterExtenders.union (charsOf [.mc])

def wordFormats : CharSet :=
  (charsOf [.cf]).diff
    (.unionAll [.single '\u200b', joinControls, prependedMarks, wordExtenders])

def wordNumbers : CharSet := .unionAll [charsOf [.nd], .single '\u066b', numberSigns]

/-- The characters of a script, by its name. -/
def scriptChars (name : String) : CharSet := ((script? name).map (·.chars)).getD .empty

def katakanaWordChars : CharSet :=
  (scriptChars "katakana").union ⟨[
    (0x3031, 0x3035), (0x309b, 0x309c), (0x30a0, 0x30a0), (0x30fc, 0x30fc), (0xff70, 0xff70)]⟩

def hebrewLetters : CharSet := (scriptChars "hebrew").inter (charsOf [.lo])

/-- The signs beside alphabetic characters that are treated as letters. -/
def letterSigns : CharSet := ⟨[
  (0x2c2, 0x2c5), (0x2d2, 0x2d7), (0x2de, 0x2df), (0x2e5, 0x2eb), (0x2ed, 0x2ed), (0x2ef, 0x2ff),
  (0x55a, 0x55c), (0x55e, 0x55e), (0x58a, 0x58a), (0x5f3, 0x5f3), (0x70f, 0x70f), (0xa708, 0xa716),
  (0xa720, 0xa721), (0xa789, 0xa78a), (0xab5b, 0xab5b)]⟩

/-- The characters of scripts that are written without spaces between words. -/
def unspacedChars : CharSet := ⟨[
  (0xe01, 0xe3a), (0xe40, 0xe4e), (0xe81, 0xe82), (0xe84, 0xe84), (0xe86, 0xe8a), (0xe8c, 0xea3),
  (0xea5, 0xea5), (0xea7, 0xebd), (0xec0, 0xec4), (0xec6, 0xec6), (0xec8, 0xece), (0xedc, 0xedf),
  (0x1000, 0x103f), (0x1050, 0x108f), (0x109a, 0x109f), (0x1780, 0x17d3), (0x17d7, 0x17d7),
  (0x17dc, 0x17dd), (0x1950, 0x196d), (0x1970, 0x1974), (0x1980, 0x19ab), (0x19b0, 0x19c9),
  (0x19da, 0x19da), (0x19de, 0x19df), (0x1a20, 0x1a5e), (0x1a60, 0x1a7c), (0x1aa0, 0x1aad),
  (0xa9e0, 0xa9ef), (0xa9fa, 0xa9fe), (0xaa60, 0xaac2), (0xaadb, 0xaadf), (0x11700, 0x1171a),
  (0x1171d, 0x1172b), (0x1173a, 0x1173b), (0x1173f, 0x11746)]⟩

def wordLetters : CharSet :=
  (alphabeticChars.union letterSigns).diff
    (.unionAll [ideographs, scriptChars "hiragana", katakanaWordChars, unspacedChars,
      wordExtenders, hebrewLetters])

/-- The class of characters in the division of a text into words that has a name. -/
def wordBreak? (name : String) : Option CharSet :=
  match name with
  | "cr" => some (.single '\r')
  | "lf" => some (.single '\n')
  | "newline" | "nl" => some (.ofChars ['\x0b', '\x0c', '\u0085', '\u2028', '\u2029'])
  | "extend" => some wordExtenders
  | "zwj" => some (.single '\u200d')
  | "regionalindicator" | "ri" => some regionalIndicators
  | "format" | "fo" => some wordFormats
  | "katakana" | "ka" => some katakanaWordChars
  | "hebrewletter" | "hl" => some hebrewLetters
  | "aletter" | "le" => some wordLetters
  | "singlequote" | "sq" => some (.single '\x27')
  | "doublequote" | "dq" => some (.single '\x22')
  | "midnumlet" | "mb" =>
    some (.ofChars ['.', '\u2018', '\u2019', '\u2024', '\ufe52', '\uff07', '\uff0e'])
  | "midletter" | "ml" =>
    some (.ofChars [':', '\u00b7', '\u0387', '\u055f', '\u05f4', '\u2027', '\ufe13', '\ufe55',
      '\uff1a'])
  | "midnum" | "mn" =>
    some (.ofChars [',', ';', '\u037e', '\u0589', '\u060c', '\u060d', '\u066c', '\u07f8', '\u2044',
      '\ufe10', '\ufe14', '\ufe50', '\ufe54', '\uff0c', '\uff1b'])
  | "numeric" | "nu" => some wordNumbers
  | "extendnumlet" | "ex" => some ((charsOf [.pc]).union (.single '\u202f'))
  | "wsegspace" => some ((charsOf [.zs]).diff (.ofChars ['\u00a0', '\u2007', '\u202f']))
  | _ => none

def sentenceExtenders : CharSet :=
  .unionAll [extenders, charsOf [.mc], .single '\u200d']

def sentenceSeparators : CharSet := .ofChars ['\u0085', '\u2028', '\u2029']

/-- The lowercase letters of scripts in which sentences begin with an uppercase letter. -/
def sentenceLower : CharSet :=
  lowercase.diff (extenders.union ⟨[(0x10d0, 0x10fa), (0x10fd, 0x10ff)]⟩)

/-- The uppercase letters of scripts in which sentences begin with one. -/
def sentenceUpper : CharSet :=
  (uppercase.union (charsOf [.lt])).diff ⟨[(0x1c90, 0x1cba), (0x1cbd, 0x1cbf)]⟩

/-- The full stops, which need not end a sentence. -/
def fullStops : CharSet := .ofChars ['.', '\u2024', '\ufe52', '\uff0e']

/-- The quotation marks that are not told apart as opening and closing ones. -/
def neutralQuotes : CharSet := ⟨[
  (0x22, 0x22), (0x27, 0x27), (0x275b, 0x2760), (0x2e00, 0x2e01), (0x2e06, 0x2e08),
  (0x2e0b, 0x2e0b), (0x1f676, 0x1f678)]⟩

/-- The punctuation after which a sentence goes on. -/
def sentenceContinuers : CharSet := ⟨[
  (0x2c, 0x2d), (0x3a, 0x3b), (0x37e, 0x37e), (0x55d, 0x55d), (0x60c, 0x60d), (0x7f8, 0x7f8),
  (0x1802, 0x1802), (0x1808, 0x1808), (0x2013, 0x2014), (0x3001, 0x3001), (0xfe10, 0xfe11),
  (0xfe13, 0xfe14), (0xfe31, 0xfe32), (0xfe50, 0xfe51), (0xfe54, 0xfe55), (0xfe58, 0xfe58),
  (0xfe63, 0xfe63), (0xff0c, 0xff0d), (0xff1a, 0xff1b), (0xff64, 0xff64)]⟩

/-- The class of characters in the division of a text into sentences that has a name. -/
def sentenceBreak? (name : String) : Option CharSet :=
  match name with
  | "cr" => some (.single '\r')
  | "lf" => some (.single '\n')
  | "sep" | "se" => some sentenceSeparators
  | "extend" | "ex" => some sentenceExtenders
  | "format" | "fo" =>
    some ((charsOf [.cf]).diff (.unionAll [joinControls, sentenceExtenders, numberSigns]))
  | "sp" => some (spaces.diff (sentenceSeparators.union (.ofChars ['\r', '\n'])))
  | "lower" | "lo" => some sentenceLower
  | "upper" | "up" => some sentenceUpper
  | "oletter" | "le" =>
    some ((alphabeticChars.union (.single '\u05f3')).diff
      (.unionAll [sentenceLower, sentenceUpper, sentenceExtenders]))
  | "numeric" | "nu" =>
    some (.unionAll [charsOf [.nd], .range '\u066b' '\u066c', numberSigns])
  | "aterm" | "at" => some fullStops
  | "sterm" | "st" => some (sentenceTerminals.diff fullStops)
  | "scontinue" | "sc" => some sentenceContinuers
  | "close" | "cl" => some ((charsOf [.ps, .pe, .pi, .pf]).union neutralQuotes)
  | _ => none

end ModalLexer.Unicode
