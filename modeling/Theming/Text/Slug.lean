import Theming.Text.Printable
import Theming.Text.Pinyin

/-!
# Slugs

A slug is a short lower-case name made of ASCII letters, digits, `-` and `_`, fit for a file
name or an address. It is made from any text by these steps:

1. white space around the text is removed;
2. `&` becomes `and` and `@` becomes `at`;
3. every other non-ASCII character is spelled in ASCII letters (`Ü` is `U`, `ж` is `zh`, a
   Han character is its Mandarin syllable followed by a space, `中` is `Zhong `), or dropped
   when it has no spelling here;
4. letters are put in lower case;
5. every character other than a letter, a digit, `-` or `_` becomes `-`, and runs of `-` become
   one;
6. `-` and `_` are removed from both ends.

Spellings are known for the Latin-1 supplement, Latin Extended-A, the letters of Latin
Extended-B and Latin Extended Additional that carry diacritics, Greek, Cyrillic, kana, Hangul
syllables, full-width ASCII, common punctuation and Han characters.
-/

set_option autoImplicit false

namespace Theming.Text.Slug

/-- Spellings of `U+00A0`–`U+00FF`. -/
def latin1 : List String :=
  [" ", "!", "C/", "PS", "$?", "Y=", "|", "SS", "\"", "(c)", "a", "<<", "!", "", "(r)", "-",
   "deg", "+-", "2", "3", "'", "u", "P", "*", ",", "1", "o", ">>", " 1/4", " 1/2", " 3/4", "?",
   "A", "A", "A", "A", "A", "A", "AE", "C", "E", "E", "E", "E", "I", "I", "I", "I",
   "D", "N", "O", "O", "O", "O", "O", "x", "O", "U", "U", "U", "U", "Y", "Th", "ss",
   "a", "a", "a", "a", "a", "a", "ae", "c", "e", "e", "e", "e", "i", "i", "i", "i",
   "d", "n", "o", "o", "o", "o", "o", "/", "o", "u", "u", "u", "u", "y", "th", "y"]

/-- Spellings of `U+0100`–`U+017F`. -/
def latinExtended : List String :=
  ["A", "a", "A", "a", "A", "a", "C", "c", "C", "c", "C", "c", "C", "c", "D", "d",
   "D", "d", "E", "e", "E", "e", "E", "e", "E", "e", "E", "e", "G", "g", "G", "g",
   "G", "g", "G", "g", "H", "h", "H", "h", "I", "i", "I", "i", "I", "i", "I", "i",
   "I", "i", "IJ", "ij", "J", "j", "K", "k", "k", "L", "l", "L", "l", "L", "l", "L",
   "l", "L", "l", "N", "n", "N", "n", "N", "n", "'n", "ng", "NG", "O", "o", "O", "o",
   "O", "o", "OE", "oe", "R", "r", "R", "r", "R", "r", "S", "s", "S", "s", "S", "s",
   "S", "s", "T", "t", "T", "t", "T", "t", "U", "u", "U", "u", "U", "u", "U", "u",
   "U", "u", "U", "u", "W", "w", "Y", "y", "Y", "Z", "z", "Z", "z", "Z", "z", "s"]

/-- Spellings of `U+0386`–`U+03CE`. -/
def greek : List String :=
  ["A", ";", "E", "E", "I", "", "O", "", "U", "O", "i",
   "A", "B", "G", "D", "E", "Z", "E", "Th", "I", "K", "L", "M", "N", "Ks", "O", "P", "R", "",
   "S", "T", "U", "Ph", "Kh", "Ps", "O", "I", "U", "a", "e", "e", "i", "u",
   "a", "b", "g", "d", "e", "z", "e", "th", "i", "k", "l", "m", "n", "x", "o", "p", "r", "s",
   "s", "t", "u", "ph", "kh", "ps", "o", "i", "u", "o", "u", "o"]

/-- Spellings of `U+0400`–`U+045F`. -/
def cyrillic : List String :=
  ["Ie", "Io", "Dj", "Gj", "Ie", "Dz", "I", "Yi", "J", "Lj", "Nj", "Tsh", "Kj", "I", "U", "Dzh",
   "A", "B", "V", "G", "D", "E", "Zh", "Z", "I", "I", "K", "L", "M", "N", "O", "P",
   "R", "S", "T", "U", "F", "Kh", "Ts", "Ch", "Sh", "Shch", "'", "Y", "'", "E", "Iu", "Ia",
   "a", "b", "v", "g", "d", "e", "zh", "z", "i", "i", "k", "l", "m", "n", "o", "p",
   "r", "s", "t", "u", "f", "kh", "ts", "ch", "sh", "shch", "'", "y", "'", "e", "iu", "ia",
   "ie", "io", "dj", "gj", "ie", "dz", "i", "yi", "j", "lj", "nj", "tsh", "kj", "i", "u", "dzh"]

/-- Spellings of `U+0180`–`U+024F`: the base letter of each letter with a diacritic. -/
def latinExtendedB : List String :=
  ["", "", "", "", "", "", "", "", "", "", "", "", "", "", "", "",
   "", "", "", "", "", "", "", "", "", "", "", "", "", "", "", "",
   "O", "o", "", "", "", "", "", "", "", "", "", "", "", "", "", "U",
   "u", "", "", "", "", "", "", "", "", "", "", "", "", "", "", "",
   "", "", "", "", "", "", "", "", "", "", "", "", "", "A", "a", "I",
   "i", "O", "o", "U", "u", "U", "u", "U", "u", "U", "u", "U", "u", "", "A", "a",
   "A", "a", "", "", "", "", "G", "g", "K", "k", "O", "o", "O", "o", "", "",
   "j", "", "", "", "G", "g", "", "", "N", "n", "A", "a", "", "", "", "",
   "A", "a", "A", "a", "E", "e", "E", "e", "I", "i", "I", "i", "O", "o", "O", "o",
   "R", "r", "R", "r", "U", "u", "U", "u", "S", "s", "T", "t", "", "", "H", "h",
   "", "", "", "", "", "", "A", "a", "E", "e", "O", "o", "O", "o", "O", "o",
   "O", "o", "Y", "y", "", "", "", "", "", "", "", "", "", "", "", "",
   "", "", "", "", "", "", "", "", "", "", "", "", "", "", "", ""]

/-- Spellings of `U+1E00`–`U+1EFF`: the base letter of each letter with diacritics. -/
def latinAdditional : List String :=
  ["A", "a", "B", "b", "B", "b", "B", "b", "C", "c", "D", "d", "D", "d", "D", "d",
   "D", "d", "D", "d", "E", "e", "E", "e", "E", "e", "E", "e", "E", "e", "F", "f",
   "G", "g", "H", "h", "H", "h", "H", "h", "H", "h", "H", "h", "I", "i", "I", "i",
   "K", "k", "K", "k", "K", "k", "L", "l", "L", "l", "L", "l", "L", "l", "M", "m",
   "M", "m", "M", "m", "N", "n", "N", "n", "N", "n", "N", "n", "O", "o", "O", "o",
   "O", "o", "O", "o", "P", "p", "P", "p", "R", "r", "R", "r", "R", "r", "R", "r",
   "S", "s", "S", "s", "S", "s", "S", "s", "S", "s", "T", "t", "T", "t", "T", "t",
   "T", "t", "U", "u", "U", "u", "U", "u", "U", "u", "U", "u", "V", "v", "V", "v",
   "W", "w", "W", "w", "W", "w", "W", "w", "W", "w", "X", "x", "X", "x", "Y", "y",
   "Z", "z", "Z", "z", "Z", "z", "h", "t", "w", "y", "", "", "", "", "", "",
   "A", "a", "A", "a", "A", "a", "A", "a", "A", "a", "A", "a", "A", "a", "A", "a",
   "A", "a", "A", "a", "A", "a", "A", "a", "E", "e", "E", "e", "E", "e", "E", "e",
   "E", "e", "E", "e", "E", "e", "E", "e", "I", "i", "I", "i", "O", "o", "O", "o",
   "O", "o", "O", "o", "O", "o", "O", "o", "O", "o", "O", "o", "O", "o", "O", "o",
   "O", "o", "O", "o", "U", "u", "U", "u", "U", "u", "U", "u", "U", "u", "U", "u",
   "U", "u", "Y", "y", "Y", "y", "Y", "y", "Y", "y", "", "", "", "", "", ""]

/-- Spellings of the kana from `U+3041` (hiragana) and `U+30A1` (katakana) on. -/
def kana : List String :=
  ["a", "a", "i", "i", "u", "u", "e", "e", "o", "o", "ka", "ga", "ki", "gi", "ku", "gu",
   "ke", "ge", "ko", "go", "sa", "za", "si", "zi", "su", "zu", "se", "ze", "so", "zo", "ta", "da",
   "ti", "di", "tu", "tu", "du", "te", "de", "to", "do", "na", "ni", "nu", "ne", "no", "ha", "ba",
   "pa", "hi", "bi", "pi", "hu", "bu", "pu", "he", "be", "pe", "ho", "bo", "po", "ma", "mi", "mu",
   "me", "mo", "ya", "ya", "yu", "yu", "yo", "yo", "ra", "ri", "ru", "re", "ro", "wa", "wa", "wi",
   "we", "wo", "n", "vu"]

/-- Spellings of the katakana `U+30F5`–`U+30FA` that have no hiragana. -/
def kanaExtra : List String := ["ka", "ke", "va", "vi", "ve", "vo"]

/-- The lead consonants of Hangul syllables. -/
def hangulLeads : List String :=
  ["g", "gg", "n", "d", "dd", "r", "m", "b", "bb", "s", "ss", "", "j", "jj", "c", "k", "t", "p",
   "h"]

/-- The vowels of Hangul syllables. -/
def hangulVowels : List String :=
  ["a", "ae", "ya", "yae", "eo", "e", "yeo", "ye", "o", "wa", "wae", "oe", "yo", "u", "weo", "we",
   "wi", "yu", "eu", "yi", "i"]

/-- The closing consonants of Hangul syllables, the first one empty. -/
def hangulTails : List String :=
  ["", "g", "gg", "gs", "n", "nj", "nh", "d", "l", "lg", "lm", "lb", "ls", "lt", "lp", "lh", "m",
   "b", "bs", "s", "ss", "ng", "j", "c", "k", "t", "p", "h"]

/-- The spelling of a Hangul syllable `U+AC00`–`U+D7A3`: the syllable's number is its lead
consonant times 588, its vowel times 28 and its closing consonant, each spelled in turn. -/
def hangul (n : Nat) : String :=
  let k := n - 0xAC00
  hangulLeads.getD (k / 588) "" ++ hangulVowels.getD (k / 28 % 21) "" ++
    hangulTails.getD (k % 28) ""

/-- Spellings of common punctuation from `U+2010` on. -/
def punctuation : List (Nat × String) :=
  [(0x2010, "-"), (0x2011, "-"), (0x2012, "-"), (0x2013, "-"), (0x2014, "--"), (0x2015, "--"),
   (0x2018, "'"), (0x2019, "'"), (0x201A, ","), (0x201C, "\""), (0x201D, "\""), (0x201E, ",,"),
   (0x2022, "*"), (0x2026, "..."), (0x20AC, "EUR")]

/-- The ASCII spelling of a character: ASCII characters spell themselves, characters without
a known spelling spell nothing. -/
def spell (c : Char) : String :=
  let n := c.toNat
  let pick (table : List String) (first : Nat) : String := table.getD (n - first) ""
  if n < 0x80 then c.toString
  else if 0xA0 ≤ n && n ≤ 0xFF then pick latin1 0xA0
  else if 0x100 ≤ n && n ≤ 0x17F then pick latinExtended 0x100
  else if 0x386 ≤ n && n ≤ 0x3CE then pick greek 0x386
  else if 0x400 ≤ n && n ≤ 0x45F then pick cyrillic 0x400
  else if n == 0x490 then "G"
  else if n == 0x491 then "g"
  else if 0x180 ≤ n && n ≤ 0x24F then pick latinExtendedB 0x180
  else if 0x1E00 ≤ n && n ≤ 0x1EFF then pick latinAdditional 0x1E00
  else if 0x3041 ≤ n && n ≤ 0x3094 then pick kana 0x3041
  else if 0x30A1 ≤ n && n ≤ 0x30F4 then pick kana 0x30A1
  else if 0x30F5 ≤ n && n ≤ 0x30FA then pick kanaExtra 0x30F5
  else if 0xAC00 ≤ n && n ≤ 0xD7A3 then hangul n
  else if 0xFF01 ≤ n && n ≤ 0xFF5E then (Char.ofNat (n - 0xFEE0)).toString
  else if 0x3400 ≤ n && n ≤ 0x9FFF then Pinyin.spelling c
  else (punctuation.lookup n).getD ""

/-- Whether a character may stay in a slug. -/
def allowed (c : Char) : Bool := c.isAlphanum || c == '-' || c == '_'

/-- Replaces each character that may not stay by `-`, and each run of `-` by one. -/
def dashed (cs : List Char) : List Char :=
  (cs.foldl (fun acc c =>
    let c := if allowed c then c else '-'
    match acc with
    | '-' :: _ => if c == '-' then acc else c :: acc
    | _ => c :: acc) []).reverse

/-- The slug of a text. -/
def make (s : String) : String :=
  let s := Printable.trim s
  let spelled := String.join <| s.toList.map fun c =>
    if c == '&' then "and" else if c == '@' then "at" else spell c
  let cs := dashed (spelled.toList.map Char.toLower)
  let isEdge (c : Char) : Bool := c == '-' || c == '_'
  String.ofList ((cs.dropWhile isEdge).reverse.dropWhile isEdge).reverse

end Theming.Text.Slug
