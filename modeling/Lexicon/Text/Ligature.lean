/-
Letters written as one. In some scripts a letter is written as one with those behind it, and together they take fewer
columns than apart. A text is measured from its end; so a ligature is known by its last letter first, and `before?`
says what is left of it in front of a character.
-/
import Lexicon.Unicode.CharSet
import Lexicon.Unicode.Width

namespace Lexicon

/-- letters written as one: the letters from the last to the first, the marks that may stand between them, and the
columns they save -/
structure Ligature where
  letters : List CharSet
  marks : CharSet
  saved : Nat
  deriving DecidableEq

namespace Ligature

/-- the joiner that asks for a ligature -/
def joiner : CharSet := CharSet.singleton '\u200d'

/-- the marks that do not come between Arabic letters: those that join the letter before them, and formats -/
def passedSet : CharSet := CharSet.ofText Unicode.passedText

/-- the marks that do not come between other letters: those that never show, and the joiner -/
def ignoredSet : CharSet :=
  ⟨[(0x34F, 0x34F), (0x17B4, 0x17B5), (0x180B, 0x180D), (0x180F, 0x180F), (0x200D, 0x200D), (0xFE00, 0xFE0F),
    (0xE0100, 0xE01EF)]⟩

/-- the Arabic letters lam -/
def lamSet : CharSet :=
  ⟨[(0x644, 0x644), (0x6B5, 0x6B8), (0x76A, 0x76A), (0x8A6, 0x8A6), (0x8C7, 0x8C7)]⟩

/-- the Arabic letters alef -/
def alefSet : CharSet :=
  ⟨[(0x622, 0x623), (0x625, 0x625), (0x627, 0x627), (0x671, 0x673), (0x675, 0x675), (0x773, 0x774), (0x870, 0x882)]⟩

/-- the Khmer letters that can stand below another one -/
def subscriptSet : CharSet :=
  ⟨[(0x1780, 0x1782), (0x1784, 0x1787), (0x1789, 0x178C), (0x178E, 0x1793), (0x1795, 0x1798), (0x179B, 0x179D),
    (0x17A0, 0x17A0), (0x17A2, 0x17A2), (0x17A7, 0x17A7), (0x17AB, 0x17AC), (0x17AF, 0x17AF)]⟩

/-- the Tifinagh consonants -/
def tifinaghSet : CharSet := ⟨[(0x2D31, 0x2D65), (0x2D6F, 0x2D6F)]⟩

/-- lam and alef -/
def lamAlef : Ligature := ⟨[alefSet, lamSet], passedSet, 1⟩

/-- the Hebrew letters alef and lamed -/
def alefLamed : Ligature := ⟨[CharSet.singleton '\u05dc', joiner, CharSet.singleton '\u05d0'], ignoredSet, 1⟩

/-- a Khmer letter below another one -/
def subscript : Ligature := ⟨[subscriptSet, CharSet.singleton '\u17d2'], ignoredSet, 1⟩

/-- the Buginese letter a with the vowel i, and the letter ya -/
def buginese : Ligature :=
  ⟨[CharSet.singleton '\u1a10', joiner, CharSet.singleton '\u1a17', CharSet.singleton '\u1a15'], ignoredSet, 1⟩

/-- two Tifinagh consonants -/
def consonants : Ligature := ⟨[tifinaghSet, joiner, tifinaghSet], ignoredSet, 1⟩

/-- two Tifinagh consonants with the sign that joins them -/
def joinedConsonants : Ligature := ⟨[tifinaghSet, CharSet.singleton '\u2d7f', tifinaghSet], ignoredSet, 2⟩

/-- two tone letters of Lisu -/
def tones : Ligature := ⟨[⟨[(0xA4FC, 0xA4FD)]⟩, ⟨[(0xA4F8, 0xA4FB)]⟩], ignoredSet, 1⟩

/-- two Orkhon letters -/
def orkhon : Ligature := ⟨[⟨[(0x10C03, 0x10C03)]⟩, joiner, ⟨[(0x10C32, 0x10C32)]⟩], ignoredSet, 1⟩

/-- all ligatures -/
def all : List Ligature :=
  [lamAlef, alefLamed, subscript, buginese, consonants, joinedConsonants, tones, orkhon]

/-- the ligature without its last letter, if that can be c -/
def endingIn? (c : Char) (l : Ligature) : Option Ligature :=
  match l.letters with
  | [] => none
  | s :: rest => if s.contains c then some { l with letters := rest } else none

/-- the ligatures with c as their last letter, without it -/
def begunBy (c : Char) : List Ligature := all.filterMap (endingIn? c)

/-- what is left of a ligature in front of c -/
def before? (c : Char) (l : Ligature) : Option Ligature :=
  match l.endingIn? c with
  | some rest => some rest
  | none => if l.marks.contains c then some l else none

/-- the ligatures still open in front of c -/
def before (c : Char) (ls : List Ligature) : List Ligature := ls.filterMap (before? c)

/-- the columns saved by the ligatures of which only the first letter is missing, if c is that letter -/
def savedBy (c : Char) (ls : List Ligature) : Nat :=
  ((ls.filterMap (endingIn? c)).filter fun l => l.letters.isEmpty).foldl (fun n l => max n l.saved) 0

end Ligature

end Lexicon
