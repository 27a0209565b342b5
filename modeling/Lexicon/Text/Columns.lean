/-
Columns that a text takes on a terminal. A character takes one column, a wide one two, and a mark that joins the
character before it none; control characters count one. A picture can be made of several characters: a skin tone, a
joiner, a pair of flag letters or the tags of a region are shown in the columns of one picture. A mark behind a
character can ask for it as a picture or as text, and letters written as one take fewer columns than apart.

A text is measured from its end, so that what stands behind a character (`Behind`) is known when the character is
measured. A character can join what was already counted and take a column of it back, so `step` adds an integer.
What an escape for colours writes behind its control character takes no column.
-/
import Lexicon.Text.Ligature
import Lexicon.Unicode.Width

namespace Lexicon.Columns

/-! ## characters -/

/-- the characters two columns wide -/
def wideSet : CharSet := CharSet.ofText Unicode.wideText

/-- the characters without a column of their own -/
def zeroSet : CharSet := CharSet.ofText Unicode.zeroText

/-- the characters that show as pictures on their own -/
def pictureSet : CharSet := CharSet.ofText Unicode.pictureText

/-- the characters that can be asked to show as pictures -/
def askableSet : CharSet := CharSet.ofText Unicode.askableText

/-- the pictures that take one column when they are asked to show as text -/
def textualSet : CharSet := CharSet.ofText Unicode.textualText

/-- the pictures that a skin tone can follow -/
def tonedSet : CharSet := CharSet.ofText Unicode.tonedText

/-- whether c is a skin tone -/
def isTone (c : Char) : Bool := decide (0x1F3FB ≤ c.toNat) && decide (c.toNat ≤ 0x1F3FF)

/-- whether c is a letter of which two make a flag -/
def isFlagLetter (c : Char) : Bool := decide (0x1F1E6 ≤ c.toNat) && decide (c.toNat ≤ 0x1F1FF)

/-- whether c is the tag of a small letter -/
def isTagLetter (c : Char) : Bool := decide (0xE0061 ≤ c.toNat) && decide (c.toNat ≤ 0xE007A)

/-- whether c is the tag of a digit -/
def isTagDigit (c : Char) : Bool := decide (0xE0030 ≤ c.toNat) && decide (c.toNat ≤ 0xE0039)

/-- the columns of a character on its own; one Khmer sign is as wide as the three letters it is made of -/
def ofChar (c : Char) : Nat :=
  if c = '\u17d8' then 3 else if zeroSet.contains c then 0 else if wideSet.contains c then 2 else 1

/-! ## what stands behind a character -/

/-- the beginning of a picture, or of letters written as one, seen from its end -/
inductive Seen where
  | plain
  /-- a picture -/
  | picture
  /-- a skin tone -/
  | tone
  /-- one flag letter -/
  | flag
  /-- two flag letters or more -/
  | flags
  /-- a joiner, and a picture behind it -/
  | joined
  /-- the frame of a key, and a joiner with a picture behind it -/
  | keycap
  /-- flag letters, and a joiner with a picture behind them: the first, an even number, an odd number -/
  | joinedFlag
  | evenFlags
  | oddFlags
  /-- the last tag of a region and tags in front of it, letters first, and a joiner with a picture behind them -/
  | tags (letters digits : Nat)
  /-- letters that end ligatures; what is left of them stands in front -/
  | letters (left : List Ligature)
  deriving DecidableEq

/-- what stands behind a character, as far as it matters for the columns of the character -/
structure Behind where
  seen : Seen
  /-- whether the next character is asked for as a picture -/
  asksPicture : Bool
  /-- whether the next character is asked for as text -/
  asksText : Bool
  deriving DecidableEq

/-- what was seen, if it is letters -/
def Seen.ifLetters : Seen → Seen
  | .letters left => .letters left
  | _ => .plain

/-- whether what was seen is joined to a picture and can be joined by one -/
def Seen.takesPicture : Seen → Bool
  | .joined => true
  | .keycap => true
  | _ => false

namespace Behind

/-- behind it stands nothing that matters but what was seen -/
def of (seen : Seen) : Behind := ⟨seen, false, false⟩

/-- nothing that matters -/
def plain : Behind := of .plain

/-- what a character is to the one before it, if nothing behind it matters -/
def ofChar (c : Char) : Behind :=
  if isTone c then of .tone
  else if isFlagLetter c then of .flag
  else if pictureSet.contains c then of .picture
  else if (Ligature.begunBy c).isEmpty then plain
  else of (.letters (Ligature.begunBy c))

/-- the mark that asks for a picture, in front of others -/
def askPicture (b : Behind) : Behind :=
  match b.seen with
  | .letters left => ⟨.letters left, true, b.asksText⟩
  | s => ⟨if s.takesPicture then s else .plain, true, false⟩

/-- the mark that asks for text, in front of others -/
def askText (b : Behind) : Behind := ⟨b.seen.ifLetters, false, true⟩

/-- without the question for a picture, which what stands in front cannot answer -/
def dropPicture (b : Behind) : Behind := ⟨b.seen.ifLetters, false, b.asksText⟩

end Behind

/-! ## measuring -/

/-- the columns and the place of a tag that joins the tags behind it -/
def tagStep? (letters digits : Nat) (c : Char) : Option (Int × Behind) :=
  if digits = 0 ∧ letters < 6 ∧ isTagLetter c then some (0, .of (.tags (letters + 1) 0))
  else if digits = 0 ∧ letters < 5 ∧ isTagDigit c then some (0, .of (.tags letters 1))
  else if 0 < digits ∧ digits < 3 ∧ isTagDigit c then some (0, .of (.tags letters (digits + 1)))
  else if ((digits = 0 ∧ 3 ≤ letters) ∨ digits = 3) ∧ c.toNat = 0x1F3F4 then some (0, .of .picture)
  else none

/-- the columns and the place of a character in front of a joiner with a picture behind it -/
def joinedStep? (c : Char) : Option (Int × Behind) :=
  if c = '\u20e3' then some (0, .of .keycap)
  else if isFlagLetter c then some (1, .of .joinedFlag)
  else if isTone c then some (0, .of .tone)
  else if c.toNat = 0xE007F then some (0, .of (.tags 0 0))
  else if pictureSet.contains c then some (0, .of .picture)
  else none

/-- the columns and the place of a character in front of letters that end ligatures -/
def lettersStep? (left : List Ligature) (c : Char) : Option (Int × Behind) :=
  if 0 < Ligature.savedBy c left then some ((ofChar c : Int) - Ligature.savedBy c left, .plain)
  else if (Ligature.before c left).isEmpty then none
  else some (ofChar c, .of (.letters (Ligature.before c left)))

/-- the columns and the place of a character that joins what was seen behind it -/
def Seen.step? (c : Char) : Seen → Option (Int × Behind)
  | .plain => none
  | .picture => if c = '\u200d' then some (0, .of .joined) else none
  | .tone =>
    if tonedSet.contains c then some (0, .of .picture)
    else if c = '\u200d' then some (0, .of .joined)
    else none
  | .flag => if isFlagLetter c then some (1, .of .flags) else none
  | .flags =>
    if isFlagLetter c then some (1, .of .flags) else if c = '\u200d' then some (0, .of .joined) else none
  | .joined => joinedStep? c
  | .keycap => none
  | .joinedFlag => if isFlagLetter c then some (-1, .of .evenFlags) else none
  | .evenFlags =>
    if isFlagLetter c then some (3, .of .oddFlags) else if c = '\u200d' then some (0, .of .joined) else none
  | .oddFlags =>
    if isFlagLetter c then some (-1, .of .evenFlags) else if c = '\u200d' then some (0, .of .joined) else none
  | .tags n digits => tagStep? n digits c
  | .letters left => lettersStep? left c

/-- the columns of a character that no mark asks for, and what it is to a character in front of it -/
def unaskedStep (c : Char) (b : Behind) : Int × Behind :=
  if c.toNat ≤ 0xA0 then (1, .plain)
  else if c = '\ufe0f' then (0, b.askPicture)
  else if c = '\ufe0e' then (0, b.askText)
  else if b.asksText ∧ textualSet.contains c then (1, .plain)
  else (b.seen.step? c).getD (ofChar c, .ofChar c)

/-- the columns that a character adds in front of others, and what it is to a character in front of it -/
def step (c : Char) (b : Behind) : Int × Behind :=
  if b.asksPicture then
    if askableSet.contains c then (if b.seen.takesPicture then 0 else 2, .of .picture)
    else unaskedStep c b.dropPicture
  else unaskedStep c b

/-- the columns of a text, and what it is to a character in front of it -/
def measure : List Char → Int × Behind
  | [] => (0, .plain)
  | c :: cs =>
    let (n, b) := measure cs
    let (m, b) := step c b
    (n + m, b)

/-! ## escapes -/

/-- what c counts where it is written out as part of an escape: one if it shows -/
def inEscape (c : Char) : Nat :=
  if c.toNat < 0x20 ∨ (0x7F ≤ c.toNat ∧ c.toNat < 0xA0) then 0 else min 1 (ofChar c)

/-- where a text stands with respect to an escape for colours -/
inductive EscapeState where
  | outside
  | started
  | inside
  deriving DecidableEq

/-- the columns of the parts of escapes that a terminal does not show -/
def hiddenFrom : EscapeState → List Char → Nat
  | _, [] => 0
  | .outside, c :: cs => hiddenFrom (if c = '\x1b' then .started else .outside) cs
  | .started, c :: cs => if c = '[' then 1 + hiddenFrom .inside cs else hiddenFrom .outside cs
  | .inside, c :: cs => inEscape c + hiddenFrom (if c = 'm' then .outside else .inside) cs

/-- the columns of a text -/
def ofText (text : List Char) : Nat := (measure text).1.toNat - hiddenFrom .outside text

end Lexicon.Columns
