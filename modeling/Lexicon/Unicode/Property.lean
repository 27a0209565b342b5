/-
Character properties by name. A query names a property, or a property and one of its values; `lookup` answers with
the characters that have it. Names are compared loosely: case, blanks, hyphens, underscores and a leading "is" do
not count. A name alone is first a yes-or-no property, then a general category, then a script.
-/
import Lexicon.Unicode.CharSet
import Lexicon.Unicode.Category
import Lexicon.Unicode.Script
import Lexicon.Unicode.ScriptExtension
import Lexicon.Unicode.Binary
import Lexicon.Unicode.Age
import Lexicon.Unicode.Segmentation
import Lexicon.Unicode.OtherNames
import Lexicon.Unicode.Folding

namespace Lexicon.Unicode

/-- a property as asked for -/
inductive Query where
  /-- by name -/
  | named (name : List Char)
  /-- by the name of a property and that of a value -/
  | valued (name value : List Char)
  deriving DecidableEq

/-- why a query has no answer -/
inductive QueryFault where
  | unknownProperty
  | unknownValue
  deriving DecidableEq

/-- the letters and digits by which a name is compared -/
def looseLetters (name : List Char) : List Char :=
  (name.filter fun c => decide (c.toNat < 0x80) && c != ' ' && c != '_' && c != '-').map Char.toLower

/-- the loose spelling of a name -/
def loose (name : List Char) : String :=
  match name with
  | a :: b :: rest =>
    if (a == 'i' || a == 'I') && (b == 's' || b == 'S') then
      let stripped := looseLetters rest
      String.ofList (if stripped == ['c'] then ['i', 's', 'c'] else stripped)
    else String.ofList (looseLetters name)
  | _ => String.ofList (looseLetters name)

/-- whether a loose name is a word of the names -/
def isAmong (name : String) (names : String) : Bool := (wordsOf names).contains name.toList

/-- the row of a table that has the name -/
def row? (table : List (String × String)) (name : String) : Option String :=
  (table.find? fun r => isAmong name r.1).map Prod.snd

/-- the characters in the row of a table that has the name -/
def tabled? (table : List (String × String)) (name : String) : Option CharSet :=
  (row? table name).map CharSet.ofText

/-- the characters of several categories -/
def joined (names : String) : CharSet :=
  CharSet.ofRanges ((wordsOf names).flatMap fun n => ((tabled? categories (String.ofList n)).getD CharSet.empty).ranges)

/-- the general category with the name: none if there is no such category, an error if it has no characters -/
def category? (name : String) : Option (Except QueryFault CharSet) :=
  if name == "any" then some (.ok ⟨[(0, CharSet.last)]⟩)
  else if name == "ascii" then some (.ok ⟨[(0, 0x7F)]⟩)
  else if name == "assigned" then some (.ok ((tabled? categories "cn").getD CharSet.empty).complement)
  else if isAmong name "cs surrogate" then some (.error .unknownValue)
  else
    match tabled? categories name with
    | some s => some (.ok s)
    | none => (row? categoryGroups name).map fun names => .ok (joined names)

/-- the script with the name: none if there is no such script, an error if it has no table -/
def script? (name : String) : Option (Except QueryFault CharSet) :=
  if isAmong name bareScripts then some (.error .unknownValue)
  else (tabled? scripts name).map .ok

/-- the characters used with the script of the name -/
def scriptExtension? (name : String) : Option (Except QueryFault CharSet) :=
  match tabled? scriptExtensions name with
  | some s => some (.ok s)
  | none => script? name

/-- the characters assigned in the version of the name or before it -/
def age? (name : String) : Option (Except QueryFault CharSet) :=
  let earlier := ages.takeWhile fun r => !isAmong name r.1
  (row? ages name).map fun new =>
    .ok (CharSet.ofRanges (earlier.flatMap (fun r => (CharSet.ofText r.2).ranges) ++ (CharSet.ofText new).ranges))

/-- the properties with values -/
inductive ValuedProperty where
  | category
  | script
  | scriptExtension
  | age
  | clusterBreak
  | wordBreak
  | sentenceBreak
  deriving DecidableEq

/-- the property with values that has the name -/
def valuedProperty? (name : String) : Option ValuedProperty :=
  if isAmong name "gc generalcategory category" then some .category
  else if isAmong name "sc script" then some .script
  else if isAmong name "scx scriptextensions" then some .scriptExtension
  else if name == "age" then some .age
  else if isAmong name "gcb graphemeclusterbreak" then some .clusterBreak
  else if isAmong name "wb wordbreak" then some .wordBreak
  else if isAmong name "sb sentencebreak" then some .sentenceBreak
  else none

/-- whether some property has the name -/
def isPropertyName (name : String) : Bool :=
  (valuedProperty? name).isSome || (row? binaries name).isSome || isAmong name otherPropertyNames

/-- the characters for which the property has the value -/
def ValuedProperty.value? (p : ValuedProperty) (value : String) : Option (Except QueryFault CharSet) :=
  match p with
  | .category => category? value
  | .script => script? value
  | .scriptExtension => scriptExtension? value
  | .age => age? value
  | .clusterBreak => (tabled? clusterBreaks value).map .ok
  | .wordBreak => (tabled? wordBreaks value).map .ok
  | .sentenceBreak => (tabled? sentenceBreaks value).map .ok

/-- the names that mean a category although a property has them too -/
def categoryFirst (name : String) : Bool := isAmong name "cf sc lc"

/-- the characters with the property of the given loose name -/
def lookupName (name : String) : Except QueryFault CharSet :=
  if !categoryFirst name && isPropertyName name then
    match tabled? binaries name with
    | some s => .ok s
    | none => .error .unknownProperty
  else
    match category? name with
    | some answer => answer
    | none =>
      match script? name with
      | some answer => answer
      | none => .error .unknownProperty

/-- the characters that a query asks for -/
def lookup : Query → Except QueryFault CharSet
  | .named name => lookupName (loose name)
  | .valued name value =>
    match valuedProperty? (loose name) with
    | some p => (p.value? (loose value)).getD (.error .unknownValue)
    | none => if isPropertyName (loose name) then .error .unknownValue else .error .unknownProperty

/-- the set with the loose name, empty if there is none -/
def named (name : String) : CharSet :=
  match lookupName name with
  | .ok s => s
  | .error _ => CharSet.empty

/-- the decimal digits -/
def digitSet : CharSet := named "nd"

/-- the blanks: the characters with the white space property -/
def blankSet : CharSet :=
  ⟨[(0x9, 0xD), (0x20, 0x20), (0x85, 0x85), (0xA0, 0xA0), (0x1680, 0x1680), (0x2000, 0x200A), (0x2028, 0x2029),
    (0x202F, 0x202F), (0x205F, 0x205F), (0x3000, 0x3000)]⟩

/-- the characters of words: letters, marks, decimal digits, connectors and joiners -/
def wordSet : CharSet :=
  CharSet.ofRanges ((named "alphabetic").ranges ++ (named "m").ranges ++ digitSet.ranges ++ (named "pc").ranges ++
    (named "joincontrol").ranges)

/-- the letters -/
def alphabeticSet : CharSet := named "alphabetic"

/-- the numbers: decimal digits, letter numbers and others -/
def numberSet : CharSet := named "n"

/-- whether c is a blank -/
def isBlank (c : Char) : Bool := blankSet.contains c

/-- reads the code points of a group, with equality signs between them -/
def readGroup (word : List Char) : List Nat := (word.splitOn '=').filterMap Hex.value?

/-- the groups of characters with one case folding -/
def orbits : List (List Nat) := (wordsOf orbitText).map readGroup

/-- the set closed under case folding -/
def foldCase (s : CharSet) : CharSet := s.closeUnder orbits

end Lexicon.Unicode
