import SchemaTyping.Text.Case

/-!
# Naming conventions

A property `first_name`, an accessor `getFirstNameAttribute`, a model
`BlogPost` and its table `blog_posts` are one name in several notations. A
name is a list of words; the notations differ in how they join them, and
`Naming.words` finds them again: a word ends at an underscore, a hyphen or a
blank, and where a capital follows a small letter or a digit.
-/

namespace SchemaTyping.Naming

open Text

/-- Whether the character parts two words without belonging to either. -/
def isSeparator (c : Char) : Bool := c == '_' || c == '-' || isBlank c

/-- Whether a capital after this character starts a new word. -/
def endsBeforeCapital (c : Char) : Bool := isLower c || c.isDigit

/-- The words of a text after a part of it: `word` is the word that has been
begun, in reverse order, and `before` whether a capital would end it. -/
def wordsFrom (word : List Char) (before : Bool) :
    List Char → List (List Char)
  | [] => if word.isEmpty then [] else [word.reverse]
  | c :: rest =>
    if isSeparator c then
      if word.isEmpty then wordsFrom [] false rest
      else word.reverse :: wordsFrom [] false rest
    else if isUpper c && before && !word.isEmpty then
      word.reverse :: wordsFrom [c] (endsBeforeCapital c) rest
    else wordsFrom (c :: word) (endsBeforeCapital c) rest

/-- **The words of a name.** -/
def words (name : List Char) : List (List Char) := wordsFrom [] false name

/-- A word with its first character in upper form. -/
def capitalize : List Char → List Char
  | [] => []
  | c :: rest => upperForm c ++ rest

/-- A text with its first character in lower form. -/
def uncapitalize : List Char → List Char
  | [] => []
  | c :: rest => lowerForm c ++ rest

/-- The words capitalised and run together: `first_name` is `FirstName`. -/
def studly (name : List Char) : List Char := (words name).flatMap capitalize

/-- Like `studly`, with a small first letter: `first_name` is `firstName`. -/
def camel (name : List Char) : List Char := uncapitalize (studly name)

/-- The words in small letters with underscores between them: `BlogPost` is
`blog_post`. -/
def snake (name : List Char) : List Char :=
  ['_'].intercalate ((words name).map lower)

/-- Whether a word in small letters ends in a consonant and `y`. -/
def endsInConsonantY (word : List Char) : Bool :=
  match word.reverse with
  | 'y' :: c :: _ => !"aeiou".toList.contains c
  | _ => false

/-- **The plural of an English word**, by its ending alone. -/
def plural (word : List Char) : List Char :=
  let small := lower word
  if endsInConsonantY small then word.dropLast ++ "ies".toList
  else if ["s", "x", "z", "ch", "sh"].any (endsWith small ·.toList) then
    word ++ "es".toList
  else word ++ ['s']

/-- The name of a class without its namespace. -/
def classBasename (className : List Char) : List Char :=
  afterLast '\\' className

/-- **The table of a model**, unless the model names one: the words of the
class name in small letters, the last of them in the plural. -/
def tableFor (className : List Char) : List Char :=
  let name := snake (classBasename className)
  match cutLast '_' name with
  | some (head, last) => head ++ '_' :: plural last
  | none => plural name

/-- The name of the method that computes a property in the older notation:
`first_name` is computed by `getFirstNameAttribute`. -/
def legacyAccessor (property : List Char) : List Char :=
  "get".toList ++ studly property ++ "Attribute".toList

end SchemaTyping.Naming
