/-!
# Shell words

Command arguments with the quoting rules of a POSIX shell: splitting a text into words, and
writing words so that splitting gives them back. A word that starts with a number sign opens a
comment, which ends with the line.
-/

namespace MemoryInspector.Text.ShellWords

/-- Where a scan stands between two characters. -/
inductive State where
  | delimiter
  | delimiterBackslash
  | unquoted
  | unquotedBackslash
  | singleQuoted
  | doubleQuoted
  | doubleQuotedBackslash
  | comment
deriving DecidableEq, Repr

def isSeparator (c : Char) : Bool := c == ' ' || c == '\t' || c == '\n'

/-- Characters that a backslash protects between double quotes. -/
def isProtected (c : Char) : Bool := c == '$' || c == '\x60' || c == '"' || c == '\\'

/-- The words of the rest of a text, where `word` holds the characters of the current word in
reverse. -/
def scan : State → (word : List Char) → List Char → Option (List (List Char))
  | .delimiter, _, [] => some []
  | .delimiter, word, c :: rest =>
    if c = '\'' then scan .singleQuoted word rest
    else if c = '"' then scan .doubleQuoted word rest
    else if c = '\\' then scan .delimiterBackslash word rest
    else if isSeparator c then scan .delimiter word rest
    else if c = '#' then scan .comment word rest
    else scan .unquoted (c :: word) rest
  | .delimiterBackslash, word, [] => some [('\\' :: word).reverse]
  | .delimiterBackslash, word, c :: rest =>
    if c = '\n' then scan .delimiter word rest else scan .unquoted (c :: word) rest
  | .unquoted, word, [] => some [word.reverse]
  | .unquoted, word, c :: rest =>
    if c = '\'' then scan .singleQuoted word rest
    else if c = '"' then scan .doubleQuoted word rest
    else if c = '\\' then scan .unquotedBackslash word rest
    else if isSeparator c then (scan .delimiter [] rest).map (word.reverse :: ·)
    else scan .unquoted (c :: word) rest
  | .unquotedBackslash, word, [] => some [('\\' :: word).reverse]
  | .unquotedBackslash, word, c :: rest =>
    if c = '\n' then scan .unquoted word rest else scan .unquoted (c :: word) rest
  | .singleQuoted, _, [] => none
  | .singleQuoted, word, c :: rest =>
    if c = '\'' then scan .unquoted word rest else scan .singleQuoted (c :: word) rest
  | .doubleQuoted, _, [] => none
  | .doubleQuoted, word, c :: rest =>
    if c = '"' then scan .unquoted word rest
    else if c = '\\' then scan .doubleQuotedBackslash word rest
    else scan .doubleQuoted (c :: word) rest
  | .doubleQuotedBackslash, _, [] => none
  | .doubleQuotedBackslash, word, c :: rest =>
    if c = '\n' then scan .doubleQuoted word rest
    else if isProtected c then scan .doubleQuoted (c :: word) rest
    else scan .doubleQuoted (c :: '\\' :: word) rest
  | .comment, _, [] => some []
  | .comment, word, c :: rest =>
    if c = '\n' then scan .delimiter word rest else scan .comment word rest

/-- The words of a text, unless a quote stays open. -/
def split? (text : String) : Option (List String) :=
  (scan .delimiter [] text.toList).map (·.map String.ofList)

/-- Characters for which a word is put in quotes. -/
def isSpecial (c : Char) : Bool :=
  c ∈ ['|', '&', ';', '<', '>', '(', ')', '$', '\x60', '\\', '"', ' ', '\t', '*', '?', '[', '#',
    '˜', '=', '%', '\n', '\'']

/-- The characters of a word between single quotes; a single quote closes them, stands behind a
backslash, and opens them again. -/
def quoted : List Char → List Char
  | [] => ['\'']
  | c :: rest => if c = '\'' then '\'' :: '\\' :: '\'' :: '\'' :: quoted rest else c :: quoted rest

/-- A text that splits into this one word. -/
def quote (word : String) : String :=
  if word.isEmpty || word.toList.any isSpecial then String.ofList ('\'' :: quoted word.toList)
  else word

def join (words : List String) : String := String.intercalate " " (words.map quote)

example : split? "  '*(a *)0x10'   \"unsigned long\" x#y # z" =
    some ["*(a *)0x10", "unsigned long", "x#y"] := by decide +kernel

example : split? "'a b" = none := by decide +kernel

example : join ["it's", "x", ""] = "'it'\\''s' x ''" := by decide +kernel

end MemoryInspector.Text.ShellWords
