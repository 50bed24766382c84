/-!
# Locales

A locale is a language tag: a language, perhaps a script and a region, variants, and extensions that
a single character opens.  Tags are kept in one form, whatever case they were written in.
-/

namespace Phrasebook

structure Locale where
  language : String
  script : Option String
  region : Option String
  variants : List String
  /-- Extensions by the character that opens them, ascending, private subtags last. -/
  extensions : List (Char × List String)
deriving DecidableEq

namespace Locale

def und : Locale := ⟨"und", none, none, [], []⟩

instance : Inhabited Locale := ⟨und⟩

def subtags (l : Locale) : List String :=
  l.language :: l.script.toList ++ l.region.toList ++ l.variants ++
    l.extensions.flatMap fun e => String.singleton e.1 :: e.2

def text (l : Locale) : String := "-".intercalate l.subtags

inductive TagError where
  | language
  | subtag
  | wrongExtension
  | repeatedExtension
deriving DecidableEq

def TagError.message : TagError → String
  | .language => "The given language subtag is invalid"
  | .subtag => "Invalid subtag"
  | .wrongExtension => "Invalid extension"
  | .repeatedExtension => "Duplicated extension"

def isLetter (c : Char) : Bool := c.isAlpha

def isLetterOrDigit (c : Char) : Bool := c.isAlphanum

def hasShape (lo hi : Nat) (p : Char → Bool) (s : List Char) : Bool :=
  lo ≤ s.length && s.length ≤ hi && s.all p

def lower (s : List Char) : String := String.ofList (s.map Char.toLower)

def upper (s : List Char) : String := String.ofList (s.map Char.toUpper)

def title : List Char → String
  | [] => ""
  | c :: cs => String.ofList (c.toUpper :: cs.map Char.toLower)

def language? (s : List Char) : Option String :=
  if hasShape 2 3 isLetter s then some (lower s) else none

def script? (s : List Char) : Option String :=
  if hasShape 4 4 isLetter s then some (title s) else none

def region? (s : List Char) : Option String :=
  if hasShape 2 2 isLetter s || hasShape 3 3 Char.isDigit s then some (upper s) else none

/-- Five to eight letters or digits, or four of them that begin with a digit. -/
def variant? (s : List Char) : Option String :=
  if hasShape 5 8 isLetterOrDigit s ||
      (hasShape 4 4 isLetterOrDigit s && (s.head?.map Char.isDigit).getD false) then
    some (lower s)
  else none

/-- One byte long: the form of a subtag that opens an extension. -/
def isSingle (s : List Char) : Bool :=
  match s with
  | [c] => c.toNat < 128
  | _ => false

def insertAscending (name : String) (names : List String) : List String :=
  let before := names.takeWhile (· < name)
  before ++ name :: names.drop before.length

/-- Read the head of the subtags, if it has the form that is wanted. -/
def readOptional (read : List Char → Option String) :
    List (List Char) → Option String × List (List Char)
  | [] => (none, [])
  | s :: rest =>
    match read s with
    | some name => (some name, rest)
    | none => (none, s :: rest)

/-- The variants at the head of the subtags, each once and in ascending order, up to a subtag that
may open an extension.  A subtag that is no variant is an error, or within an extension the end. -/
def readVariants (within : Bool) (found : List String) :
    List (List Char) → Except TagError (List String × List (List Char))
  | [] => .ok (found, [])
  | s :: rest =>
    if isSingle s then .ok (found, s :: rest)
    else
      match variant? s with
      | none => if within then .ok (found, s :: rest) else .error .subtag
      | some v =>
        if found.contains v then .error .subtag
        else readVariants within (insertAscending v found) rest

/-- A language, perhaps a script and a region, and variants: a locale without extensions. -/
def readLanguagePart (within : Bool) :
    List (List Char) → Except TagError (Locale × List (List Char))
  | [] => .error .language
  | s :: rest =>
    match language? s with
    | none => .error .language
    | some language => do
      let (script, rest) := readOptional script? rest
      let (region, rest) := readOptional region? rest
      let (variants, rest) ← readVariants within [] rest
      return (⟨language, script, region, variants, []⟩, rest)

/-- The subtags at the head that a test accepts, in lower case, and the rest. -/
def spanWhile (p : List Char → Bool) (subtags : List (List Char)) :
    List String × List (List Char) :=
  ((subtags.takeWhile p).map lower, subtags.dropWhile p)

abbrev Keywords := List (String × List String)

/-- A repeated key keeps its first value, and the value `true` says no more than the key alone. -/
def Keywords.insert (key : String) (value : List String) (ks : Keywords) : Keywords :=
  if ks.any (·.1 == key) then ks
  else
    let before := ks.takeWhile (·.1 < key)
    before ++ (key, value.filter (· != "true")) :: ks.drop before.length

/-- The form of an attribute, and of one subtag of a value. -/
def isValue (s : List Char) : Bool := hasShape 3 8 isLetterOrDigit s

/-- The key of a keyword about how text is written: a letter or digit, then a letter. -/
def isKey (s : List Char) : Bool :=
  match s with
  | [a, b] => isLetterOrDigit a && isLetter b
  | _ => false

/-- Keywords about how text is written, at most `fuel` of them. -/
def readKeywords (found : Keywords) : Nat → List (List Char) → Keywords × List (List Char)
  | fuel + 1, k :: rest =>
    if isKey k then
      let (value, rest) := spanWhile isValue rest
      readKeywords (found.insert (lower k) value) fuel rest
    else (found, k :: rest)
  | _, rest => (found, rest)

def readUnicode (subtags : List (List Char)) : List String × List (List Char) :=
  let (attributes, rest) := spanWhile isValue subtags
  let (keywords, rest) := readKeywords [] rest.length rest
  ((attributes.foldr insertAscending []).eraseDups ++ keywords.flatMap fun k => k.1 :: k.2, rest)

/-- The key of a field about how text was converted: a letter, then a digit. -/
def isFieldKey (s : List Char) : Bool :=
  match s with
  | [a, b] => isLetter a && b.isDigit
  | _ => false

/-- Fields about how text was converted, at most `fuel` of them.  Each has a value. -/
def readFields (found : Keywords) :
    Nat → List (List Char) → Except TagError (Keywords × List (List Char))
  | fuel + 1, k :: rest =>
    if isFieldKey k then
      let (value, rest) := spanWhile isValue rest
      if value.isEmpty then .error .wrongExtension
      else readFields (found.insert (lower k) value) fuel rest
    else .ok (found, k :: rest)
  | _, rest => .ok (found, rest)

/-- How text was converted: the language part it comes from, if one is given, then fields.  All of
it is in lower case. -/
def readConversion (subtags : List (List Char)) :
    Except TagError (List String × List (List Char)) := do
  let (source, rest) ←
    if (subtags.head?.bind language?).isSome then do
      let (l, rest) ← readLanguagePart true subtags
      pure (l.subtags.map fun s => lower s.toList, rest)
    else pure ([], subtags)
  let (fields, rest) ← readFields [] rest.length rest
  return (source ++ fields.flatMap fun f => f.1 :: (if f.2.isEmpty then ["true"] else f.2), rest)

/-- The subtags of another extension: all that are from two to eight bytes long, but those with
another character than letters and digits count for nothing. -/
def readOther (subtags : List (List Char)) : List String × List (List Char) :=
  let fits (s : List Char) : Bool :=
    let size := (String.ofList s).utf8ByteSize
    2 ≤ size && size ≤ 8
  (((subtags.takeWhile fits).filter (·.all isLetterOrDigit)).map lower, subtags.dropWhile fits)

/-- The subtags of the extension that `c` opens.  It has at least one. -/
def readExtension (c : Char) (subtags : List (List Char)) :
    Except TagError (List String × List (List Char)) := do
  let (own, rest) ←
    if c = 'u' then pure (readUnicode subtags)
    else if c = 't' then readConversion subtags
    else if c = 'x' then pure (spanWhile (hasShape 1 8 isLetterOrDigit) subtags)
    else pure (readOther subtags)
  if own.isEmpty then throw .wrongExtension else return (own, rest)

/-- Extensions, at most `fuel` of them.  A letter or digit opens each. -/
def readExtensions (found : List (Char × List String)) :
    Nat → List (List Char) → Except TagError (List (Char × List String))
  | _, [] => .ok found
  | fuel + 1, [c] :: rest => do
    let c := c.toLower
    if !isLetterOrDigit c then .error .wrongExtension
    else if found.any (·.1 == c) then .error .repeatedExtension
    else
      let (own, rest) ← readExtension c rest
      let before := found.takeWhile fun e => e.1 != 'x' && (e.1 < c || c == 'x')
      readExtensions (before ++ (c, own) :: found.drop before.length) fuel rest
  | _, _ => .error .wrongExtension

def parse (tag : String) : Except TagError Locale := do
  let (l, rest) ← readLanguagePart false (tag.toList.splitOn '-')
  return { l with extensions := ← readExtensions [] rest.length rest }

/-- The value of a keyword of the `u` extension, if it is a single subtag. -/
def keyword? (l : Locale) (key : String) : Option String := do
  let (_, subtags) ← l.extensions.find? fun e => e.1 == 'u'
  match (subtags.dropWhile (· != key)).tail.takeWhile (2 < ·.length) with
  | [value] => some value
  | _ => none

end Locale

end Phrasebook
