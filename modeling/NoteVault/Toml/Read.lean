import NoteVault.Toml.Scalar

/-!
# Reading TOML

A document is a sequence of lines: entries, headers of tables, headers of arrays of
tables. `Toml.ofText` reads one and returns the entries of its outermost table. Line
ends are expected to be unified.

How deep arrays and tables can be nested in one another, and how many lines there can
be, is bounded by the length of the text.
-/

namespace NoteVault.Toml

/-- The text without the blanks at its beginning. -/
def skipSpaces (s : Text) : Text := s.dropWhile isSpace

/-- The text without a comment at its beginning, unless the comment holds a control
character. -/
def skipComment? (s : Text) : Option Text :=
  match s with
  | '#' :: rest =>
    let comment := rest.takeWhile (· != '\n')
    if comment.any (isRefused false) then none else some (rest.drop comment.length)
  | s => some s

/-- The text without blanks, line ends and comments at its beginning. -/
def skipGap? (inComment : Bool) : Text → Option Text
  | [] => some []
  | c :: rest =>
    if inComment then
      if c = '\n' then skipGap? false rest
      else if isRefused false c then none
      else skipGap? true rest
    else if isSpace c || c = '\n' then skipGap? false rest
    else if c = '#' then skipGap? true rest
    else some (c :: rest)

/-! ## Keys -/

/-- Whether a character can stand in a key without quotes. -/
def isKeyChar (c : Char) : Bool := c.isAlphanum || c = '_' || c = '-'

/-- One part of a key. -/
def keyPart? (s : Text) : Option (Text × Text) :=
  let bare := s.takeWhile isKeyChar
  if bare.isEmpty then lineString? s else some (bare, s.drop bare.length)

/-- A key: the parts before its last one, and that, with the blanks behind it. -/
def key? : (fuel : Nat) → Text → Option ((List Text × Text) × Text)
  | 0, _ => none
  | fuel + 1, s => do
    let (part, rest) ← keyPart? s
    match skipSpaces rest with
    | '.' :: rest =>
      let ((parts, last), rest) ← key? fuel (skipSpaces rest)
      return ((part :: parts, last), rest)
    | rest => return (([], part), rest)

/-- A key and the sign behind it. -/
def entryKey? (s : Text) : Option ((List Text × Text) × Text) := do
  let (key, rest) ← key? (s.length + 1) s
  return (key, skipSpaces (← Text.dropStart? "=" rest))

/-! ## Values -/

/-- A new value under a dotted key of a table that is written as a value. -/
def putInline? (path : List Text) (key : Text) (v : Toml) : Items → Option Items :=
  changeAt (fun item => if item matches .table _ _ then some item else none) .implied
    (putNew? key v) path

mutual
/-- A value. -/
def value : (fuel : Nat) → Text → Except TomlError (Toml × Text)
  | 0, _ => .error .malformed
  | fuel + 1, s =>
    match s with
    | '[' :: rest => do
      match ← orMalformed (skipGap? false rest) with
      | ']' :: rest => return (.array [], rest)
      | rest =>
        let (items, rest) ← arrayItems fuel rest
        return (.array items, rest)
    | '{' :: rest =>
      match skipSpaces rest with
      | '}' :: rest => .ok (.table [], rest)
      | rest => (tableItems fuel [] rest).map fun (items, rest) => (.table (ofItems items), rest)
    | s => scalar s

/-- The items of an array up to its closing bracket. -/
def arrayItems : (fuel : Nat) → Text → Except TomlError (List Toml × Text)
  | 0, _ => .error .malformed
  | fuel + 1, s => do
    let (v, rest) ← value fuel s
    match ← orMalformed (skipGap? false rest) with
    | ']' :: rest => return ([v], rest)
    | ',' :: rest =>
      match ← orMalformed (skipGap? false rest) with
      | ']' :: rest => return ([v], rest)
      | rest =>
        let (items, rest) ← arrayItems fuel rest
        return (v :: items, rest)
    | _ => throw .malformed

/-- The entries of a table up to its closing brace, put after those before them. -/
def tableItems : (fuel : Nat) → Items → Text → Except TomlError (Items × Text)
  | 0, _, _ => .error .malformed
  | fuel + 1, items, s => do
    let ((path, key), rest) ← orMalformed (entryKey? s)
    let (v, rest) ← value fuel rest
    let items ← orMalformed (putInline? path key v items)
    match skipSpaces rest with
    | '}' :: rest => return (items, rest)
    | ',' :: rest => tableItems fuel items (skipSpaces rest)
    | _ => throw .malformed
end

/-! ## Documents -/

/-- What has been read of a document. -/
structure Reading where
  /-- The outermost table. -/
  items : Items := []
  /-- The key of the last header. -/
  header : List Text := []
  /-- The number of headers. -/
  sectionNumber : Nat := 0

/-- A header, after its opening brackets. -/
def header? (closing : Text) (change : List Text → Text → Items → Option Items) (r : Reading)
    (s : Text) : Option (Reading × Text) := do
  let ((path, key), rest) ← key? (s.length + 1) (skipSpaces s)
  let rest ← Text.dropStart? closing rest
  let items ← change path key r.items
  return (⟨items, path ++ [key], r.sectionNumber + 1⟩, rest)

/-- An entry. -/
def entry (r : Reading) (s : Text) : Except TomlError (Reading × Text) := do
  let ((path, key), rest) ← orMalformed (entryKey? s)
  let (v, rest) ← value (s.length + 1) rest
  let items ← orMalformed (putValue? r.sectionNumber r.header path key v r.items)
  return ({ r with items }, rest)

/-- An entry or a header; a line may have neither. -/
def statement (r : Reading) (s : Text) : Except TomlError (Reading × Text) :=
  match s with
  | [] => .ok (r, [])
  | '\n' :: _ | '#' :: _ => .ok (r, s)
  | '[' :: '[' :: rest => orMalformed (header? "]]" appendTable? r rest)
  | '[' :: rest => orMalformed (header? "]" openTable? r rest)
  | _ => entry r s

/-- The lines of a document. -/
def readLines : (fuel : Nat) → Reading → Text → Except TomlError Reading
  | 0, _, _ => .error .malformed
  | fuel + 1, r, s => do
    let (r, rest) ← statement r (skipSpaces s)
    match ← orMalformed (skipComment? (skipSpaces rest)) with
    | [] => return r
    | '\n' :: rest => readLines fuel r rest
    | _ => throw .malformed

/-- The entries of the outermost table of a document. -/
def ofText (s : Text) : Except TomlError (List (Text × Toml)) :=
  (readLines (s.length + 1) {} s).map fun r => ofItems r.items

end NoteVault.Toml
