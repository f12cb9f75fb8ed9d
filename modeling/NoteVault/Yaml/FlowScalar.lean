import NoteVault.Text.Hex
import NoteVault.Yaml.Fold

/-!
# Plain and quoted scalars of YAML

The three ways to write a scalar within lines. A plain scalar has no marks around it
and ends where something else may begin; in single quotes a quote is written twice;
in double quotes there are escapes. All three go over line ends, and each gap between
words is folded.

The functions follow the characters one by one. They carry the gap since the last
word and the column, which matters only after a line break, and return the text of
the scalar and what comes after it.
-/

namespace NoteVault.Yaml

/-! ## Plain scalars -/

/-- What was read as a plain scalar. -/
structure PlainRun where
  /-- The text of the scalar. -/
  text : Text
  /-- What comes after it and the gap behind it. -/
  rest : Text
  /-- A line ended in the gap behind it. -/
  endsLine : Bool

/-- Whether a plain scalar ends before such a text. -/
def endsPlain (inFlow : Bool) : Text → Bool
  | [] => true
  | c :: rest =>
    c = ':' && startsGap rest
      || inFlow && (c = ',' || c = '[' || c = ']' || c = '{' || c = '}')

/-- Whether a colon stands where a flow collection cannot have one. -/
def isStrayColon : Text → Bool
  | ':' :: c :: _ => c = ',' || c = '?' || c = '[' || c = ']' || c = '{' || c = '}'
  | _ => false

/-- A plain scalar, the last word of which was followed by a gap so far. In the block
context its lines are indented by at least `indent`; a tab in the indentation is
refused. -/
def plainFrom (inFlow : Bool) (indent : Nat) (gap : Option Gap) (column : Nat) (s : Text) :
    Option PlainRun :=
  let stop : PlainRun := ⟨[], s, (gap.map (·.isBroken)).getD false⟩
  match s with
  | [] => some stop
  | c :: rest =>
    if isGap c then
      let before := gap.getD {}
      if c = '\t' ∧ before.isBroken ∧ column < indent then none
      else plainFrom inFlow indent (some (before.push c)) (if isBreak c then 0 else column + 1) rest
    else
      let isFirst := gap.isSome
      if isFirst && (c = '#' || column = 0 && startsWithMark s
          || (gap.getD {}).isBroken && !inFlow && column < indent) then some stop
      else if inFlow && isStrayColon s then none
      else if endsPlain inFlow s then some stop
      else do
        let run ← plainFrom inFlow indent none (column + 1) rest
        return { run with text := (gap.getD {}).fold ++ c :: run.text }

/-! ## Quoted scalars -/

/-- A scalar in single quotes, after the first of them. -/
def singleQuotedFrom (gap : Gap) (column : Nat) : Text → Option (Text × Text)
  | [] => none
  | '\'' :: '\'' :: rest => do
    let (text, after) ← singleQuotedFrom {} (column + 2) rest
    return (gap.fold ++ '\'' :: text, after)
  | c :: rest =>
    if isGap c then singleQuotedFrom (gap.push c) (if isBreak c then 0 else column + 1) rest
    else if column = 0 && startsWithMark (c :: rest) then none
    else if c = '\'' then some (gap.fold, rest)
    else do
      let (text, after) ← singleQuotedFrom {} (column + 1) rest
      return (gap.fold ++ c :: text, after)

/-- What the letter after a backslash stands for, if that is one character. -/
def escapedChar? : Char → Option Char
  | '0' => some '\x00'
  | 'a' => some '\x07'
  | 'b' => some '\x08'
  | 't' | '\t' => some '\t'
  | 'n' => some '\n'
  | 'v' => some '\x0b'
  | 'f' => some '\x0c'
  | 'r' => some '\r'
  | 'e' => some '\x1b'
  | ' ' => some ' '
  | '"' => some '"'
  | '/' => some '/'
  | '\\' => some '\\'
  | 'N' => some (Char.ofNat 0x85)
  | '_' => some (Char.ofNat 0xA0)
  | 'L' => some (Char.ofNat 0x2028)
  | 'P' => some (Char.ofNat 0x2029)
  | _ => none

/-- How many hexadecimal digits follow the letter after a backslash. -/
def escapeWidth? : Char → Option Nat
  | 'x' => some 2
  | 'u' => some 4
  | 'U' => some 8
  | _ => none

/-- A scalar in double quotes, after the first of them. The first `skip` characters
are the digits of an escape that has been read. -/
def doubleQuotedFrom (gap : Gap) (column skip : Nat) : Text → Option (Text × Text)
  | [] => none
  | c :: rest =>
    match skip with
    | skip + 1 => doubleQuotedFrom gap (column + 1) skip rest
    | 0 =>
      if isGap c then
        doubleQuotedFrom (gap.push c) (if isBreak c then 0 else column + 1) 0 rest
      else if column = 0 && startsWithMark (c :: rest) then none
      else if c = '"' then some (gap.fold, rest)
      else if c = '\\' then
        match rest with
        | [] => none
        | d :: more =>
          if isBreak d then do
            let (text, after) ← doubleQuotedFrom .escaped 0 0 more
            return (gap.fold ++ text, after)
          else
            match escapedChar? d, escapeWidth? d with
            | some e, _ => do
              let (text, after) ← doubleQuotedFrom {} (column + 2) 0 more
              return (gap.fold ++ e :: text, after)
            | none, some width => do
              let (e, _) ← Text.readHexChar? width more
              let (text, after) ← doubleQuotedFrom {} (column + 2) width more
              return (gap.fold ++ e :: text, after)
            | none, none => none
      else do
        let (text, after) ← doubleQuotedFrom {} (column + 1) 0 rest
        return (gap.fold ++ c :: text, after)

end NoteVault.Yaml
