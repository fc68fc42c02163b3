import StompBroker.Text.Utf8
import StompBroker.Yaml.Scalar

/-!
# Reading YAML

`Yaml.read?` reads one document of block and flow collections, scalars in all styles, anchors and
aliases, into a tree. Of a mapping the last value of a key counts, and a key is a text however it is
written. A text without a document is `Document.empty`.

The readers hold a `Cursor`: the characters to come, the column of the first of them, and the
anchors met so far. A node in a block belongs to a parent at a certain column and ends where a line
starts at that column or before it; `crossed` tells whether a line end lies between a node and what
precedes it.
-/

set_option autoImplicit false

namespace StompBroker.Yaml

/-- Where a reader stands. -/
structure Cursor where
  rest : List Char
  column : Nat := 0
  anchors : List (String × Json) := []

/-- What a reader makes of the front of a text. -/
abbrev Reading := Option (Json × Cursor)

/-- The cursor behind some characters of one line. -/
def Cursor.move (cursor : Cursor) (count : Nat) (rest : List Char) : Cursor :=
  { cursor with rest, column := cursor.column + count }

/-- A blank within a line. -/
def isBlank (c : Char) : Bool := c == ' ' || c == '\t'

/-- A line, a word or the text ends here. -/
def endsWord : List Char → Bool
  | [] => true
  | c :: _ => isBlank c || c == '\n'

/-- A character that shapes flow collections. -/
def isFlowMark (c : Char) : Bool := [',', '[', ']', '\x7b', '\x7d'].contains c

/-- A line that separates documents. -/
def isMarker (marker : List Char) (text : List Char) : Bool :=
  match marker.isPrefixOf? text with
  | some rest => endsWord rest
  | none => false

/-- A document ends or begins in this line. -/
def isBoundary (text : List Char) : Bool :=
  isMarker ['-', '-', '-'] text || isMarker ['.', '.', '.'] text

/-- The text is at its end, or at a line between documents. -/
def Cursor.atEnd (cursor : Cursor) : Bool :=
  cursor.rest.isEmpty || (cursor.column == 0 && isBoundary cursor.rest)

/-- Skips blanks, comments and line ends: the column, whether a line end was crossed, and the rest.
In a block no tab may stand where a line starts, nor anywhere unless `tabs`. -/
def skipFrom (inFlow inComment crossed tabs : Bool) (column : Nat) :
    List Char → Nat × Bool × List Char
  | [] => (column, crossed, [])
  | c :: rest =>
    if c = '\n' then skipFrom inFlow false true inFlow 0 rest
    else if inComment then skipFrom inFlow true crossed tabs (column + 1) rest
    else if c = ' ' ∨ (c = '\t' ∧ tabs) then
      skipFrom inFlow false crossed tabs (column + 1) rest
    else if c = '#' then skipFrom inFlow true crossed tabs (column + 1) rest
    else (column, crossed, c :: rest)

/-- Skips what separates tokens; tells whether a line end was crossed. -/
def Cursor.skip (cursor : Cursor) (inFlow tabs : Bool) : Bool × Cursor :=
  let (column, crossed, rest) := skipFrom inFlow false false tabs cursor.column cursor.rest
  (crossed, { cursor with rest, column })

/-! ### Scalars of one style -/

/-- Line ends within a scalar: one is a space, and more are one line end less. -/
def folded (breaks : Nat) : List Char :=
  if breaks ≤ 1 then [' '] else List.replicate (breaks - 1) '\n'

/-- Skips blanks and line ends: the number of line ends, the column, and the rest. -/
def skipBreaks (breaks column : Nat) : List Char → Nat × Nat × List Char
  | [] => (breaks, column, [])
  | c :: rest =>
    if c = '\n' then skipBreaks (breaks + 1) 0 rest
    else if isBlank c then skipBreaks breaks (column + 1) rest
    else (breaks, column, c :: rest)

/-- The part of a plain scalar in one line, without blanks at its end; `gap` holds the blanks that
were met after `taken`, both the last character first. -/
def plainLine (inFlow : Bool) (taken gap : List Char) : List Char → List Char × List Char
  | [] => (taken, [])
  | c :: rest =>
    if c = '\n' then (taken, gap.reverse ++ c :: rest)
    else if isBlank c then plainLine inFlow taken (c :: gap) rest
    else if c = '#' ∧ !gap.isEmpty then (taken, gap.reverse ++ c :: rest)
    else if c = ':' ∧ endsWord rest then (taken, gap.reverse ++ c :: rest)
    else if inFlow ∧ isFlowMark c then (taken, gap.reverse ++ c :: rest)
    else plainLine inFlow (c :: (gap ++ taken)) [] rest

/-- A plain scalar may start like this. -/
def startsPlain (inFlow : Bool) : List Char → Bool
  | [] => false
  | c :: rest =>
    if c = '-' then !endsWord rest && !(inFlow && (rest.head?.any isFlowMark))
    else if c = '?' ∨ c = ':' then !inFlow && !endsWord rest
    else
      !([',', '[', ']', '\x7b', '\x7d', '#', '&', '*', '!', '|', '>', '\'', '"', '%', '@', '\x60',
        '\t', '\n', ' '].contains c)

/-- The lines of a plain scalar behind its first one, for a parent at column `parent`. -/
def plainRest (fuel : Nat) (inFlow : Bool) (parent : Int) (taken : List Char) (cursor : Cursor) :
    List Char × Nat × Cursor :=
  match fuel with
  | 0 => (taken, 0, cursor)
  | fuel + 1 =>
    let (breaks, column, rest) := skipBreaks 0 cursor.column cursor.rest
    if breaks = 0 ∨ rest.isEmpty ∨ rest.head? = some '#' ∨ (column = 0 ∧ isBoundary rest) ∨
        (!inFlow ∧ (column : Int) ≤ parent) then (taken, 0, cursor)
    else
      let (line, after) := plainLine inFlow [] [] rest
      if line.isEmpty then (taken, 0, cursor)
      else
        let next := { cursor with rest := after, column := column + (rest.length - after.length) }
        let (taken, lines, cursor) :=
          plainRest fuel inFlow parent (line ++ (folded breaks).reverse ++ taken) next
        (taken, lines + 1, cursor)

/-- A plain scalar, and how many more lines it goes on for. -/
def plainScalar (inFlow : Bool) (parent : Int) (cursor : Cursor) : String × Nat × Cursor :=
  let (line, rest) := plainLine inFlow [] [] cursor.rest
  let first := cursor.move (cursor.rest.length - rest.length) rest
  let (taken, lines, after) := plainRest (rest.length + 1) inFlow parent line first
  (String.ofList taken.reverse, lines, after)

/-- A scalar in single quotes, behind the first one; the number of line ends in it. -/
def singleQuoted (fuel lines : Nat) (taken : List Char) (cursor : Cursor) :
    Option (String × Nat × Cursor) :=
  match fuel with
  | 0 => none
  | fuel + 1 =>
    match cursor.rest with
    | [] => none
    | '\'' :: '\'' :: rest => singleQuoted fuel lines ('\'' :: taken) (cursor.move 2 rest)
    | '\'' :: rest => some (String.ofList taken.reverse, lines, cursor.move 1 rest)
    | c :: rest =>
      if isBlank c ∨ c = '\n' then
        let (breaks, column, after) := skipBreaks 0 cursor.column cursor.rest
        if column = 0 ∧ 0 < breaks ∧ isBoundary after then none
        else if breaks = 0 then
          let gap := cursor.rest.takeWhile isBlank
          singleQuoted fuel lines (gap.reverse ++ taken) (cursor.move gap.length after)
        else
          singleQuoted fuel (lines + breaks) ((folded breaks).reverse ++ taken)
            { cursor with rest := after, column }
      else singleQuoted fuel lines (c :: taken) (cursor.move 1 rest)

/-- The character that a letter behind a backslash stands for. -/
def escape? (letter : Char) : Option Char :=
  [('0', '\x00'), ('a', '\x07'), ('b', '\x08'), ('t', '\t'), ('\t', '\t'), ('n', '\n'),
    ('v', '\x0b'), ('f', '\x0c'), ('r', '\r'), ('e', '\x1b'), (' ', ' '), ('"', '"'), ('/', '/'),
    ('\\', '\\'), ('N', '\u0085'), ('_', '\u00a0'), ('L', '\u2028'), ('P', '\u2029')].lookup letter

/-- The character of so many hexadecimal digits. -/
def codePoint? (size : Nat) (text : List Char) : Option Char := do
  let point ← if text.length < size then none else number? 16 (text.take size)
  if h : point.isValidChar then some (Char.ofNatAux point h) else none

/-- How many digits follow a letter behind a backslash that stands for a code point. -/
def codeSize? (letter : Char) : Option Nat := [('x', 2), ('u', 4), ('U', 8)].lookup letter

/-- A scalar in double quotes, behind the first one; the number of line ends in it. -/
def doubleQuoted (fuel lines : Nat) (taken : List Char) (cursor : Cursor) :
    Option (String × Nat × Cursor) :=
  match fuel with
  | 0 => none
  | fuel + 1 =>
    match cursor.rest with
    | [] => none
    | '"' :: rest => some (String.ofList taken.reverse, lines, cursor.move 1 rest)
    | '\\' :: '\n' :: rest =>
      let (breaks, column, after) := skipBreaks 0 0 rest
      doubleQuoted fuel (lines + 1) (List.replicate breaks '\n' ++ taken)
        { cursor with rest := after, column }
    | '\\' :: letter :: rest =>
      match escape? letter, codeSize? letter with
      | some c, _ => doubleQuoted fuel lines (c :: taken) (cursor.move 2 rest)
      | none, some size =>
        (codePoint? size rest).bind fun c ↦
          doubleQuoted fuel lines (c :: taken) (cursor.move (2 + size) (rest.drop size))
      | none, none => none
    | c :: rest =>
      if isBlank c ∨ c = '\n' then
        let (breaks, column, after) := skipBreaks 0 cursor.column cursor.rest
        if column = 0 ∧ 0 < breaks ∧ isBoundary after then none
        else if breaks = 0 then
          let gap := cursor.rest.takeWhile isBlank
          doubleQuoted fuel lines (gap.reverse ++ taken) (cursor.move gap.length after)
        else
          doubleQuoted fuel (lines + breaks) ((folded breaks).reverse ++ taken)
            { cursor with rest := after, column }
      else doubleQuoted fuel lines (c :: taken) (cursor.move 1 rest)

/-! ### Block scalars -/

/-- The line up to its end, and what follows. -/
def spanLine (text : List Char) : List Char × List Char := text.span (· != '\n')

/-- What the head of a block scalar asks for: the indentation, if it is given, and whether line ends
at the end are dropped (`-`) or kept (`+`). -/
def blockHead (indent : Option Nat) (chomp : Option Char) :
    List Char → Option (Option Nat × Option Char)
  | [] => some (indent, chomp)
  | c :: rest =>
    if isBlank c then
      match rest.dropWhile isBlank with
      | [] => some (indent, chomp)
      | '#' :: _ => some (indent, chomp)
      | _ => none
    else if (c = '+' ∨ c = '-') ∧ chomp.isNone then blockHead indent (some c) rest
    else if '1' ≤ c ∧ c ≤ '9' ∧ indent.isNone then blockHead (some (c.toNat - 48)) chomp rest
    else none

/-- The indentation of the first line that is not empty. -/
def firstIndent (fuel : Nat) (text : List Char) : Nat :=
  match fuel with
  | 0 => 0
  | fuel + 1 =>
    let (line, rest) := spanLine text
    let indent := (line.takeWhile (· == ' ')).length
    if indent < line.length then indent
    else match rest with
      | [] => 0
      | _ :: rest => firstIndent fuel rest

/-- The lines of a block scalar without their indentation, and what follows them. -/
def blockLines (fuel indent : Nat) (lines : List (List Char)) (text : List Char) :
    List (List Char) × List Char :=
  match fuel with
  | 0 => (lines.reverse, text)
  | fuel + 1 =>
    if text.isEmpty then (lines.reverse, text)
    else
      let (line, rest) := spanLine text
      let margin := (line.takeWhile (· == ' ')).length
      if margin < indent ∧ margin < line.length then (lines.reverse, text)
      else blockLines fuel indent (line.drop indent :: lines) (rest.drop 1)

/-- The lines of a folded scalar as one text: a line end between two lines that start with a letter
is a space, or is dropped before empty lines. -/
def foldLines : List (List Char) → List Char
  | [] => []
  | [line] => line
  | line :: next :: rest =>
    let starts (l : List Char) := l.head?.any fun c ↦ !isBlank c
    if line.isEmpty then '\n' :: foldLines (next :: rest)
    else if !starts line then line ++ '\n' :: foldLines (next :: rest)
    else
      let blanks := (next :: rest).takeWhile List.isEmpty
      let after := (next :: rest).drop blanks.length
      match blanks, after with
      | [], _ =>
        if starts next then line ++ ' ' :: foldLines (next :: rest)
        else line ++ '\n' :: foldLines (next :: rest)
      | _ :: _, follower :: _ =>
        if starts follower then line ++ foldLines (next :: rest)
        else line ++ '\n' :: foldLines (next :: rest)
      | _ :: _, [] => line ++ '\n' :: foldLines (next :: rest)
termination_by lines => lines.length

/-- A block scalar behind its mark, for a parent at column `parent`. -/
def blockScalar (isFolded : Bool) (parent : Int) (cursor : Cursor) : Option (String × Cursor) := do
  let (head, rest) := spanLine cursor.rest
  let (given, chomp) ← blockHead none none head
  let body := rest.drop 1
  let least := (parent + 1).toNat
  let indent := match given with
    | some extra => (max parent 0).toNat + extra
    | none => max least (max 1 (firstIndent (body.length + 1) body))
  let (lines, after) := blockLines (body.length + 1) indent [] body
  let content := (lines.reverse.dropWhile List.isEmpty).reverse
  let text := if isFolded then foldLines content else List.intercalate ['\n'] content
  let trailing := lines.length - content.length
  let isCut := after.isEmpty ∧ trailing = 0 ∧ body.getLast? ≠ some '\n'
  let ending := match chomp with
    | some '-' => []
    | some _ => List.replicate (trailing + if content.isEmpty ∨ isCut then 0 else 1) '\n'
    | none => if content.isEmpty ∨ isCut then [] else ['\n']
  return (String.ofList (text ++ ending), { cursor with rest := after, column := 0 })

/-! ### Nodes -/

/-- The name behind the mark of an anchor, an alias or a tag. -/
def spanName (text : List Char) : String × List Char :=
  let (name, rest) := text.span fun c ↦ !(isBlank c || c == '\n' || isFlowMark c)
  (String.ofList name, rest)

/-- The anchor and the tag in front of a node. -/
structure Decoration where
  anchor : Option String := none
  tag : Option String := none

/-- A tag that the readers know. -/
def isStandardTag (tag : String) : Bool := tag.startsWith "!!"

/-- Gives a value its name, if it has one. -/
def Decoration.keep (decoration : Decoration) (value : Json) (cursor : Cursor) : Json × Cursor :=
  match decoration.anchor with
  | none => (value, cursor)
  | some name => (value, { cursor with anchors := (name, value) :: cursor.anchors })

/-- A scalar without quotes as its tag reads it. -/
def Decoration.plain (decoration : Decoration) (scalar : String) : Option Json :=
  match decoration.tag with
  | none => some (resolve scalar)
  | some tag => resolveTagged tag scalar

/-- A scalar in quotes as its tag reads it. -/
def Decoration.quoted (decoration : Decoration) (scalar : String) : Option Json :=
  match decoration.tag with
  | none | some "!!str" => some (.string scalar)
  | some tag => resolveTagged tag scalar

/-- A scalar in quotes; how many line ends it holds. -/
def quotedScalar (mark : Char) (cursor : Cursor) : Option (String × Nat × Cursor) :=
  let fuel := cursor.rest.length + 1
  if mark = '"' then doubleQuoted fuel 0 [] cursor else singleQuoted fuel 0 [] cursor

/-- The text of a value that is the key of a mapping. -/
def keyText? : Json → Option String
  | .string text => some text
  | _ => none

/-- The cursor behind the colon that makes a scalar a key. -/
def afterColon? (inFlow adjacent : Bool) (cursor : Cursor) : Option Cursor :=
  let gap := cursor.rest.takeWhile isBlank
  match cursor.rest.drop gap.length with
  | ':' :: rest =>
    if endsWord rest ∨ (inFlow ∧ (adjacent ∨ rest.head?.any isFlowMark)) then
      some (cursor.move (gap.length + 1) rest)
    else none
  | _ => none

mutual

/-- A node of a flow collection. -/
def flowNode (fuel : Nat) (decoration : Decoration) (cursor : Cursor) :
    Option (Json × Option String × Cursor) :=
  match fuel with
  | 0 => none
  | fuel + 1 =>
    match cursor.rest with
    | '[' :: rest => do
      let (value, cursor) ← flowList fuel [] (cursor.move 1 rest)
      let (value, cursor) := decoration.keep value cursor
      return (value, none, cursor)
    | '\x7b' :: rest => do
      let (value, cursor) ← flowMap fuel [] (cursor.move 1 rest)
      let (value, cursor) := decoration.keep value cursor
      return (value, none, cursor)
    | '&' :: rest =>
      let (name, after) := spanName rest
      let (_, next) := (cursor.move (rest.length - after.length + 1) after).skip true true
      if name.isEmpty then none
      else flowNode fuel { decoration with anchor := some name } next
    | '!' :: rest =>
      let (name, after) := spanName rest
      let tag := "!" ++ name
      let (_, next) := (cursor.move (rest.length - after.length + 1) after).skip true true
      if isStandardTag tag then flowNode fuel { decoration with tag := some tag } next else none
    | '*' :: rest => do
      let (name, after) := spanName rest
      let value ← cursor.anchors.lookup name
      return (value, keyText? value, cursor.move (rest.length - after.length + 1) after)
    | c :: rest =>
      if c = '"' ∨ c = '\'' then do
        let (scalar, _, cursor) ← quotedScalar c (cursor.move 1 rest)
        let (value, cursor) := decoration.keep (← decoration.quoted scalar) cursor
        return (value, some scalar, cursor)
      else if startsPlain true (c :: rest) then do
        let (scalar, _, cursor) := plainScalar true 0 cursor
        let (value, cursor) := decoration.keep (← decoration.plain scalar) cursor
        return (value, some scalar, cursor)
      else if isFlowMark c ∨ c = ':' then do
        let (value, cursor) := decoration.keep (← decoration.plain "") cursor
        return (value, some "", cursor)
      else none
    | [] => none

/-- The value of a key in a flow collection. -/
def flowValue (fuel : Nat) (cursor : Cursor) : Reading :=
  match fuel with
  | 0 => none
  | fuel + 1 =>
    let (_, cursor) := cursor.skip true true
    match cursor.rest with
    | c :: _ =>
      if c = ',' ∨ c = ']' ∨ c = '\x7d' then some (.null, cursor)
      else (flowNode fuel {} cursor).map fun node ↦ (node.1, node.2.2)
    | [] => none

/-- The elements of a flow list up to its end, after those already read (the last one first). -/
def flowList (fuel : Nat) (read : List Json) (cursor : Cursor) : Reading :=
  match fuel with
  | 0 => none
  | fuel + 1 =>
    let (_, cursor) := cursor.skip true true
    match cursor.rest with
    | ']' :: rest => some (.array read.reverse, cursor.move 1 rest)
    | ',' :: _ => none
    | _ => do
      let (value, key, cursor) ← flowNode fuel {} cursor
      let (_, cursor) := cursor.skip true true
      let (value, cursor) ←
        match key, afterColon? true true cursor with
        | some key, some cursor => do
          let (value, cursor) ← flowValue fuel cursor
          pure (Json.object [(key, value)], cursor)
        | _, _ => pure (value, cursor)
      let (_, cursor) := cursor.skip true true
      match cursor.rest with
      | ',' :: rest => flowList fuel (value :: read) (cursor.move 1 rest)
      | ']' :: rest => some (.array (value :: read).reverse, cursor.move 1 rest)
      | _ => none

/-- The members of a flow mapping up to its end, after those already read. -/
def flowMap (fuel : Nat) (read : List (String × Json)) (cursor : Cursor) : Reading :=
  match fuel with
  | 0 => none
  | fuel + 1 =>
    let (_, cursor) := cursor.skip true true
    match cursor.rest with
    | '\x7d' :: rest => some (.object read, cursor.move 1 rest)
    | ',' :: _ => none
    | _ => do
      let (_, key, cursor) ← flowNode fuel {} cursor
      let key ← key
      let (_, cursor) := cursor.skip true true
      let (value, cursor) ←
        match afterColon? true true cursor with
        | some cursor => flowValue fuel cursor
        | none => pure (.null, cursor)
      let read := Json.insertMember key value read
      let (_, cursor) := cursor.skip true true
      match cursor.rest with
      | ',' :: rest => flowMap fuel read (cursor.move 1 rest)
      | '\x7d' :: rest => some (.object read, cursor.move 1 rest)
      | _ => none

/-- A node of a block, for a parent at column `parent`. A list may start in the parent's own column
if that is a mapping (`isValue`), and a collection may start in the line of its parent only if
`isFree`. -/
def blockNode (fuel : Nat) (parent : Int) (isValue isFree : Bool) (decoration : Decoration)
    (cursor : Cursor) : Reading :=
  match fuel with
  | 0 => none
  | fuel + 1 =>
    let (crossed, cursor) := cursor.skip false (!isFree)
    let isFree := isFree || crossed
    let empty : Reading := do
      return decoration.keep (← decoration.plain "") cursor
    if cursor.atEnd then empty
    else if crossed ∧ (cursor.column : Int) ≤ parent then
      match cursor.rest with
      | '-' :: rest =>
        if isValue ∧ (cursor.column : Int) = parent ∧ endsWord rest then
          (blockList fuel cursor.column [] cursor).map fun node ↦ decoration.keep node.1 node.2
        else empty
      | _ => empty
    else
      match cursor.rest with
      | '&' :: rest =>
        let (name, after) := spanName rest
        if name.isEmpty then none
        else
          blockNode fuel parent isValue false { decoration with anchor := some name }
            (cursor.move (rest.length - after.length + 1) after)
      | '!' :: rest =>
        let (name, after) := spanName rest
        let tag := "!" ++ name
        if isStandardTag tag then
          blockNode fuel parent isValue false { decoration with tag := some tag }
            (cursor.move (rest.length - after.length + 1) after)
        else none
      | '|' :: rest => do
        let (scalar, cursor) ← blockScalar false parent (cursor.move 1 rest)
        return decoration.keep (← decoration.quoted scalar) cursor
      | '>' :: rest => do
        let (scalar, cursor) ← blockScalar true parent (cursor.move 1 rest)
        return decoration.keep (← decoration.quoted scalar) cursor
      | c :: rest =>
        if c = '-' ∧ endsWord rest then
          if isFree then
            (blockList fuel cursor.column [] cursor).map fun node ↦ decoration.keep node.1 node.2
          else none
        else do
          let (value, key, oneLine, after) ← blockScalarOrFlow fuel parent decoration cursor
          match key, afterColon? false true after with
          | some key, some next =>
            if isFree ∧ oneLine then
              (blockMap fuel cursor.column [] key next).map fun node ↦
                decoration.keep node.1 node.2
            else none
          | none, some _ => none
          | _, none => some (decoration.keep value after)
      | [] => empty

/-- A node that is not a block collection: its value, its text if it can be a key, whether it is in
one line, and what follows it. -/
def blockScalarOrFlow (fuel : Nat) (parent : Int) (decoration : Decoration) (cursor : Cursor) :
    Option (Json × Option String × Bool × Cursor) :=
  match fuel with
  | 0 => none
  | fuel + 1 =>
    match cursor.rest with
    | '*' :: rest => do
      let (name, after) := spanName rest
      let value ← cursor.anchors.lookup name
      return (value, keyText? value, true, cursor.move (rest.length - after.length + 1) after)
    | c :: rest =>
      if c = '"' ∨ c = '\'' then do
        let (scalar, lines, after) ← quotedScalar c (cursor.move 1 rest)
        return (← decoration.quoted scalar, some scalar, lines == 0, after)
      else if c = '[' ∨ c = '\x7b' then do
        let (value, _, after) ← flowNode fuel {} cursor
        return (value, none, true, after)
      else if startsPlain false (c :: rest) then do
        let (scalar, lines, after) := plainScalar false parent cursor
        return (← decoration.plain scalar, some scalar, lines == 0, after)
      else none
    | [] => none

/-- The elements of a list whose dashes stand in a column, after those already read. -/
def blockList (fuel : Nat) (column : Nat) (read : List Json) (cursor : Cursor) : Reading :=
  match fuel with
  | 0 => none
  | fuel + 1 =>
    match cursor.rest with
    | '-' :: rest =>
      if cursor.column = column ∧ endsWord rest ∧ !cursor.atEnd then do
        let (value, after) ← blockNode fuel column false true {} (cursor.move 1 rest)
        let (_, next) := after.skip false true
        if next.atEnd ∨ next.column < column then
          return (.array (value :: read).reverse, next)
        else if next.column = column then blockList fuel column (value :: read) next
        else none
      else some (.array read.reverse, cursor)
    | _ => some (.array read.reverse, cursor)

/-- The members of a mapping whose keys stand in a column: the value of `key` comes next. -/
def blockMap (fuel : Nat) (column : Nat) (read : List (String × Json)) (key : String)
    (cursor : Cursor) : Reading :=
  match fuel with
  | 0 => none
  | fuel + 1 => do
    let (value, after) ← blockNode fuel column true false {} cursor
    let read := Json.insertMember key value read
    let (_, next) := after.skip false true
    if next.atEnd ∨ next.column < column then return (.object read, next)
    else if next.column = column then
      let (_, key, oneLine, after) ← blockScalarOrFlow fuel column {} next
      match key, afterColon? false true after with
      | some key, some following =>
        if oneLine then blockMap fuel column read key following else none
      | _, _ => none
    else none

end

/-! ### Documents -/

/-- What a text holds. -/
inductive Document where
  | empty
  | node (value : Json)

/-- A character that a text may contain. -/
def isAllowed (c : Char) : Bool :=
  let point := c.toNat
  point == 0x09 || point == 0x0A || point == 0x0D || (0x20 ≤ point && point ≤ 0x7E) ||
    point == 0x85 || (0xA0 ≤ point && point ≤ 0xD7FF) ||
    (0xE000 ≤ point && point ≤ 0xFFFD && point != 0xFEFF) || 0x10000 ≤ point

/-- A text in which every line ends in the same way. -/
def unifyBreaks : List Char → List Char
  | '\r' :: '\n' :: rest => '\n' :: unifyBreaks rest
  | '\r' :: rest => '\n' :: unifyBreaks rest
  | c :: rest => c :: unifyBreaks rest
  | [] => []

/-- Nothing but blanks, comments and the ends of documents is left. -/
def onlyEnds (fuel : Nat) (cursor : Cursor) : Bool :=
  match fuel with
  | 0 => false
  | fuel + 1 =>
    let (_, cursor) := cursor.skip false true
    match cursor.rest with
    | [] => true
    | '.' :: '.' :: '.' :: rest =>
      cursor.column == 0 && endsWord rest && onlyEnds fuel (cursor.move 3 rest)
    | _ => false

/-- Skips the directives in front of a document, and the line that begins it; tells whether there
was such a line. -/
def documentStart (fuel : Nat) (isDirected : Bool) (cursor : Cursor) : Option (Bool × Cursor) :=
  match fuel with
  | 0 => none
  | fuel + 1 =>
    let (_, next) := cursor.skip false false
    match next.rest with
    | '%' :: rest =>
      if next.column = 0 then
        documentStart fuel true { next with rest := (spanLine rest).2, column := 0 }
      else none
    | '-' :: '-' :: '-' :: rest =>
      if next.column = 0 ∧ endsWord rest then some (true, next.move 3 rest)
      else if isDirected then none else some (false, next)
    | _ => if isDirected then none else some (false, next)

/-- The document of a text. -/
def read? (text : Bytes) : Option Document := do
  let chars := (← Utf8.decode? text).toList
  let chars := match chars with
    | '\ufeff' :: rest => rest
    | chars => chars
  if !chars.all isAllowed then none
  let chars := unifyBreaks chars
  let fuel := 4 * chars.length + 8
  let (isMarked, cursor) ← documentStart fuel false { rest := chars }
  if (cursor.skip false true).2.atEnd then
    if onlyEnds fuel cursor then return .empty else none
  let (value, cursor) ← blockNode fuel (-1) false (!isMarked) {} cursor
  if onlyEnds fuel cursor then return .node value else none

end StompBroker.Yaml
