import ConfigRefs.Hcl.Expression
import ConfigRefs.Hcl.Lexical
import ConfigRefs.Number.Numeral

/-!
# Hcl: reading expressions

`expression` reads an expression. Around operators a line feed is white space only in parentheses
(`multiline`), and from the first parentheses of an operand on. The transcript of what is read differs
from the source in some places: strings and heredocs are written anew, the last sign in front of an
operand stands directly before it, only the last value of a key in an object is kept, items of objects
end with line feeds alone, and there is no white space between the steps to a part of a value.

All scanners here take at most `fuel` nested steps, and `enoughFuel` is more than a text of a given
length can use.
-/

namespace ConfigRefs.Hcl

open ConfigRefs.Text ConfigRefs.Number

/-- The operators between two operands. Those of two characters come before their beginnings. -/
def binaryOperators : List String :=
  ["==", "!=", "<=", ">=", "&&", "||", "<", ">", "+", "-", "*", "/", "%"]

/-- The operator that begins a text. A slash that begins a comment is none. -/
def binaryOperator? (text : List Char) : Option String :=
  if ['/', '/'].isPrefixOf text then none
  else binaryOperators.find? (·.toList.isPrefixOf text)

/-- The number of a numeral. Digits alone must not be above the bound of configuration values, and with
a sign they are a decimal if they are below the other one. -/
def numberOf? (numeral : Numeral) : Option Number :=
  if numeral.plain then
    if integerBounds.2 < digitsValue numeral.whole then none
    else match numeral.integer? with
      | some value => some (.integer value)
      | none => .decimal <$> numeral.nearest?
  else .ofFloat <$> numeral.nearest?

/-- A number behind its sign. -/
def number (negative : Bool) : Scanner Expression := do
  let numeral ← Scanner.ofReader Numeral.readUnsigned
  match numberOf? { numeral with negative } with
  | some value => return .number value
  | none => failure

/-- A position in a list, written without superfluous zeros. -/
def position : Scanner Nat := do
  let digits ← Scanner.takeWhile Char.isDigit
  let index := digitsValue digits
  if (digits.head? = some '0' ∧ 1 < digits.length) ∨ integerBounds.2 < index then failure
  else return index

/-- A word as an expression. -/
def wordExpression (word : String) : Expression :=
  if word = "true" then .bool true
  else if word = "false" then .bool false
  else if word = "null" then .null
  else .variable word

/-- A quoted string as an expression. -/
def quotedExpression (template : Template) : Expression :=
  match template.plain? with
  | some text => .string text
  | none => .template template

/-- An operand with the sign that counts. -/
def signed (sign : Option Char) (operand : Expression) : Expression :=
  match sign with
  | some operator => .unary operator operand
  | none => operand

/-- Whether a text goes on with digits behind white space. -/
def digitsFollow (text : List Char) : Bool :=
  match blankLength? false .outside text with
  | some count => ((text.drop count).head?.map Char.isDigit).getD false
  | none => false

/-- Whether a comprehension begins: with the word `for`, and behind it white space of the same line or
what may begin a comment. -/
def comprehensionFollows (text : List Char) : Bool :=
  match text with
  | 'f' :: 'o' :: 'r' :: c :: _ => c == ' ' || c == '\t' || c == '#' || c == '/'
  | _ => false

/-- A part of a document with what is kept of it. -/
structure Kept (α : Type) where
  content : α
  transcript : Transcript

/-- An item of an object. What is kept of the value goes up to the end of the item. -/
structure ObjectItem where
  key : Kept Expression
  value : Kept Expression

/-- The items of an object by key: a key that is repeated keeps its first place and takes its last
value. -/
def distinctItems (items : List ObjectItem) : List ObjectItem :=
  (items.foldl add []).map (·.2)
where
  /-- Adds an item to those before it. -/
  add (entries : List (String × ObjectItem)) (item : ObjectItem) : List (String × ObjectItem) :=
    let name := item.key.content.print
    let key := ((entries.lookup name).map ObjectItem.key).getD item.key
    Entries.set name { item with key } entries

/-- How an expression goes on behind an operand. -/
inductive Continuation where
  | step
  | choice
  | operator (text : String)

/-- How an expression goes on with a text. Several points are no step. -/
def continuation? (text : List Char) : Option Continuation :=
  match text with
  | '.' :: '.' :: _ => none
  | '.' :: _ => some .step
  | '[' :: _ => some .step
  | '?' :: _ => some .choice
  | _ => .operator <$> binaryOperator? text

/-- Whether an expression goes on behind white space. -/
def goesOn (multiline : Bool) : Scanner Bool := Scanner.ahead do
  blanks multiline
  return (continuation? (← Scanner.rest)).isSome

/-- Signs in front of an operand, `last` being the last one before them. A minus sign in front of
digits is none. -/
def signs : (fuel : Nat) → (last : Option Char) → Scanner (Option Char)
  | 0, _ => failure
  | fuel + 1, last => do
    match ← Scanner.rest with
    | '!' :: _ =>
      Scanner.skip 1
      blanks false
      signs fuel (some '!')
    | '-' :: text =>
      if digitsFollow text then return last
      Scanner.skip 1
      blanks false
      signs fuel (some '-')
    | _ => return last

/-- The mark that ends an interpolation or a directive. -/
def closingMark : Scanner Unit := do
  blanks true
  let _ ← Scanner.literal? ['~']
  Scanner.char '\x7d'

/-- The mark that begins a directive. -/
def directiveMark : Scanner Unit := do
  Scanner.literal ['%', '\x7b']
  let _ ← Scanner.literal? ['~']
  blanks true

/-- Whether a directive comes next that goes on with an earlier one or ends it. It is not read. -/
def continuationFollows : Scanner Bool := do
  let word ← Scanner.ahead ((do directiveMark; some <$> name) <|> return none)
  return word == some "else" || word == some "endif" || word == some "endfor"

/-- The mark with the given word. -/
def directiveWord (word : String) : Scanner Unit := do
  directiveMark
  if (← name) = word then closingMark else failure

/-- One or two loop variables of a comprehension or a directive, up to the word behind them. -/
def loopVariables : Scanner (List String) := do
  blanks true
  let first ← name
  blanks true
  let names ← do
    if ← Scanner.literal? [','] then
      blanks true
      let second ← name
      blanks true
      pure [first, second]
    else pure [first]
  Scanner.literal ['i', 'n']
  blanks true
  return names

/-- Whether a character may stand before the delimiter of a heredoc on its line. -/
def isIndent (c : Char) : Bool := c == ' ' || c == '\t'

/-- The end of a line with the delimiter of a heredoc behind it, without reading the delimiter. -/
def heredocEnd? (delimiter : List Char) : Scanner (Option (List Char)) := do
  let text ← Scanner.rest
  let ending := if endsLine text then text.takeWhile (· != '\n') ++ ['\n'] else []
  let line := (text.drop ending.length).dropWhile isIndent
  if !ending.isEmpty && delimiter.isPrefixOf line then
    Scanner.skip ending.length
    return some ending
  else return none

/-- Literal characters of a quoted string, up to its end or to an interpolation or a directive. They
end, too, with an escape that does not exist, which is passed over; `started` tells whether there are
any before it, as there must be. -/
def literalText : (fuel : Nat) → (started : Bool) → Scanner (List Char)
  | 0, _ => failure
  | fuel + 1, started => do
    match ← Scanner.rest with
    | [] | '"' :: _ | '$' :: '\x7b' :: _ | '%' :: '\x7b' :: _ => return []
    | '$' :: '$' :: '\x7b' :: _ =>
      Scanner.skip 3
      return '$' :: '\x7b' :: (← literalText fuel true)
    | '%' :: '%' :: '\x7b' :: _ =>
      Scanner.skip 3
      return '%' :: '\x7b' :: (← literalText fuel true)
    | '\\' :: _ =>
      Scanner.skip 1
      match ← (some <$> Scanner.ofReader escape) <|> return none with
      | some c => return c :: (← literalText fuel true)
      | none =>
        if started then
          let _ ← Scanner.next
          return []
        else failure
    | _ =>
      let c ← Scanner.next
      return c :: (← literalText fuel true)

/-- Literal characters inside of a directive, up to an interpolation or a directive. Nothing is escaped
there but the marks of these. -/
def directiveText : (fuel : Nat) → Scanner (List Char)
  | 0 => failure
  | fuel + 1 => do
    match ← Scanner.rest with
    | [] | '$' :: '\x7b' :: _ | '%' :: '\x7b' :: _ => return []
    | '$' :: '$' :: '\x7b' :: _ =>
      Scanner.skip 3
      return '$' :: '\x7b' :: (← directiveText fuel)
    | '%' :: '%' :: '\x7b' :: _ =>
      Scanner.skip 3
      return '%' :: '\x7b' :: (← directiveText fuel)
    | _ =>
      let c ← Scanner.next
      return c :: (← directiveText fuel)

mutual

/-- An expression. White space between the first sign in front of it and the operand is kept before the
sign, but only if the expression goes on behind the operand. -/
def expression : (fuel : Nat) → (multiline : Bool) → Scanner Expression
  | 0, _ => failure
  | fuel + 1, multiline => do
    let (source, sign) ← Scanner.apart (signs fuel none)
    let (transcript, operand, multiline) ← Scanner.apart (operand fuel multiline)
    if ← goesOn multiline then Scanner.write (source.drop 1)
    Scanner.write (Transcript.ofText sign.toList ++ transcript)
    continued fuel multiline (signed sign operand)

/-- An expression that goes on behind its first operand. -/
def continued : (fuel : Nat) → (multiline : Bool) → Expression → Scanner Expression
  | 0, _, _ => failure
  | fuel + 1, multiline, left => do
    let start ← get
    blanks multiline
    match continuation? (← Scanner.rest) with
    | some .step =>
      let first ← access fuel
      let more ← steps fuel multiline
      continued fuel multiline (.access left (first :: more))
    | some .choice =>
      Scanner.char '?'
      blanks multiline
      let yes ← expression fuel multiline
      blanks multiline
      Scanner.char ':'
      blanks multiline
      return .conditional left yes (← expression fuel multiline)
    | some (.operator operator) =>
      Scanner.literal operator.toList
      blanks multiline
      return .binary left operator (← expression fuel multiline)
    | none =>
      set start
      return left

/-- Further steps behind a step. White space before them is not kept. -/
def steps : (fuel : Nat) → (multiline : Bool) → Scanner (List Access)
  | 0, _ => failure
  | fuel + 1, multiline => do
    let start ← get
    let _ ← Scanner.apart (blanks multiline)
    match ← Scanner.rest with
    | '.' :: _ | '[' :: _ => return (← access fuel) :: (← steps fuel multiline)
    | _ =>
      set start
      return []

/-- A step. -/
def access : (fuel : Nat) → Scanner Access
  | 0 => failure
  | fuel + 1 => do
    match ← Scanner.next with
    | '.' =>
      blanks true
      match ← Scanner.rest with
      | '*' :: _ =>
        Scanner.skip 1
        return .attributeSplat
      | c :: _ => if c.isDigit then return .position (← position) else return .attribute (← name)
      | [] => failure
    | '[' =>
      blanks true
      match ← Scanner.rest with
      | '*' :: _ =>
        Scanner.skip 1
        blanks true
        Scanner.char ']'
        return .fullSplat
      | _ =>
        let key ← expression fuel false
        blanks true
        Scanner.char ']'
        return .index key
    | _ => failure

/-- An operand without signs and steps, and whether line feeds are white space behind it. -/
def operand : (fuel : Nat) → (multiline : Bool) → Scanner (Expression × Bool)
  | 0, _ => failure
  | fuel + 1, multiline => do
    match ← Scanner.rest with
    | '"' :: _ => return (quotedExpression (← quoted fuel), multiline)
    | '<' :: _ => return (.heredoc (← heredoc fuel), multiline)
    | '-' :: _ =>
      Scanner.skip 1
      blanks false
      return (← number true, multiline)
    | '(' :: _ =>
      Scanner.char '('
      blanks true
      let inner ← expression fuel true
      blanks true
      Scanner.char ')'
      return (.parens inner, true)
    | '[' :: _ =>
      Scanner.char '['
      blanks true
      if comprehensionFollows (← Scanner.rest) then return (← listFor fuel, multiline)
      else return (.array (← listItems fuel), multiline)
    | '\x7b' :: _ =>
      Scanner.char '\x7b'
      let (gap, _) ← Scanner.apart (blanks true)
      if comprehensionFollows (← Scanner.rest) then
        Scanner.write gap
        return (← objectFor fuel, multiline)
      else
        let (closing, all) ← objectItems fuel gap
        let items := distinctItems all
        Scanner.write (items.flatMap fun item => item.key.transcript ++ item.value.transcript)
        Scanner.write closing
        Scanner.char '\x7d'
        return (.object (items.map fun item => (item.key.content, item.value.content)), multiline)
    | c :: _ =>
      if c.isDigit then return (← number false, multiline)
      else
        let word ← name
        let behind ← get
        blanks true
        if ← Scanner.literal? ['('] then
          blanks true
          let (arguments, spread) ← callArguments fuel
          return (.call word arguments spread, multiline)
        else
          set behind
          return (wordExpression word, multiline)
    | [] => failure

/-- The arguments of a call up to its closing parenthesis, with whether the last one is spread. -/
def callArguments : (fuel : Nat) → Scanner (List Expression × Bool)
  | 0 => failure
  | fuel + 1 => do
    if ← Scanner.literal? [')'] then return ([], false)
    let first ← expression fuel false
    blanks true
    if ← Scanner.literal? ['.', '.', '.'] then
      blanks true
      Scanner.char ')'
      return ([first], true)
    else if ← Scanner.literal? [','] then
      blanks true
      let (more, spread) ← callArguments fuel
      return (first :: more, spread)
    else
      Scanner.char ')'
      return ([first], false)

/-- The items of a list up to its closing bracket. -/
def listItems : (fuel : Nat) → Scanner (List Expression)
  | 0 => failure
  | fuel + 1 => do
    if ← Scanner.literal? [']'] then return []
    let first ← expression fuel false
    blanks true
    if ← Scanner.literal? [','] then
      blanks true
      return first :: (← listItems fuel)
    else
      Scanner.char ']'
      return [first]

/-- The items of an object before its closing brace, separated by commas or ends of lines, and what is
kept behind the last one. `gap` is what is kept before the first one. -/
def objectItems : (fuel : Nat) → (gap : Transcript) → Scanner (Transcript × List ObjectItem)
  | 0, _ => failure
  | fuel + 1, gap => do
    if (← Scanner.rest).head? = some '\x7d' then return (gap, [])
    let (keySource, key) ← Scanner.apart do
      let key ← expression fuel false
      blanks false
      return key
    let (valueSource, value, closes) ← Scanner.apart do
      unless ← Scanner.literal? ['='] do Scanner.char ':'
      blanks false
      let value ← expression fuel false
      blanks false
      let closes := (← Scanner.rest).head? == some '\x7d'
      unless closes do
        unless ← Scanner.literal? [','] do
          lineComment
          let _ ← Scanner.apart lineEnd
          Scanner.write (Transcript.ofText ['\n'])
      return (value, closes)
    let item := ⟨⟨key, gap ++ keySource⟩, ⟨value, valueSource⟩⟩
    if closes then return ([], [item])
    let (between, _) ← Scanner.apart (blanks true)
    let (closing, more) ← objectItems fuel between
    return (closing, item :: more)

/-- The loop variables and the collection of a comprehension, from the word `for` to the colon. -/
def loopHead : (fuel : Nat) → Scanner (List String × Expression)
  | 0 => failure
  | fuel + 1 => do
    Scanner.literal ['f', 'o', 'r']
    let names ← loopVariables
    let collection ← expression fuel false
    blanks true
    Scanner.char ':'
    blanks true
    return (names, collection)

/-- The condition of a comprehension, if it has one. White space before it is only read with it. -/
def loopFilter : (fuel : Nat) → Scanner (Option Expression)
  | 0 => failure
  | fuel + 1 => do
    let start ← get
    blanks true
    if ← Scanner.literal? ['i', 'f'] then
      blanks true
      let condition ← expression fuel false
      blanks true
      return some condition
    else
      set start
      return none

/-- A comprehension behind its opening bracket. -/
def listFor : (fuel : Nat) → Scanner Expression
  | 0 => failure
  | fuel + 1 => do
    let (names, collection) ← loopHead fuel
    let value ← expression fuel false
    blanks true
    let filter ← loopFilter fuel
    Scanner.char ']'
    return .listFor names collection value filter

/-- A comprehension behind its opening brace. -/
def objectFor : (fuel : Nat) → Scanner Expression
  | 0 => failure
  | fuel + 1 => do
    let (names, collection) ← loopHead fuel
    let key ← expression fuel false
    blanks true
    Scanner.literal ['=', '>']
    blanks true
    let value ← expression fuel false
    blanks true
    let grouped ← Scanner.literal? ['.', '.', '.']
    let filter ← loopFilter fuel
    Scanner.char '\x7d'
    return .objectFor names collection key value grouped filter

/-- An interpolation with its marks. -/
def interpolation : (fuel : Nat) → Scanner Unit
  | 0 => failure
  | fuel + 1 => do
    Scanner.literal ['$', '\x7b']
    let _ ← Scanner.literal? ['~']
    blanks true
    let _ ← expression fuel false
    closingMark

/-- A directive with everything up to its end. -/
def directive : (fuel : Nat) → Scanner Unit
  | 0 => failure
  | fuel + 1 => do
    directiveMark
    if ← Scanner.literal? ['i', 'f'] then
      blanks true
      let _ ← expression fuel false
      closingMark
      directiveBody fuel
      let start ← get
      (do
        directiveWord "else"
        directiveBody fuel)
      <|> set start
      directiveWord "endif"
    else
      Scanner.literal ['f', 'o', 'r']
      let _ ← loopVariables
      let _ ← expression fuel false
      closingMark
      directiveBody fuel
      directiveWord "endfor"

/-- What stands between the marks of a directive. -/
def directiveBody : (fuel : Nat) → Scanner Unit
  | 0 => failure
  | fuel + 1 => do
    match ← Scanner.rest with
    | '$' :: '\x7b' :: _ =>
      interpolation fuel
      directiveBody fuel
    | '%' :: '\x7b' :: _ =>
      unless ← continuationFollows do
        directive fuel
        directiveBody fuel
    | [] => failure
    | _ =>
      let (_, text) ← Scanner.apart (directiveText fuel)
      Scanner.write (Transcript.ofLiteral text)
      directiveBody fuel

/-- The parts of a quoted string behind its opening quote. -/
def quotedParts : (fuel : Nat) → Scanner Template
  | 0 => failure
  | fuel + 1 => do
    match ← Scanner.rest with
    | [] => failure
    | '"' :: _ =>
      Scanner.skip 1
      return []
    | '$' :: '\x7b' :: _ =>
      let (transcript, _) ← Scanner.apart (interpolation fuel)
      return .inserted transcript :: (← quotedParts fuel)
    | '%' :: '\x7b' :: _ =>
      let (transcript, _) ← Scanner.apart (directive fuel)
      return .inserted transcript :: (← quotedParts fuel)
    | _ =>
      let text ← literalText fuel false
      return .literal text :: (← quotedParts fuel)

/-- A quoted string. -/
def quoted : (fuel : Nat) → Scanner Template
  | 0 => failure
  | fuel + 1 => do
    let (_, template) ← Scanner.apart (do Scanner.char '"'; quotedParts fuel)
    Scanner.write template.transcript
    return template

/-- A heredoc. With a minus sign behind the marks its lines lose their indentation. If no later line
begins with the delimiter, it must end the heredoc in the first line. -/
def heredoc : (fuel : Nat) → Scanner Heredoc
  | 0 => failure
  | fuel + 1 => do
    let (_, heredoc, gap) ← Scanner.apart do
      Scanner.literal ['<', '<']
      let dedented ← Scanner.literal? ['-']
      let delimiter ← name
      lineEnd
      let start ← get
      let template ← match ← heredocParts fuel delimiter.toList with
        | some parts => pure (Template.join parts)
        | none =>
          set start
          pure []
      let gap ← Scanner.takeWhile isIndent
      Scanner.literal delimiter.toList
      return (Heredoc.ofTemplate delimiter dedented template, gap)
    Scanner.write (heredoc.transcript gap)
    return heredoc

/-- The parts of a heredoc with the end of the line before its delimiter. Nothing if no line behind the
first one begins with the delimiter. -/
def heredocParts : (fuel : Nat) → (delimiter : List Char) → Scanner (Option Template)
  | 0, _ => failure
  | fuel + 1, delimiter => do
    match ← heredocEnd? delimiter with
    | some ending => return some [.literal ending]
    | none =>
      match ← Scanner.rest with
      | [] => return none
      | '$' :: '$' :: '\x7b' :: _ =>
        Scanner.skip 3
        return (.literal ['$', '\x7b'] :: ·) <$> (← heredocParts fuel delimiter)
      | '%' :: '%' :: '\x7b' :: _ =>
        Scanner.skip 3
        return (.literal ['%', '\x7b'] :: ·) <$> (← heredocParts fuel delimiter)
      | '$' :: '\x7b' :: _ =>
        let (transcript, _) ← Scanner.apart (interpolation fuel)
        return (.inserted transcript :: ·) <$> (← heredocParts fuel delimiter)
      | '%' :: '\x7b' :: _ =>
        let (transcript, _) ← Scanner.apart (directive fuel)
        return (.inserted transcript :: ·) <$> (← heredocParts fuel delimiter)
      | c :: _ =>
        Scanner.skip 1
        return (.literal [c] :: ·) <$> (← heredocParts fuel delimiter)

end

/-- More steps than reading an expression of a text can nest. -/
def enoughFuel (text : List Char) : Nat := 8 * text.length + 8

end ConfigRefs.Hcl
