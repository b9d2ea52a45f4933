import HeatingHub.Text.Decimal

/-!
# JSON

The values of JSON texts, as far as a configuration needs them. A text is first cut into tokens and
the tokens are then put together; both steps take one character or token at a time. Numbers other
than plain whole numbers, and strings that denote no text, are kept as such, because they may stand
where nobody looks at them.
-/

namespace HeatingHub

/-- A JSON value. -/
inductive Json
  | null
  | bool (value : Bool)
  /-- A number, with its value if it is written as digits alone. -/
  | number (whole : Option Nat)
  /-- A string, with its text unless it names half of a surrogate pair. -/
  | string (text : Option (List Char))
  | array (items : List Json)
  | object (members : List (Option (List Char) × Json))

namespace Json

/-- A part of a string: a character as it is, or an escaped UTF-16 unit. -/
inductive StringPart
  | plain (c : Char)
  | unit (number : Nat)

/-- The first unit of a surrogate pair. -/
def isHighSurrogate (unit : Nat) : Bool :=
  0xD800 ≤ unit && unit ≤ 0xDBFF

/-- The second unit of a surrogate pair. -/
def isLowSurrogate (unit : Nat) : Bool :=
  0xDC00 ≤ unit && unit ≤ 0xDFFF

/-- The text of the parts of a string, if no half of a surrogate pair stands alone. -/
def textOfParts : List StringPart → Option (List Char)
  | [] => some []
  | .plain c :: rest => (textOfParts rest).map (c :: ·)
  | .unit high :: .unit low :: rest =>
    if isHighSurrogate high then
      if isLowSurrogate low then
        (textOfParts rest).map
          (Char.ofNat (0x10000 + (high - 0xD800) * 0x400 + (low - 0xDC00)) :: ·)
      else none
    else if isLowSurrogate high then none
    else (textOfParts (.unit low :: rest)).map (Char.ofNat high :: ·)
  | .unit single :: rest =>
    if isHighSurrogate single || isLowSurrogate single then none
    else (textOfParts rest).map (Char.ofNat single :: ·)

/-- The character that a simple escape stands for. -/
def escape? : Char → Option Char
  | '"' => some '"'
  | '\\' => some '\\'
  | '/' => some '/'
  | 'b' => some '\x08'
  | 'f' => some '\x0C'
  | 'n' => some '\n'
  | 'r' => some '\r'
  | 't' => some '\t'
  | _ => none

/-- The fraction of a number is a point and digits, or nothing; gives what follows it. -/
def afterFraction? : List Char → Option (List Char)
  | '.' :: rest =>
    let (digits, rest) := Text.spanDigits rest
    if digits.isEmpty then none else some rest
  | rest => some rest

/-- The number of a text: a minus sign or none, digits without leading zeros, a fraction or none,
and an exponent or none. -/
def number? (text : List Char) : Option Json :=
  let negative := text.head? = some '-'
  let (whole, rest) := Text.spanDigits (if negative then text.tail else text)
  if whole.isEmpty ∨ (whole.head? = some '0' ∧ whole ≠ ['0']) then none
  else (afterFraction? rest).bind fun exponent =>
    if (Text.readExponent? exponent).isNone then none
    else if negative ∨ ¬rest.isEmpty then some (.number none)
    else some (.number (some (Text.ofDecimalDigits whole)))

/-- A token: a mark, or a value that has no parts. -/
inductive Token
  | mark (c : Char)
  | value (value : Json)

/-- The value of a bare word. -/
def ofWord? (word : List Char) : Option Json :=
  match String.ofList word with
  | "null" => some .null
  | "true" => some (.bool true)
  | "false" => some (.bool false)
  | _ => number? word

/-- Where the cutting into tokens stands; what has been read of a token is kept backwards. -/
inductive Scan
  | between
  | word (read : List Char)
  | string (read : List StringPart)
  | escaped (read : List StringPart)
  /-- Inside the digits of an escaped unit. -/
  | unit (read : List StringPart) (digits : List Nat)

/-- A character of numbers and of the words for other values. -/
def isWordChar (c : Char) : Bool :=
  c.isAlphanum || c == '+' || c == '-' || c == '.'

/-- A character outside all tokens. -/
def scanBetween (c : Char) : Option (List Token × Scan) :=
  if c = ' ' ∨ c = '\t' ∨ c = '\n' ∨ c = '\r' then some ([], .between)
  else if c ∈ ['{', '}', '[', ']', ',', ':'] then some ([.mark c], .between)
  else if c = '"' then some ([], .string [])
  else if isWordChar c then some ([], .word [c])
  else none

/-- One more character. -/
def scanNext : Scan → Char → Option (List Token × Scan)
  | .between, c => scanBetween c
  | .word read, c =>
    if isWordChar c then some ([], .word (c :: read))
    else (ofWord? read.reverse).bind fun value =>
      (scanBetween c).map fun next => (.value value :: next.1, next.2)
  | .string read, c =>
    if c = '"' then some ([.value (.string (textOfParts read.reverse))], .between)
    else if c = '\\' then some ([], .escaped read)
    else if c.toNat < 0x20 then none
    else some ([], .string (.plain c :: read))
  | .escaped read, c =>
    if c = 'u' then some ([], .unit read [])
    else (escape? c).map fun c => ([], .string (.plain c :: read))
  | .unit read digits, c =>
    (Text.digit? 16 c).map fun digit =>
      if digits.length = 3 then
        ([], .string (.unit (Text.ofDigits 16 (digits ++ [digit])) :: read))
      else ([], .unit read (digits ++ [digit]))

/-- The tokens of a text. -/
def tokens? (scan : Scan) : List Char → Option (List Token)
  | [] =>
    match scan with
    | .between => some []
    | .word read => (ofWord? read.reverse).map fun value => [.value value]
    | _ => none
  | c :: rest =>
    (scanNext scan c).bind fun next => (tokens? next.2 rest).map (next.1 ++ ·)

/-- An array or object whose end has not been reached; its parts are kept backwards. -/
inductive Level
  | items (done : List Json)
  | members (done : List (Option (List Char) × Json)) (key : Option (List Char))

/-- How far the tokens have been put together. -/
inductive Progress
  /-- A value comes next, or the end of the array when it has just begun. -/
  | value (levels : List Level) (first : Bool)
  /-- A key comes next, or the end of the object when it has just begun. -/
  | key (done : List (Option (List Char) × Json)) (levels : List Level) (first : Bool)
  | colon (done : List (Option (List Char) × Json)) (key : Option (List Char))
      (levels : List Level)
  /-- A value is complete. -/
  | complete (value : Json) (levels : List Level)

/-- One more token. -/
def Progress.next : Progress → Token → Option Progress
  | .value levels _, .value scalar => some (.complete scalar levels)
  | .value levels _, .mark '[' => some (.value (.items [] :: levels) true)
  | .value levels _, .mark '{' => some (.key [] levels true)
  | .value (.items [] :: levels) true, .mark ']' => some (.complete (.array []) levels)
  | .key done levels _, .value (.string name) => some (.colon done name levels)
  | .key [] levels true, .mark '}' => some (.complete (.object []) levels)
  | .colon done name levels, .mark ':' => some (.value (.members done name :: levels) false)
  | .complete last (.items done :: levels), .mark ',' =>
    some (.value (.items (last :: done) :: levels) false)
  | .complete last (.items done :: levels), .mark ']' =>
    some (.complete (.array (last :: done).reverse) levels)
  | .complete last (.members done name :: levels), .mark ',' =>
    some (.key ((name, last) :: done) levels false)
  | .complete last (.members done name :: levels), .mark '}' =>
    some (.complete (.object ((name, last) :: done).reverse) levels)
  | _, _ => none

/-- The value of a JSON text. -/
def parse? (text : List Char) : Option Json :=
  match (tokens? .between text).bind (·.foldlM Progress.next (.value [] false)) with
  | some (.complete value []) => some value
  | _ => none

end Json

end HeatingHub
