import OwnedHandles.Text.Blank
import OwnedHandles.Text.Letters

/-!
# Value patterns

A filter may ask that the value of a field fits a pattern, which is a regular expression. Only spans
are ever asked for values, and the library opens none, so nothing is matched here: what counts is
whether a pattern is well-formed.

A pattern is read in Unicode mode at first, which knows no classes by property, no shorthand
classes, no word boundaries and no letter case. In byte mode it knows all of these for ASCII, and in
turn has no way to speak of a character or a byte beyond ASCII but by a literal outside of classes.

- `Pattern.escape`: what follows a backslash.
- `Pattern.members`: a class in brackets, with nested classes and operators on them.
- `Pattern.sequence`: a pattern up to its end or to the bracket that closes its group.
- `Pattern.isWellFormed`: tells whether a text is a pattern that is not nested too deeply.

Heights count how deeply a pattern is nested; an atom has none.
-/

namespace OwnedHandles.Pattern

/-- The flags that bear on what is well-formed: letter case is ignored, Unicode mode is on, blanks
and comments are skipped. -/
structure Flags where
  caseless : Bool
  unicode : Bool
  spaced : Bool
  deriving DecidableEq, Repr

/-- The flags at the start of a pattern. -/
def Flags.initial : Flags := ⟨false, true, false⟩

/-- Switches a flag, if it is one that matters here. -/
def Flags.switch (f : Flags) (on : Bool) : Char → Flags
  | 'i' => { f with caseless := on }
  | 'u' => { f with unicode := on }
  | 'x' => { f with spaced := on }
  | _ => f

/-! ## Blanks -/

/-- The text after blanks and comments; a comment runs from a number sign to the end of its line. -/
def skipBlanks (inComment : Bool) : List Char → List Char
  | [] => []
  | c :: rest =>
    if inComment then skipBlanks (c ≠ '\n') rest
    else if Text.isBlank c then skipBlanks false rest
    else if c = '#' then skipBlanks true rest
    else c :: rest

/-- The text after what the flags say is skipped. -/
def Flags.skip (f : Flags) (text : List Char) : List Char :=
  if f.spaced then skipBlanks false text else text

/-- The first character that is neither blank nor the first number sign. -/
def lookPast (signSeen : Bool) : List Char → Option Char
  | [] => none
  | c :: rest =>
    if Text.isBlank c then lookPast signSeen rest
    else if c = '#' ∧ !signSeen then lookPast true rest
    else some c

/-- The character that decides whether a hyphen in a class makes a range. -/
def Flags.lookAhead (f : Flags) (text : List Char) : Option Char :=
  if f.spaced then (lookPast false text).or text.head? else text.head?

/-! ## Atoms -/

/-- What a backslash or a single character stands for. -/
inductive Atom where
  /-- A character; two hexadecimal digits may stand for a byte. -/
  | literal (c : Char) (twoDigits : Bool)
  /-- A shorthand class (digits, blanks, word characters) or what lies outside of it. -/
  | shorthand (negated : Bool)
  | wordBoundary
  | textEdge
  deriving DecidableEq, Repr

/-- Tells whether an atom can stand outside of classes. -/
def Atom.isAllowed (f : Flags) : Atom → Bool
  | .literal c twoDigits => if f.unicode then !f.caseless else !(twoDigits && 0x80 ≤ c.toNat)
  | .shorthand negated => !f.unicode && !negated
  | .wordBoundary => !f.unicode
  | .textEdge => true

/-- Tells whether an atom can stand in a class. -/
def Atom.isMember (f : Flags) : Atom → Bool
  | .literal c _ => if f.unicode then !f.caseless else c.toNat < 0x80
  | .shorthand negated => !f.unicode && !negated
  | .wordBoundary | .textEdge => false

/-- The value of a hexadecimal digit. -/
def hexValue? (c : Char) : Option Nat :=
  if c.isDigit then some (c.toNat - 0x30)
  else if 'a' ≤ c ∧ c ≤ 'f' then some (c.toNat - 0x61 + 10)
  else if 'A' ≤ c ∧ c ≤ 'F' then some (c.toNat - 0x41 + 10)
  else none

/-- The value of exactly so many hexadecimal digits, after a value so far. -/
def hexNumeral (f : Flags) : Nat → Nat → List Char → Option (Nat × List Char)
  | 0, value, text => some (value, text)
  | count + 1, value, text =>
    match f.skip text with
    | [] => none
    | c :: rest => (hexValue? c).bind fun digit => hexNumeral f count (16 * value + digit) rest

/-- A character by its code point in so many hexadecimal digits. -/
def hexLiteral (f : Flags) (count : Nat) (text : List Char) : Option (Atom × List Char) :=
  match hexNumeral f count 0 text with
  | some (value, rest) =>
    if value < 0xD800 ∨ 0xDFFF < value ∧ value < 0x110000 then
      some (.literal (Char.ofNat value) (count = 2), rest)
    else none
  | none => none

/-- What follows a backslash. ASCII characters other than letters and digits stand for
themselves. -/
def escape (f : Flags) : List Char → Option (Atom × List Char)
  | [] => none
  | c :: rest =>
    match c with
    | 'x' => hexLiteral f 2 rest
    | 'u' => hexLiteral f 4 rest
    | 'U' => hexLiteral f 8 rest
    | 'd' | 's' | 'w' => some (.shorthand false, rest)
    | 'D' | 'S' | 'W' => some (.shorthand true, rest)
    | 'b' | 'B' | '<' | '>' => some (.wordBoundary, rest)
    | 'A' | 'z' => some (.textEdge, rest)
    | 'a' => some (.literal '\x07' false, rest)
    | 't' => some (.literal '\t' false, rest)
    | 'n' => some (.literal '\n' false, rest)
    | 'v' => some (.literal '\x0b' false, rest)
    | 'f' => some (.literal '\x0c' false, rest)
    | 'r' => some (.literal '\r' false, rest)
    | _ => if c.toNat < 0x80 ∧ !c.isAlphanum then some (.literal c false, rest) else none

/-- An atom of a class. -/
def memberAtom (f : Flags) : List Char → Option (Atom × List Char)
  | [] => none
  | '\\' :: rest => escape f rest
  | c :: rest => some (.literal c false, rest)

/-! ## Classes -/

/-- The names of ASCII classes. -/
def asciiClasses : List String :=
  ["alnum", "alpha", "ascii", "blank", "cntrl", "digit", "graph", "lower", "print", "punct",
    "space", "upper", "word", "xdigit"]

/-- The rest of an ASCII class by name, after its opening bracket. It may be negated. -/
def asciiClass? (text : List Char) : Option (Bool × List Char) :=
  match text with
  | ':' :: rest =>
    let (negated, rest) := match rest with
      | '^' :: rest => (true, rest)
      | rest => (false, rest)
    let name := String.ofList (rest.takeWhile (· ≠ ':'))
    match rest.dropWhile (· ≠ ':') with
    | ':' :: ']' :: rest => if name ∈ asciiClasses then some (negated, rest) else none
    | _ => none
  | _ => none

/-- What has been read of a class: the height of what stands before the last operator, the number of
members after it and the height of the tallest; also whether only the opening bracket and hyphens
have been read. -/
structure Members where
  left : Option Nat
  count : Nat
  tallest : Nat
  opening : Bool
  deriving DecidableEq, Repr

namespace Members

/-- An open class. -/
def start : Members := ⟨none, 0, 0, true⟩

/-- One more member. -/
def add (m : Members) (height : Nat) : Members :=
  { m with count := m.count + 1, tallest := max m.tallest height, opening := false }

/-- A hyphen at the start is a member, and still at the start. -/
def addHyphen (m : Members) : Members :=
  { m.add 0 with opening := true }

/-- The height of all that has been read: several members make a union, an operator joins what
stands on both sides. -/
def height (m : Members) : Nat :=
  let union := if m.count ≤ 1 then m.tallest else m.tallest + 1
  match m.left with
  | some left => max left union + 1
  | none => union

/-- An operator. -/
def operator (m : Members) : Members :=
  ⟨some m.height, 0, 0, false⟩

end Members

/-- The text after the opening bracket of a class and a caret, which negates the class. -/
def openClass (f : Flags) (text : List Char) : Option (List Char) :=
  match f.skip text with
  | '^' :: rest => if f.unicode then some rest else none
  | text => some text

/-- A single member or a range, and the rest. -/
def memberOrRange (f : Flags) (text : List Char) : Option (List Char) :=
  match memberAtom f text with
  | none => none
  | some (first, rest) =>
    if !first.isMember f then none
    else
      match f.skip rest with
      | [] => none
      | '-' :: next =>
        if f.lookAhead next = some ']' ∨ f.lookAhead next = some '-' then some ('-' :: next)
        else
          match first, memberAtom f (f.skip next) with
          | .literal low _, some (.literal high twoDigits, rest) =>
            if (Atom.literal high twoDigits).isMember f ∧ low ≤ high then some rest else none
          | _, _ => none
      | rest => some rest

/-- The rest of a class up to its closing bracket: its height, and what follows it. -/
def members (f : Flags) : Nat → Members → List Char → Option (Nat × List Char)
  | 0, _, _ => none
  | fuel + 1, m, text =>
    let single : Bool := (Atom.literal '-' false).isMember f
    match m.opening, f.skip text with
    | _, [] => none
    | true, '-' :: rest => if single then members f fuel m.addHyphen rest else none
    | opening, ']' :: rest =>
      if opening ∧ m.count = 0 then
        if single then members f fuel (m.add 0) rest else none
      else some (m.height + 1, rest)
    | _, '[' :: rest =>
      match asciiClass? rest with
      | some (negated, rest) =>
        if single ∧ (f.unicode ∨ !negated) then members f fuel (m.add 0) rest else none
      | none =>
        match (openClass f rest).bind (members f fuel Members.start) with
        | some (height, rest) => members f fuel (m.add height) rest
        | none => none
    | _, '&' :: '&' :: rest | _, '-' :: '-' :: rest | _, '~' :: '~' :: rest =>
      members f fuel m.operator rest
    | _, text =>
      match memberOrRange f text with
      | some rest => members f fuel (m.add 0) rest
      | none => none

/-! ## Groups -/

/-- Tells whether a character can stand in the name of a group, as its first or a later one. -/
def isNameChar (first : Bool) (c : Char) : Bool :=
  if first then c = '_' || Text.isAlphabetic c
  else c = '_' || c = '.' || c = '[' || c = ']' || Text.isAlphanumeric c

/-- The name of a group, up to its closing angle bracket. -/
def groupName? (text : List Char) : Option (List Char × List Char) :=
  match text.takeWhile (· ≠ '>'), text.dropWhile (· ≠ '>') with
  | c :: name, '>' :: rest =>
    if isNameChar true c ∧ name.all (isNameChar false) then some (c :: name, rest) else none
  | _, _ => none

/-- The flags that items switch: those after a hyphen are switched off. -/
def switchAll (f : Flags) (on : Bool) : List Char → Flags
  | [] => f
  | '-' :: rest => switchAll f false rest
  | c :: rest => switchAll (f.switch on c) on rest

/-- Tells whether flag items are known, each given once, and end with a flag. -/
def isFlagList (items : List Char) : Bool :=
  items.all (· ∈ ['i', 'm', 's', 'U', 'u', 'R', 'x', '-']) && decide items.Nodup
    && items.getLast? ≠ some '-'

/-- What an opening round bracket begins: flags for what follows, or a group. -/
inductive Opening where
  | flags (f : Flags)
  | group (f : Flags) (name : Option (List Char))
  deriving DecidableEq, Repr

/-- What an opening round bracket begins, and the text after it. -/
def opening (f : Flags) (text : List Char) : Option (Opening × List Char) :=
  match f.skip text with
  | '?' :: 'P' :: '<' :: rest | '?' :: '<' :: rest =>
    (groupName? rest).map fun (name, rest) => (.group f (some name), rest)
  | '?' :: rest =>
    let items := rest.takeWhile fun c => c ≠ ':' && c ≠ ')'
    let changed := switchAll f true items
    if !isFlagList items then none
    else
      match rest.drop items.length with
      | ':' :: rest => some (.group changed none, rest)
      | ')' :: rest => if items = [] then none else some (.flags changed, rest)
      | _ => none
  | text => some (.group f none, text)

/-! ## Sequences -/

/-- What has been read of a group: the height of its tallest finished alternative, then the number
of items of the present one, the height of the tallest, and of the last if it can be repeated. -/
structure Items where
  finished : Option Nat
  count : Nat
  tallest : Nat
  last : Option Nat
  deriving DecidableEq, Repr

namespace Items

/-- Nothing has been read. -/
def start : Items := ⟨none, 0, 0, none⟩

/-- One more item. -/
def add (s : Items) (height : Nat) : Items :=
  ⟨s.finished, s.count + 1, max s.tallest height, some height⟩

/-- Flags are an item that cannot be repeated. -/
def addFlags (s : Items) : Items :=
  { s.add 0 with last := none }

/-- The last item, repeated. -/
def repeatLast (s : Items) : Option Items :=
  s.last.map fun height => ⟨s.finished, s.count, max s.tallest (height + 1), some (height + 1)⟩

/-- The height of the present alternative: several items make a sequence. -/
def alternative (s : Items) : Nat :=
  if s.count ≤ 1 then s.tallest else s.tallest + 1

/-- The height of all that has been read: several alternatives make a choice. -/
def height (s : Items) : Nat :=
  match s.finished with
  | some finished => max finished s.alternative + 1
  | none => s.alternative

/-- The next alternative. -/
def split (s : Items) : Items :=
  ⟨some (max (s.finished.getD 0) s.alternative), 0, 0, none⟩

end Items

/-- What a sequence came to: its height, the names of groups so far, and the rest, which is empty or
begins with the bracket that closes a group. -/
structure Outcome where
  height : Nat
  names : List (List Char)
  rest : List Char
  deriving DecidableEq, Repr

/-- A repetition may be followed by a question mark. -/
def skipLazy : List Char → List Char
  | '?' :: rest => rest
  | text => text

/-- A pattern up to its end, or to the bracket that closes its group. Counted repetition takes a
closing brace, which no pattern of a filter can hold. -/
def sequence : Nat → Flags → Items → List (List Char) → List Char → Option Outcome
  | 0, _, _, _, _ => none
  | fuel + 1, f, s, names, text =>
    match f.skip text with
    | [] => some ⟨s.height, names, []⟩
    | ')' :: rest => some ⟨s.height, names, ')' :: rest⟩
    | '|' :: rest => sequence fuel f s.split names rest
    | '(' :: rest =>
      match opening f rest with
      | none => none
      | some (.flags changed, rest) => sequence fuel changed s.addFlags names rest
      | some (.group inner name, rest) =>
        if name.any (· ∈ names) then none
        else
          match sequence fuel inner Items.start (name.toList ++ names) rest with
          | some ⟨height, names, ')' :: rest⟩ => sequence fuel f (s.add (height + 1)) names rest
          | _ => none
    | '[' :: rest =>
      match (openClass f rest).bind (members f fuel Members.start) with
      | some (height, rest) => sequence fuel f (s.add height) names rest
      | none => none
    | '?' :: rest | '*' :: rest | '+' :: rest =>
      match s.repeatLast with
      | some s => sequence fuel f s names (skipLazy rest)
      | none => none
    | '\x7b' :: _ => none
    | '.' :: rest => if f.unicode then sequence fuel f (s.add 0) names rest else none
    | '^' :: rest | '$' :: rest => sequence fuel f (s.add 0) names rest
    | '\\' :: rest =>
      match escape f rest with
      | some (atom, rest) =>
        if atom.isAllowed f then sequence fuel f (s.add 0) names rest else none
      | none => none
    | c :: rest =>
      if (Atom.literal c false).isAllowed f then sequence fuel f (s.add 0) names rest else none

/-- How deeply a pattern may be nested. -/
def heightLimit : Nat := 250

/-- Tells whether a text is a pattern that is not nested too deeply. Every step of the reader takes
a character at least, so there is fuel enough. -/
def isWellFormed (text : List Char) : Bool :=
  match sequence (text.length + 1) Flags.initial Items.start [] text with
  | some ⟨height, _, []⟩ => height ≤ heightLimit
  | _ => false

/-! ## Numbers -/

/-- Tells whether a text is one or more digits. -/
def isNumeral (text : List Char) : Bool :=
  text ≠ [] && text.all Char.isDigit

/-- The text after a sign, if there is one. -/
def unsigned : List Char → List Char
  | '+' :: rest | '-' :: rest => rest
  | text => text

/-- Tells whether a text is a decimal number: digits, perhaps with a point among them or at their
end, and perhaps a power of ten. -/
def isDecimal (text : List Char) : Bool :=
  let whole := text.takeWhile Char.isDigit
  let rest := text.dropWhile Char.isDigit
  let (fraction, rest) := match rest with
    | '.' :: rest => (rest.takeWhile Char.isDigit, rest.dropWhile Char.isDigit)
    | rest => ([], rest)
  let exponent := match rest with
    | [] => true
    | 'e' :: rest | 'E' :: rest => isNumeral (unsigned rest)
    | _ => false
  isNumeral (whole ++ fraction) && exponent

/-- Tells whether a text is a number, which may be infinite or none at all. -/
def isNumber (text : List Char) : Bool :=
  let body := unsigned text
  isDecimal body
    || String.ofList (body.map Char.toLower) ∈ ["inf", "infinity", "nan"]

end OwnedHandles.Pattern
