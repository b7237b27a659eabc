import CypherTemplate.Json.Outline

/-!
Outlining a text. Each scanner takes the text behind what it has seen and returns what it found with
the text that follows; after a fault nothing follows.
-/
namespace CypherTemplate.Outline

/-- The four blank characters of JSON. -/
def isBlank (c : Char) : Bool :=
  c = ' ' || c = '\t' || c = '\n' || c = '\r'

def skipBlanks (cs : List Char) : List Char :=
  cs.dropWhile isBlank

/-- A fault, behind which nothing is read. -/
def stop (f : Fault) : Outline × List Char := (.fault f, [])

/-- The rest of a word that stands for a value. -/
def scanWord (value : Outline) : List Char → List Char → Outline × List Char
  | [], cs => (value, cs)
  | _ :: _, [] => stop .cutWord
  | e :: es, c :: cs => if c = e then scanWord value es cs else stop .stray

/-- A missing digit is a cut only at the end of the text. -/
def needDigit (cs : List Char) : Outline × List Char :=
  stop (if cs = [] then .cutNumber else .stray)

/-- The exponent of a number, if one stands here. -/
def scanExponent (negative : Bool) (whole fraction : List Char) (isWhole : Bool) :
    List Char → Outline × List Char
  | [] => (.number ⟨negative, whole, fraction, 0, isWhole⟩, [])
  | c :: cs =>
    if c = 'e' || c = 'E' then
      let (minus, cs) := splitSign cs
      let digits := cs.takeWhile Char.isDigit
      if digits = [] then needDigit cs
      else
        let n : Int := Nat.ofDigitChars 10 digits 0
        (.number ⟨negative, whole, fraction, if minus then -n else n, false⟩,
          cs.dropWhile Char.isDigit)
    else (.number ⟨negative, whole, fraction, 0, isWhole⟩, c :: cs)

/-- The part of a number behind its whole digits. -/
def scanFraction (negative : Bool) (whole : List Char) (cs : List Char) : Outline × List Char :=
  match cs with
  | '.' :: cs =>
    let digits := cs.takeWhile Char.isDigit
    if digits = [] then needDigit cs
    else scanExponent negative whole digits false (cs.dropWhile Char.isDigit)
  | cs => scanExponent negative whole [] true cs

/-- A number behind its sign. No digit follows a leading zero. -/
def scanNumber (negative : Bool) (cs : List Char) : Outline × List Char :=
  let digits := cs.takeWhile Char.isDigit
  match digits with
  | [] => needDigit cs
  | '0' :: _ :: _ => stop .stray
  | digits => scanFraction negative digits (cs.dropWhile Char.isDigit)

def hexDigit? (c : Char) : Option Nat :=
  if c.isDigit then some (c.toNat - '0'.toNat)
  else if 'a' ≤ c && c ≤ 'f' then some (c.toNat - 'a'.toNat + 10)
  else if 'A' ≤ c && c ≤ 'F' then some (c.toNat - 'A'.toNat + 10)
  else none

/-- Four hexadecimal digits. -/
def hexUnit? (a b c d : Char) : Option Nat :=
  match hexDigit? a, hexDigit? b, hexDigit? c, hexDigit? d with
  | some a, some b, some c, some d => some (((a * 16 + b) * 16 + c) * 16 + d)
  | _, _, _, _ => none

/-- The text ends within a numbered escape when fewer than four bytes follow. -/
def endsWithinEscape (cs : List Char) : Bool :=
  (String.ofList (cs.take 4)).utf8ByteSize < 4

/-- What the short escapes stand for. -/
def shortEscape? : Char → Option Char
  | '"' => some '"'
  | '\\' => some '\\'
  | '/' => some '/'
  | 'b' => some '\x08'
  | 'f' => some '\x0c'
  | 'n' => some '\n'
  | 'r' => some '\r'
  | 't' => some '\t'
  | _ => none

/-- A string behind its opening quote. -/
def scanString : List Char → WrittenString × List Char
  | [] => (⟨[], .cut⟩, [])
  | '"' :: cs => (⟨[], .closed⟩, cs)
  | '\\' :: 'u' :: a :: b :: c :: d :: cs =>
    match hexUnit? a b c d with
    | some n =>
      let (s, rest) := scanString cs
      (⟨.code n :: s.units, s.ending⟩, rest)
    | none => (⟨[], .stray⟩, [])
  | '\\' :: 'u' :: cs => (⟨[], if endsWithinEscape cs then .cut else .stray⟩, [])
  | ['\\'] => (⟨[], .cut⟩, [])
  | '\\' :: c :: cs =>
    match shortEscape? c with
    | some e =>
      let (s, rest) := scanString cs
      (⟨.char e :: s.units, s.ending⟩, rest)
    | none => (⟨[], .stray⟩, [])
  | c :: cs =>
    if c.toNat < 0x20 then (⟨[], .stray⟩, [])
    else
      let (s, rest) := scanString cs
      (⟨.char c :: s.units, s.ending⟩, rest)

/-- What follows a name in a record: the value behind a colon. -/
def scanColon (scan : List Char → Outline × List Char) (cs : List Char) : Outline × List Char :=
  match skipBlanks cs with
  | ':' :: cs => scan cs
  | [] => stop .absent
  | _ => stop .stray

mutual
/-- A value, with blanks before it. A name stands where a string does, and a comma is always
followed by an item, be it a fault. -/
def scan : Nat → List Char → Outline × List Char
  | 0, _ => stop .absent
  | fuel + 1, cs =>
    match skipBlanks cs with
    | [] => stop .absent
    | c :: cs =>
      if c = 'n' then scanWord .null "ull".toList cs
      else if c = 't' then scanWord (.bool true) "rue".toList cs
      else if c = 'f' then scanWord (.bool false) "alse".toList cs
      else if c = '-' then scanNumber true cs
      else if c.isDigit then scanNumber false (c :: cs)
      else if c = '"' then
        let (s, rest) := scanString cs
        (.string s, rest)
      else if c = '[' then
        match skipBlanks cs with
        | [] => (.list [] .cut, [])
        | ']' :: cs => (.list [] .closed, cs)
        | cs =>
          let ((items, ending), rest) := scanItems fuel cs
          (.list items ending, rest)
      else if c = '\x7b' then
        match skipBlanks cs with
        | [] => (.record [] .cut, [])
        | '\x7d' :: cs => (.record [] .closed, cs)
        | cs =>
          let ((members, ending), rest) := scanMembers fuel cs
          (.record members ending, rest)
      else stop .stray

/-- The items of a list from one that must be there. -/
def scanItems : Nat → List Char → (List Outline × Ending) × List Char
  | 0, _ => (([], .cut), [])
  | fuel + 1, cs =>
    let (item, cs) := scan fuel cs
    match skipBlanks cs with
    | [] => (([item], .cut), [])
    | ',' :: cs =>
      let ((items, ending), rest) := scanItems fuel cs
      ((item :: items, ending), rest)
    | ']' :: cs => (([item], .closed), cs)
    | _ => (([item], .stray), [])

/-- The members of a record from one that must be there. -/
def scanMembers : Nat → List Char → (List (Outline × Outline) × Ending) × List Char
  | 0, _ => (([], .cut), [])
  | fuel + 1, cs =>
    let (key, cs) := scan fuel cs
    let (value, cs) := scanColon (scan fuel) cs
    match skipBlanks cs with
    | [] => (([(key, value)], .cut), [])
    | ',' :: cs =>
      let ((members, ending), rest) := scanMembers fuel cs
      (((key, value) :: members, ending), rest)
    | '\x7d' :: cs => (([(key, value)], .closed), cs)
    | _ => (([(key, value)], .stray), [])
end

/-- The outline of a text, and whether nothing but blanks follows it. Two steps for each character
are enough, since of two scans in a row one takes a character. -/
def ofChars (cs : List Char) : Outline × Bool :=
  let (o, rest) := scan (2 * cs.length + 1) cs
  (o, skipBlanks rest = [])

end CypherTemplate.Outline
