import SchemaWipe.Yaml.Cursor

/-! Dates and times as YAML writes them. -/
namespace SchemaWipe.Yaml

/-- An ASCII digit. -/
def isAsciiDigit (c : Char) : Bool :=
  '0' ≤ c && c ≤ '9'

/-- The number that ASCII digits write. -/
def asciiNumber (cs : List Char) : Nat :=
  cs.foldl (fun n c => n * 10 + (c.toNat - 48)) 0

/-- The time zone of a timestamp. -/
inductive Zone where
  | utc
  | offset (negative : Bool) (hours minutes : Nat)

/-- The clock of a timestamp. -/
structure Clock where
  hour : Nat
  minute : Nat
  second : Nat
  /-- The digits after the decimal point. -/
  fraction : List Char
  zone : Option Zone

/-- A timestamp as it is written. -/
structure Timestamp where
  year : Nat
  month : List Char
  day : List Char
  clock : Option Clock

/-- Up to so many ASCII digits and what follows them. -/
def splitDigits (most : Nat) (cs : List Char) : List Char × List Char :=
  let digits := (cs.take most).takeWhile isAsciiDigit
  (digits, cs.drop digits.length)

/-- Between `least` and `most` digits and what follows them. -/
def digits? (least most : Nat) (cs : List Char) : Option (List Char × List Char) :=
  let (digits, rest) := splitDigits most cs
  if digits.length < least then none else some (digits, rest)

/-- What follows a character that has to come first. -/
def expect? (c : Char) : List Char → Option (List Char)
  | d :: rest => if d == c then some rest else none
  | [] => none

/-- Reads a time zone up to the end of the text. -/
def zone? : List Char → Option (Option Zone)
  | [] => some none
  | cs =>
    match cs.dropWhile isSpace with
    | ['Z'] => some (some .utc)
    | c :: rest =>
      if c != '+' && c != '-' then none
      else do
        let (hours, rest) ← digits? 1 2 rest
        match rest with
        | [] => some (some (.offset (c == '-') (asciiNumber hours) 0))
        | ':' :: more =>
          let (minutes, rest) ← digits? 2 2 more
          guard rest.isEmpty
          some (some (.offset (c == '-') (asciiNumber hours) (asciiNumber minutes)))
        | _ => none
    | [] => none

/-- Reads a clock up to the end of the text. -/
def clock? (cs : List Char) : Option Clock := do
  let (hour, rest) ← digits? 1 2 cs
  let (minute, rest) ← expect? ':' rest >>= digits? 2 2
  let (second, rest) ← expect? ':' rest >>= digits? 2 2
  let (fraction, rest) := match rest with
    | '.' :: more => (more.takeWhile isAsciiDigit, more.dropWhile isAsciiDigit)
    | _ => ([], rest)
  let zone ← zone? rest
  pure ⟨asciiNumber hour, asciiNumber minute, asciiNumber second, fraction, zone⟩

/-- Reads what may follow a date: nothing, or a clock after a letter or blanks. -/
def clockAfter? : List Char → Option (Option Clock)
  | [] => some none
  | c :: rest =>
    if c == 'T' || c == 't' then (clock? rest).map some
    else if isSpace c then (clock? (rest.dropWhile isSpace)).map some
    else none

/-- Reads a timestamp. -/
def timestamp? (cs : List Char) : Option Timestamp := do
  let (year, rest) ← digits? 4 4 cs
  let (month, rest) ← expect? '-' rest >>= digits? 1 2
  let (day, rest) ← expect? '-' rest >>= digits? 1 2
  let clock ← clockAfter? rest
  pure ⟨asciiNumber year, month, day, clock⟩

/-- Whether a text without quotes or tag is a timestamp: without a clock, month and day have two
digits each. -/
def isTimestamp (cs : List Char) : Bool :=
  match timestamp? cs with
  | some t => t.clock.isSome || (t.month.length == 2 && t.day.length == 2)
  | none => false

/-- The offset of a zone in minutes. -/
def Zone.minutes : Zone → Int
  | .utc => 0
  | .offset negative hours minutes =>
    let total : Int := hours * 60 + minutes
    if negative then -total else total

/-- The microseconds that the digits after a decimal point write. Further digits are ignored. -/
def microseconds (fraction : List Char) : Nat :=
  let digits := fraction.take 6
  asciiNumber digits * Nat.pow 10 (6 - digits.length)

/-- The value of a timestamp, if its numbers name a real day and time. -/
def Timestamp.value (t : Timestamp) : Except Calendar.Fault (Date ⊕ Moment) :=
  let month := asciiNumber t.month
  let day := asciiNumber t.day
  match t.clock with
  | none => (Calendar.date t.year month day).map .inl
  | some clock =>
    (Calendar.moment t.year month day clock.hour clock.minute clock.second
      (microseconds clock.fraction) (clock.zone.map Zone.minutes)).map .inr

end SchemaWipe.Yaml
