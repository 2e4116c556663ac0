import ClpCore.Date

/-!
# Timestamp patterns

The model of `TimestampPattern.cpp`: a pattern is a number of spaces that precede the timestamp
in a line and a format made of literal characters and `%` specifiers. `parse_timestamp` reads a
timestamp from a line, `insert_formatted_timestamp` writes one into a message, `init` builds the
catalog of known patterns and `search_known_ts_patterns` tries them in order.

## Main definitions

- `TimestampPattern.parseTimestamp` — `parse_timestamp`
- `TimestampPattern.insertFormattedTimestamp` — `insert_formatted_timestamp`
- `TimestampPattern.init`, `searchKnownTsPatterns` — the catalog and the search over it

## Design notes

A line or message is the sequence of its bytes, each read as a `Char`. Every read of the line
goes through `charAt` or `compareEq`, which fail with a `LineAccessError` where the C++ would
index past the end of the string or start `std::string::compare` past it; the safety theorems
show that the parser never takes those branches. Where `parse_timestamp` returns `false` the
model returns `none`, and where `insert_formatted_timestamp` throws it returns an
`InsertError`. The fields `parse_timestamp` reads are `Nat`: every field is at most four
digits, so the C++ `int`s never overflow, and positions are `Nat` for `size_t`.

`insert_formatted_timestamp` separates a timestamp with the `date` library, whose types are
narrower than the values can be: `date::days` counts days in an `int`, `date::year` holds a
`short`, and the hour is narrowed to an `int`. `TimestampFields.separate` computes on `Int` and
wraps each of these values as the C++ narrowing does (`Int.bmod`); `TimestampFields.ofTimestamp`
is the exact UTC separation, which the statements use to say what a timestamp is.
-/

namespace ClpCore

open Date

/-- Decidable equality of `Except`, so that runs of the model can be checked by `decide`. -/
instance exceptDecidableEq {ε α : Type} [DecidableEq ε] [DecidableEq α] :
    DecidableEq (Except ε α)
  | .error a, .error b => decidable_of_iff (a = b) (by simp)
  | .ok a, .ok b => decidable_of_iff (a = b) (by simp)
  | .error _, .ok _ => isFalse Except.noConfusion
  | .ok _, .error _ => isFalse Except.noConfusion

@[simp] theorem except_ok_bind {ε α β : Type} (a : α) (f : α → Except ε β) :
    (Except.ok a >>= f) = f a := rfl

@[simp] theorem except_error_bind {ε α β : Type} (e : ε) (f : α → Except ε β) :
    (Except.error e >>= f) = Except.error e := rfl

/-- A timestamp pattern: how many spaces precede the timestamp in a line, and its format. -/
structure TimestampPattern where
  numSpacesBeforeTs : UInt8
  format : String
  deriving DecidableEq, Repr

/-- `cAbbrevDaysOfWeek`. -/
def cAbbrevDaysOfWeek : List String := ["Sun", "Mon", "Tue", "Wed", "Thu", "Fri", "Sat"]

/-- `cAbbrevMonthNames`. -/
def cAbbrevMonthNames : List String :=
  ["Jan", "Feb", "Mar", "Apr", "May", "Jun", "Jul", "Aug", "Sep", "Oct", "Nov", "Dec"]

/-- `cMonthNames`. -/
def cMonthNames : List String :=
  ["January", "February", "March", "April", "May", "June", "July", "August", "September",
    "October", "November", "December"]

-- ════════════════════════════════════════════════════════════════════════
-- Reading the line
-- ════════════════════════════════════════════════════════════════════════

/-- A read of the line that the C++ would make past its end: `line[ix]` with `ix` not below the
length, or `line.compare(pos, ...)` with `pos` beyond the length. -/
inductive LineAccessError
  | indexPastEnd (ix : Nat)
  | comparePastEnd (pos : Nat)
  deriving DecidableEq, Repr

/-- `line[ix]`. -/
def charAt (line : List Char) (ix : Nat) : Except LineAccessError Char :=
  match line.get? ix with
  | some c => .ok c
  | none => .error (.indexPastEnd ix)

/-- `0 == line.compare(pos, len, s)`: the at most `len` characters of `line` from `pos` are `s`.
`std::string::compare` throws `std::out_of_range` when `pos` is beyond the length. -/
def compareEq (line : List Char) (pos len : Nat) (s : List Char) : Except LineAccessError Bool :=
  if line.length < pos then .error (.comparePastEnd pos) else .ok ((line.drop pos).take len == s)

/-- The first loop of `convert_string_to_number`: skip padding characters from `ix`, at most
`n` of them, where `n` is the distance to `end_ix`. -/
def skipPadding (str : List Char) (paddingCharacter : Char) : Nat → Nat → Except LineAccessError Nat
  | 0, ix => .ok ix
  | n + 1, ix => do
    let c ← charAt str ix
    if paddingCharacter = c then skipPadding str paddingCharacter n (ix + 1) else .ok ix

/-- The second loop of `convert_string_to_number`: accumulate the decimal digits of the `n`
characters from `ix`, or `none` at a character that is not a digit. -/
def accumulateDigits (str : List Char) : Nat → Nat → Nat → Except LineAccessError (Option Nat)
  | 0, _, value => .ok (some value)
  | n + 1, ix, value => do
    let c ← charAt str ix
    if c < '0' ∨ c > '9' then .ok none
    else accumulateDigits str n (ix + 1) (value * 10 + (c.toNat - '0'.toNat))

/-- `convert_string_to_number`: the value of the padded decimal numeral `str[begin_ix, end_ix)`,
or `none` where the C++ returns false. -/
def convertStringToNumber (str : List Char) (beginIx endIx : Nat) (paddingCharacter : Char) :
    Except LineAccessError (Option Nat) := do
  let ix ← skipPadding str paddingCharacter (endIx - beginIx) beginIx
  accumulateDigits str (endIx - ix) ix 0

-- ════════════════════════════════════════════════════════════════════════
-- parse_timestamp
-- ════════════════════════════════════════════════════════════════════════

/-- The locals `parse_timestamp` fills in while it reads the format, with their initial values. -/
structure ParsedFields where
  date : Nat := 1
  month : Nat := 1
  year : Nat := 1970
  hour : Nat := 0
  uses12HourClock : Bool := false
  minute : Nat := 0
  second : Nat := 0
  millisecond : Nat := 0
  isPm : Bool := false
  deriving DecidableEq, Repr

/-- The body shared by the numeric specifiers of `parse_timestamp`: a field of `cFieldLength`
characters at `lineIx`, padded with `paddingCharacter`, whose value lies in `[lo, hi]`. -/
def parseNumericField (line : List Char) (lineIx cFieldLength : Nat) (paddingCharacter : Char)
    (lo hi : Nat) : Except LineAccessError (Option Nat) :=
  if lineIx + cFieldLength > line.length then .ok none
  else do
    match ← convertStringToNumber line lineIx (lineIx + cFieldLength) paddingCharacter with
    | some value => .ok (if value < lo ∨ value > hi then none else some value)
    | none => .ok none

/-- The name loop of `%B`, `%b` and `%a`: the first of `names` that the line holds at `lineIx`,
with its index (counted from `ix`) and the position after it. -/
def matchName (line : List Char) (lineIx : Nat) :
    List String → Nat → Except LineAccessError (Option (Nat × Nat))
  | [], _ => .ok none
  | name :: names, ix => do
    if ← compareEq line lineIx name.length name.toList then .ok (some (ix, lineIx + name.length))
    else matchName line lineIx names (ix + 1)

/-- A numeric specifier of `parse_timestamp`: the field read by `parseNumericField`, stored by
`set`. -/
def parseNumericSpecifier (line : List Char) (lineIx cFieldLength : Nat) (paddingCharacter : Char)
    (lo hi : Nat) (set : Nat → ParsedFields) :
    Except LineAccessError (Option (Nat × ParsedFields)) := do
  match ← parseNumericField line lineIx cFieldLength paddingCharacter lo hi with
  | some value => .ok (some (lineIx + cFieldLength, set value))
  | none => .ok none

/-- A name specifier of `parse_timestamp` (`%B`, `%b`, `%a`): the index of the name found by
`matchName`, stored by `set`. -/
def parseNameSpecifier (line : List Char) (lineIx : Nat) (names : List String)
    (set : Nat → ParsedFields) : Except LineAccessError (Option (Nat × ParsedFields)) := do
  match ← matchName line lineIx names 0 with
  | some (ix, lineIx') => .ok (some (lineIx', set ix))
  | none => .ok none

/-- The part-of-day specifier `%p` of `parse_timestamp`. -/
def parsePartOfDay (line : List Char) (lineIx : Nat) (f : ParsedFields) :
    Except LineAccessError (Option (Nat × ParsedFields)) := do
  if ← compareEq line lineIx 2 "AM".toList then .ok (some (lineIx + 2, { f with isPm := false }))
  else if ← compareEq line lineIx 2 "PM".toList then .ok (some (lineIx + 2, { f with isPm := true }))
  else .ok none

/-- One case of the `switch` in `parse_timestamp`: the specifier `c` read at `lineIx`, giving
the position after it and the updated fields, or `none` where the C++ returns false. -/
def parseSpecifier (line : List Char) (lineIx : Nat) (f : ParsedFields) :
    Char → Except LineAccessError (Option (Nat × ParsedFields))
  | '%' => do if '%' ≠ (← charAt line lineIx) then .ok none else .ok (some (lineIx + 1, f))
  | 'y' => parseNumericSpecifier line lineIx 2 '0' 0 99 fun v =>
      { f with year := if v ≥ 69 then v + 1900 else v + 2000 }
  | 'Y' => parseNumericSpecifier line lineIx 4 '0' 0 9999 fun v => { f with year := v }
  | 'B' => parseNameSpecifier line lineIx cMonthNames fun ix => { f with month := ix + 1 }
  | 'b' => parseNameSpecifier line lineIx cAbbrevMonthNames fun ix => { f with month := ix + 1 }
  | 'm' => parseNumericSpecifier line lineIx 2 '0' 1 12 fun v => { f with month := v }
  | 'd' => parseNumericSpecifier line lineIx 2 '0' 1 31 fun v => { f with date := v }
  | 'e' => parseNumericSpecifier line lineIx 2 ' ' 1 31 fun v => { f with date := v }
  | 'a' => parseNameSpecifier line lineIx cAbbrevDaysOfWeek fun _ => f
  | 'p' => parsePartOfDay line lineIx f
  | 'H' => parseNumericSpecifier line lineIx 2 '0' 0 23 fun v => { f with hour := v }
  | 'k' => parseNumericSpecifier line lineIx 2 ' ' 0 23 fun v => { f with hour := v }
  | 'I' => parseNumericSpecifier line lineIx 2 '0' 1 12 fun v =>
      { f with hour := v, uses12HourClock := true }
  | 'l' => parseNumericSpecifier line lineIx 2 ' ' 1 12 fun v =>
      { f with hour := v, uses12HourClock := true }
  | 'M' => parseNumericSpecifier line lineIx 2 '0' 0 59 fun v => { f with minute := v }
  | 'S' => parseNumericSpecifier line lineIx 2 '0' 0 60 fun v => { f with second := v }
  | '3' => parseNumericSpecifier line lineIx 3 '0' 0 999 fun v => { f with millisecond := v }
  | _ => .ok none

/-- The format loop of `parse_timestamp` from a position of the format on: the position reached
in the line and the fields read, or `none` where it returns false. The loop stops when the format
or the line ends, and the parse fails unless the format ended. -/
def parseFormat (line : List Char) :
    List Char → Bool → Nat → ParsedFields → Except LineAccessError (Option (Nat × ParsedFields))
  | [], _, lineIx, f => .ok (some (lineIx, f))
  | c :: rest, isSpecifier, lineIx, f =>
    if lineIx < line.length then
      if !isSpecifier then
        if '%' = c then parseFormat line rest true lineIx f
        else do
          if c ≠ (← charAt line lineIx) then .ok none
          else parseFormat line rest false (lineIx + 1) f
      else do
        match ← parseSpecifier line lineIx f c with
        | some (lineIx', f') => parseFormat line rest false lineIx' f'
        | none => .ok none
    else .ok none

/-- The loop that finds the beginning of the timestamp, shared by `parse_timestamp` and
`insert_formatted_timestamp`: walk the string until `numSpacesBeforeTs` spaces have been
passed or, after `n` more characters, the string ends. Returns the index reached and the number
of spaces found. -/
def findTimestampBegin (str : List Char) (numSpacesBeforeTs : Nat) :
    Nat → Nat → Nat → Except LineAccessError (Nat × Nat)
  | 0, ix, numSpacesFound => .ok (ix, numSpacesFound)
  | n + 1, ix, numSpacesFound =>
    if numSpacesFound < numSpacesBeforeTs then do
      let c ← charAt str ix
      findTimestampBegin str numSpacesBeforeTs n (ix + 1)
        (if ' ' = c then numSpacesFound + 1 else numSpacesFound)
    else .ok (ix, numSpacesFound)

/-- The hour on the 24-hour clock that `parse_timestamp` computes after the format loop. -/
def ParsedFields.hour24 (f : ParsedFields) : Nat :=
  if f.uses12HourClock then
    if 12 = f.hour then (if f.isPm then f.hour else 0)
    else if f.isPm then f.hour + 12 else f.hour
  else f.hour

/-- Milliseconds in a day. -/
def msPerDay : Int := 86400000

/-- The timestamp and its begin and end positions that `parse_timestamp` reports. -/
structure ParsedTimestamp where
  timestamp : Int
  timestampBeginPos : Nat
  timestampEndPos : Nat
  deriving DecidableEq, Repr

/-- `TimestampPattern::parse_timestamp`: the timestamp found in `line`, or `none` where the C++
returns false. -/
def TimestampPattern.parseTimestamp (p : TimestampPattern) (line : List Char) :
    Except LineAccessError (Option ParsedTimestamp) := do
  let (tsBeginIx, numSpacesFound) ←
    findTimestampBegin line p.numSpacesBeforeTs.toNat line.length 0 0
  if numSpacesFound < p.numSpacesBeforeTs.toNat then return none
  match ← parseFormat line p.format.toList false tsBeginIx {} with
  | none => return none
  | some (lineIx, f) =>
    let yearMonthDate : YearMonthDay := ⟨f.year, f.month, f.date⟩
    if !yearMonthDate.ok then return none
    let timestampPoint := yearMonthDate.toDays * msPerDay + f.hour24 * 3600000 +
      f.minute * 60000 + f.second * 1000 + f.millisecond
    let unixEpochPoint := YearMonthDay.toDays ⟨1970, 1, 1⟩ * msPerDay
    return some ⟨timestampPoint - unixEpochPoint, tsBeginIx, lineIx⟩

-- ════════════════════════════════════════════════════════════════════════
-- insert_formatted_timestamp
-- ════════════════════════════════════════════════════════════════════════

/-- The error codes of `ErrorCode.hpp` that the modelled functions throw with:
`ErrorCode_Failure`, `ErrorCode_NotInit` and `ErrorCode_Unsupported`. -/
inductive ErrorCode
  | failure
  | notInit
  | unsupported
  deriving DecidableEq, Repr

/-- How `insert_formatted_timestamp` ends without a result. -/
inductive InsertError
  /-- `TimestampPattern::OperationFailed`. -/
  | operationFailed (errorCode : ErrorCode)
  /-- `std::length_error`, thrown by `append` with a count beyond `max_size()`. -/
  | lengthError
  /-- A read of the message past its end. -/
  | lineAccess (e : LineAccessError)
  deriving DecidableEq, Repr

/-- `append_padded_value`: `str` followed by `to_string(value)`, padded on the left with
`paddingCharacter` to `length` characters. When the decimal text is longer than `length`, the
count `length - value_str.length()` wraps around and `append` throws `std::length_error`. -/
def appendPaddedValue (value : Int) (paddingCharacter : Char) (length : Nat) (str : List Char) :
    Except InsertError (List Char) :=
  let valueStr := (toString value).toList
  if valueStr.length ≤ length then
    .ok (str ++ List.replicate (length - valueStr.length) paddingCharacter ++ valueStr)
  else .error .lengthError

/-- The parts of a timestamp that `insert_formatted_timestamp` computes before its format loop. -/
structure TimestampFields where
  dayOfWeekIx : Nat
  date : Nat
  month : Nat
  year : Int
  hour : Int
  minute : Nat
  second : Nat
  millisecond : Nat
  deriving DecidableEq, Repr

/-- The UTC calendar date, weekday and time of day of `timestamp`, computed exactly: the day is
the floor of the time point in days. `insert_formatted_timestamp` computes these for every year
a `date::year` holds (`separate_eq_ofTimestamp`). -/
def TimestampFields.ofTimestamp (timestamp : Int) : TimestampFields :=
  let timestampPoint := YearMonthDay.toDays ⟨1970, 1, 1⟩ * msPerDay + timestamp
  let timestampDate := timestampPoint / msPerDay
  let yearMonthDate := YearMonthDay.fromDays timestampDate
  let timeOfDay := (timestampPoint - timestampDate * msPerDay).toNat
  { dayOfWeekIx := weekdayFromDays timestampDate
    date := yearMonthDate.day
    month := yearMonthDate.month
    year := yearMonthDate.year
    hour := (timeOfDay / 3600000 : Nat)
    minute := timeOfDay % 3600000 / 60000
    second := timeOfDay % 60000 / 1000
    millisecond := timeOfDay % 1000 }

/-- `date::floor<date::days>` of a time point in milliseconds: `duration_cast` truncates the
quotient toward zero and narrows it to the `int` of `date::days`, and a day is taken off when
that day begins after the time point. -/
def floorDays (timePoint : Int) : Int :=
  let t := (timePoint.tdiv msPerDay).bmod (2 ^ 32)
  if t * msPerDay > timePoint then t - 1 else t

/-- The parts of `timestamp` as `insert_formatted_timestamp` separates them: the day of
`floor<days>`, its weekday and `year_month_day`, whose `int` year `date::year` narrows to a
`short`, and `make_time` of what remains, which splits the absolute value of the time of day and
whose `hours()` the code narrows to an `int`. -/
def TimestampFields.separate (timestamp : Int) : TimestampFields :=
  let timestampPoint := YearMonthDay.toDays ⟨1970, 1, 1⟩ * msPerDay + timestamp
  let timestampDate := floorDays timestampPoint
  let yearMonthDate := YearMonthDay.fromDays timestampDate
  let timeOfDay := (timestampPoint - timestampDate * msPerDay).natAbs
  { dayOfWeekIx := weekdayFromDays timestampDate
    date := yearMonthDate.day
    month := yearMonthDate.month
    year := yearMonthDate.year.bmod (2 ^ 16)
    hour := ((timeOfDay / 3600000 : Nat) : Int).bmod (2 ^ 32)
    minute := timeOfDay % 3600000 / 60000
    second := timeOfDay % 60000 / 1000
    millisecond := timeOfDay % 1000 }

/-- The hour `%I` and `%l` write: `0` becomes `12` and hours above `13` lose `12`. The hour `13`
stays `13`, which is no hour of the 12-hour clock the two cases' comments name. -/
def hourOn12HourClock (hour : Int) : Int :=
  if 0 = hour then 12 else if hour > 13 then hour - 12 else hour

/-- One case of the `switch` in `insert_formatted_timestamp`: `newMsg` followed by the text of
specifier `c`. -/
def formatSpecifier (fields : TimestampFields) (newMsg : List Char) (c : Char) :
    Except InsertError (List Char) :=
  match c with
  | '%' => .ok (newMsg ++ ['%'])
  | 'y' =>
    appendPaddedValue (if fields.year ≥ 2000 then fields.year - 2000 else fields.year - 1900)
      '0' 2 newMsg
  | 'Y' => appendPaddedValue fields.year '0' 4 newMsg
  | 'B' => .ok (newMsg ++ (cMonthNames.getD (fields.month - 1) "").toList)
  | 'b' => .ok (newMsg ++ (cAbbrevMonthNames.getD (fields.month - 1) "").toList)
  | 'm' => appendPaddedValue fields.month '0' 2 newMsg
  | 'd' => appendPaddedValue fields.date '0' 2 newMsg
  | 'e' => appendPaddedValue fields.date ' ' 2 newMsg
  | 'a' => .ok (newMsg ++ (cAbbrevDaysOfWeek.getD fields.dayOfWeekIx "").toList)
  | 'p' => .ok (newMsg ++ (if fields.hour > 11 then "PM" else "AM").toList)
  | 'H' => appendPaddedValue fields.hour '0' 2 newMsg
  | 'k' => appendPaddedValue fields.hour ' ' 2 newMsg
  | 'I' => appendPaddedValue (hourOn12HourClock fields.hour) '0' 2 newMsg
  | 'l' => appendPaddedValue (hourOn12HourClock fields.hour) ' ' 2 newMsg
  | 'M' => appendPaddedValue fields.minute '0' 2 newMsg
  | 'S' => appendPaddedValue fields.second '0' 2 newMsg
  | '3' => appendPaddedValue fields.millisecond '0' 3 newMsg
  | _ => .error (.operationFailed .unsupported)

/-- The format loop of `insert_formatted_timestamp`. -/
def formatLoop (fields : TimestampFields) :
    List Char → Bool → List Char → Except InsertError (List Char)
  | [], _, newMsg => .ok newMsg
  | c :: rest, isSpecifier, newMsg =>
    if !isSpecifier then
      if '%' = c then formatLoop fields rest true newMsg
      else formatLoop fields rest false (newMsg ++ [c])
    else do
      let newMsg ← formatSpecifier fields newMsg c
      formatLoop fields rest false newMsg

/-- `TimestampPattern::insert_formatted_timestamp`: `msg` with `timestamp`, formatted by the
pattern, inserted after its `numSpacesBeforeTs`-th space. -/
def TimestampPattern.insertFormattedTimestamp (p : TimestampPattern) (timestamp : Int)
    (msg : List Char) : Except InsertError (List Char) := do
  let (tsBeginIx, numSpacesFound) ←
    (findTimestampBegin msg p.numSpacesBeforeTs.toNat msg.length 0 0).mapError .lineAccess
  if numSpacesFound < p.numSpacesBeforeTs.toNat then throw (.operationFailed .failure)
  let newMsg ← formatLoop (TimestampFields.separate timestamp) p.format.toList false
    (msg.take tsBeginIx)
  return newMsg ++ msg.drop tsBeginIx

-- ════════════════════════════════════════════════════════════════════════
-- The catalog and the search
-- ════════════════════════════════════════════════════════════════════════

/-- `TimestampPattern::init`: the known patterns, in the order `search_known_ts_patterns` tries
them. -/
def TimestampPattern.init : List TimestampPattern :=
  [⟨0, "%Y-%m-%dT%H:%M:%S.%3"⟩, ⟨0, "%Y-%m-%dT%H:%M:%S,%3"⟩, ⟨0, "[%Y-%m-%dT%H:%M:%S"⟩,
   ⟨0, "[%Y%m%d-%H:%M:%S]"⟩, ⟨0, "%Y-%m-%d %H:%M:%S,%3"⟩, ⟨0, "%Y-%m-%d %H:%M:%S.%3"⟩,
   ⟨0, "[%Y-%m-%d %H:%M:%S,%3]"⟩, ⟨0, "%Y-%m-%d %H:%M:%S"⟩, ⟨1, "%Y-%m-%d  %H:%M:%S"⟩,
   ⟨0, "%Y/%m/%d %H:%M:%S"⟩, ⟨0, "%y/%m/%d %H:%M:%S"⟩, ⟨0, "%y%m%d %k:%M:%S"⟩,
   ⟨0, "%d %b %Y %H:%M:%S,%3"⟩, ⟨0, "%b %d, %Y %l:%M:%S %p"⟩, ⟨0, "%B %d, %Y %H:%M"⟩,
   ⟨1, "[%d/%b/%Y:%H:%M:%S"⟩, ⟨3, "[%d/%b/%Y:%H:%M:%S"⟩, ⟨3, "[%d/%m/%Y:%H:%M:%S"⟩,
   ⟨2, "%Y-%m-%d %H:%M:%S,%3"⟩, ⟨6, "%Y-%m-%d %H:%M:%S"⟩, ⟨1, "%Y-%m-%d %H:%M:%S"⟩,
   ⟨4, "%a %b %e %H:%M:%S %Y"⟩, ⟨0, "<<<%Y-%m-%d %H:%M:%S:%3"⟩, ⟨0, "%b %d %H:%M:%S"⟩]

/-- `std::string::npos` as a `size_t`. -/
def npos : Nat := 2 ^ 64 - 1

/-- What `search_known_ts_patterns` returns and leaves in its output arguments. -/
structure SearchResult where
  pattern : Option TimestampPattern
  timestamp : Int
  timestampBeginPos : Nat
  timestampEndPos : Nat
  deriving DecidableEq, Repr

/-- `TimestampPattern::search_known_ts_patterns` over the patterns `knownTsPatterns`: the first
pattern that parses `line`, with its timestamp and positions, or no pattern with both positions
set to `npos` and `timestamp` left as it was. -/
def searchKnownTsPatterns (knownTsPatterns : List TimestampPattern) (line : List Char)
    (timestamp : Int) : Except LineAccessError SearchResult :=
  match knownTsPatterns with
  | [] => .ok ⟨none, timestamp, npos, npos⟩
  | p :: ps => do
    match ← p.parseTimestamp line with
    | some r => .ok ⟨some p, r.timestamp, r.timestampBeginPos, r.timestampEndPos⟩
    | none => searchKnownTsPatterns ps line timestamp

end ClpCore
