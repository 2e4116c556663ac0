import ClpCore.TimestampPattern.Defs

/-!
# Formats as token lists

`parse_timestamp` and `insert_formatted_timestamp` walk the format one character at a time with
an `is_specifier` flag. Both loops treat the format as a sequence of tokens: a literal character,
a `%` followed by a specifier character, or a `%` that ends the format. This file cuts the format
into those tokens once and proves that each loop is a loop over the tokens, so that later proofs
reason one token at a time.

## Main results

- `parseFormat_eq_parseTokens` — the parse loop is `parseTokens` over `tokenize`
- `formatLoop_eq_formatTokens` — the format loop is `formatTokens` over `tokenize`
-/

namespace ClpCore

/-- A token of a format string. -/
inductive FormatToken
  | literal (c : Char)
  | specifier (c : Char)
  /-- A `%` that is the last character of the format. -/
  | danglingPercent
  deriving DecidableEq, Repr

/-- The tokens of a format string. -/
def tokenize : List Char → List FormatToken
  | [] => []
  | ['%'] => [.danglingPercent]
  | '%' :: c :: rest => .specifier c :: tokenize rest
  | c :: rest => .literal c :: tokenize rest

/-- What `parse_timestamp` does with one token at `lineIx`. -/
def parseToken (line : List Char) (lineIx : Nat) (f : ParsedFields) :
    FormatToken → Except LineAccessError (Option (Nat × ParsedFields))
  | .literal c => do
    if c ≠ (← charAt line lineIx) then .ok none else .ok (some (lineIx + 1, f))
  | .specifier c => parseSpecifier line lineIx f c
  | .danglingPercent => .ok (some (lineIx, f))

/-- `parse_timestamp`'s loop over tokens: each token needs the line not to have ended. -/
def parseTokens (line : List Char) :
    List FormatToken → Nat → ParsedFields → Except LineAccessError (Option (Nat × ParsedFields))
  | [], lineIx, f => .ok (some (lineIx, f))
  | tok :: toks, lineIx, f =>
    if lineIx < line.length then do
      match ← parseToken line lineIx f tok with
      | some (lineIx', f') => parseTokens line toks lineIx' f'
      | none => .ok none
    else .ok none

/-- What `insert_formatted_timestamp` appends for one token. -/
def formatToken (fields : TimestampFields) (newMsg : List Char) :
    FormatToken → Except InsertError (List Char)
  | .literal c => .ok (newMsg ++ [c])
  | .specifier c => formatSpecifier fields newMsg c
  | .danglingPercent => .ok newMsg

/-- `insert_formatted_timestamp`'s loop over tokens. -/
def formatTokens (fields : TimestampFields) :
    List FormatToken → List Char → Except InsertError (List Char)
  | [], newMsg => .ok newMsg
  | tok :: toks, newMsg => do formatTokens fields toks (← formatToken fields newMsg tok)

@[simp] theorem parseTokens_nil (line : List Char) (lineIx : Nat) (f : ParsedFields) :
    parseTokens line [] lineIx f = .ok (some (lineIx, f)) := rfl

@[simp] theorem formatTokens_nil (fields : TimestampFields) (newMsg : List Char) :
    formatTokens fields [] newMsg = .ok newMsg := rfl

/-- **The parse loop reads tokens**: from the start of a token, `parse_timestamp`'s character
loop computes `parseTokens`. -/
theorem parseFormat_eq_parseTokens (line : List Char) (fmt : List Char) (lineIx : Nat)
    (f : ParsedFields) : parseFormat line fmt false lineIx f = parseTokens line (tokenize fmt) lineIx f := by
  induction fmt using tokenize.induct generalizing lineIx f with
  | case1 => rfl
  | case2 => simp [parseFormat, tokenize, parseTokens, parseToken]
  | case3 c rest ih =>
    by_cases h : lineIx < line.length
    · simp only [parseFormat, tokenize, parseTokens, parseToken, h, Bool.not_false, if_true,
        Bool.not_true, Bool.false_eq_true, if_false]
      cases parseSpecifier line lineIx f c with
      | error e => rfl
      | ok r =>
        rcases r with _ | ⟨lineIx', f'⟩
        · rfl
        · exact ih lineIx' f'
    · simp [parseFormat, tokenize, parseTokens, h]
  | case4 c rest h1 h2 ih =>
    have hc : c ≠ '%' := by rintro rfl; cases rest <;> simp_all
    have ht : tokenize (c :: rest) = .literal c :: tokenize rest := by
      cases rest <;> simp [tokenize, hc]
    by_cases h : lineIx < line.length
    · simp only [parseFormat, ht, parseTokens, parseToken, h, Bool.not_false, if_true, Ne.symm hc,
        if_false, ih]
      cases charAt line lineIx with
      | error e => rfl
      | ok ch => by_cases hch : c = ch <;> simp [hch]
    · simp [parseFormat, ht, parseTokens, h]

/-- **The format loop writes tokens**: from the start of a token, `insert_formatted_timestamp`'s
character loop computes `formatTokens`. -/
theorem formatLoop_eq_formatTokens (fields : TimestampFields) (fmt newMsg : List Char) :
    formatLoop fields fmt false newMsg = formatTokens fields (tokenize fmt) newMsg := by
  induction fmt using tokenize.induct generalizing newMsg with
  | case1 => rfl
  | case2 => rfl
  | case3 c rest ih =>
    simp only [formatLoop, tokenize, formatTokens, formatToken, Bool.not_false, if_true,
      Bool.not_true, Bool.false_eq_true, if_false, ih]
  | case4 c rest h1 h2 ih =>
    have hc : c ≠ '%' := by rintro rfl; cases rest <;> simp_all
    have ht : tokenize (c :: rest) = .literal c :: tokenize rest := by
      cases rest <;> simp [tokenize, hc]
    simp only [formatLoop, ht, formatTokens, formatToken, Bool.not_false, if_true, Ne.symm hc,
      if_false, ih]
    rfl

end ClpCore
