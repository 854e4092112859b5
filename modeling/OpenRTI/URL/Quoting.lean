import Mathlib.Data.List.Basic
import Mathlib.Data.Nat.Basic

/-!
# Quoting of bytes in a URL

A byte with a meaning of its own is written as a percent sign and two
hexadecimal digits.  Reading is tolerant: a percent sign that no two digits
follow stands for itself, unless the text ends before that is known.  The
percent sign is no byte that is quoted, so what is read back can differ.
-/

namespace OpenRTI
namespace URL

/-- The bytes of a string. -/
abbrev ByteString := List UInt8

/-! ## Characters -/

abbrev hash : UInt8 := 0x23
abbrev percent : UInt8 := 0x25
abbrev ampersand : UInt8 := 0x26
abbrev slash : UInt8 := 0x2F
abbrev colon : UInt8 := 0x3A
abbrev semicolon : UInt8 := 0x3B
abbrev equals : UInt8 := 0x3D
abbrev questionMark : UInt8 := 0x3F
abbrev openBracket : UInt8 := 0x5B
abbrev closeBracket : UInt8 := 0x5D

/-! ## Quoting -/

def hexChar (c : UInt8) : UInt8 :=
  if c < 10 then 0x30 + c else 0x41 - 10 + c

def quoteByte (c : UInt8) : ByteString :=
  [percent, hexChar ((c >>> 4) &&& 0xF), hexChar (c &&& 0xF)]

/-- Space and `!#$'()*+,:;=?@[]`. -/
def quotedCharacters : List UInt8 :=
  [0x20, 0x21, hash, 0x24, 0x27, 0x28, 0x29, 0x2A, 0x2B, 0x2C, colon, semicolon,
    equals, questionMark, 0x40, openBracket, closeBracket]

/-- Whether a byte is quoted; in a path the slash is not. -/
def isQuoted (pathMode : Bool) (c : UInt8) : Bool :=
  c ∈ quotedCharacters ∨ (c = slash ∧ pathMode = false) ∨ 127 < c

def quote (unquoted : ByteString) (pathMode : Bool) : ByteString :=
  unquoted.flatMap fun c => if isQuoted pathMode c then quoteByte c else [c]

/-- The value of a hexadecimal digit. -/
def hexValue (c : UInt8) : Option UInt8 :=
  if 0x30 ≤ c ∧ c ≤ 0x39 then some (c - 0x30)
  else if 0x41 ≤ c ∧ c ≤ 0x46 then some (c - 0x41 + 10)
  else if 0x61 ≤ c ∧ c ≤ 0x66 then some (c - 0x61 + 10)
  else none

/-- Read quoted bytes.  Where the source moves its position back behind a
percent sign that is not followed by two digits, the digits are looked at
before they are consumed. -/
def unquote : ByteString → ByteString
  | [] => []
  | c :: rest =>
      if c = percent then
        match rest with
        | [] => [0]
        | first :: behind =>
            match hexValue first with
            | none => percent :: unquote (first :: behind)
            | some high =>
                match behind with
                | [] => [high <<< 4]
                | second :: others =>
                    match hexValue second with
                    | none => percent :: unquote (first :: second :: others)
                    | some low => ((high <<< 4) + low) :: unquote others
      else c :: unquote rest

variable {c : UInt8}

/-! ## Reading what is written -/

theorem unquote_plain
    (plain : c ≠ percent)
    (rest : ByteString) :
    unquote (c :: rest) = c :: unquote rest := by
  rw [unquote.eq_def]
  exact if_neg plain

variable {first : UInt8}

theorem unquote_tolerant_first
    (notHex : hexValue first = none)
    (behind : ByteString) :
    unquote (percent :: first :: behind) =
      percent :: unquote (first :: behind) := by
  rw [unquote, if_pos rfl, notHex]

variable {second high : UInt8}

theorem unquote_tolerant_second
    (isHex : hexValue first = some high)
    (notHex : hexValue second = none)
    (others : ByteString) :
    unquote (percent :: first :: second :: others) =
      percent :: unquote (first :: second :: others) := by
  rw [unquote, if_pos rfl, isHex]
  dsimp only
  rw [notHex]

theorem unquote_hex
    {low : UInt8}
    (firstHex : hexValue first = some high)
    (secondHex : hexValue second = some low)
    (others : ByteString) :
    unquote (percent :: first :: second :: others) =
      ((high <<< 4) + low) :: unquote others := by
  rw [unquote, if_pos rfl, firstHex]
  dsimp only
  rw [secondHex]

theorem unquote_end : unquote [percent] = [0] := by
  rw [unquote, if_pos rfl]

theorem unquote_hex_end
    (firstHex : hexValue first = some high) :
    unquote [percent, first] = [high <<< 4] := by
  rw [unquote, if_pos rfl, firstHex]

set_option maxRecDepth 4000 in
/-- The digits of a byte are read as its value. -/
theorem hexValue_hexChar (c : UInt8) :
    hexValue (hexChar ((c >>> 4) &&& 0xF)) = some ((c >>> 4) &&& 0xF) ∧
      hexValue (hexChar (c &&& 0xF)) = some (c &&& 0xF) ∧
      (((c >>> 4) &&& 0xF) <<< 4) + (c &&& 0xF) = c := by
  have all : ∀ n < 256,
      hexValue (hexChar ((UInt8.ofNat n >>> 4) &&& 0xF)) =
          some ((UInt8.ofNat n >>> 4) &&& 0xF) ∧
        hexValue (hexChar (UInt8.ofNat n &&& 0xF)) =
          some (UInt8.ofNat n &&& 0xF) ∧
        (((UInt8.ofNat n >>> 4) &&& 0xF) <<< 4) + (UInt8.ofNat n &&& 0xF) =
          UInt8.ofNat n := by
    decide
  have this := all c.toNat c.toNat_lt
  rwa [UInt8.ofNat_toNat] at this

theorem unquote_quoteByte (c : UInt8) (rest : ByteString) :
    unquote (quoteByte c ++ rest) = c :: unquote rest := by
  obtain ⟨first, second, value⟩ := hexValue_hexChar c
  have read := unquote_hex first second rest
  rw [value] at read
  exact read

/-! ## Percent signs -/

theorem quote_cons (c : UInt8) (rest : ByteString) (pathMode : Bool) :
    quote (c :: rest) pathMode =
      (if isQuoted pathMode c then quoteByte c else [c]) ++
        quote rest pathMode :=
  List.flatMap_cons

/-- A byte that is not a percent sign is read back. -/
theorem unquote_quote_cons
    (different : c ≠ percent)
    (pathMode : Bool) (rest : ByteString) :
    unquote ((if isQuoted pathMode c then quoteByte c else [c]) ++ rest) =
      c :: unquote rest := by
  split
  · exact unquote_quoteByte c rest
  · exact unquote_plain different rest

set_option maxRecDepth 4000 in
/-- Digits are not quoted. -/
theorem isQuoted_of_hexValue
    (isHex : hexValue c = some high)
    (pathMode : Bool) :
    isQuoted pathMode c = false := by
  have all : ∀ n < 256, hexValue (UInt8.ofNat n) ≠ none →
      isQuoted true (UInt8.ofNat n) = false ∧
        isQuoted false (UInt8.ofNat n) = false := by
    decide
  have this := all c.toNat c.toNat_lt
  rw [UInt8.ofNat_toNat, isHex] at this
  cases pathMode with
  | true => exact (this (by simp)).1
  | false => exact (this (by simp)).2

/-- The percent sign is not quoted. -/
theorem isQuoted_percent (pathMode : Bool) :
    isQuoted pathMode percent = false := by
  cases pathMode <;> rfl

/-- Whether the first bytes of a text cannot be taken for the digits behind a
percent sign. -/
def noDigits : ByteString → Bool
  | [] => false
  | first :: behind =>
      if hexValue first = none then true
      else
        match behind with
        | [] => false
        | second :: _ => hexValue second = none

/-- Whether no percent sign of a text is taken for the begin of a quoted
byte. -/
def percentsKept : ByteString → Bool
  | [] => true
  | c :: rest =>
      (if c = percent then noDigits rest else true) && percentsKept rest

theorem noDigits_of_none
    (notHex : hexValue first = none)
    (behind : ByteString) :
    noDigits (first :: behind) = true := by
  rw [noDigits.eq_def]
  exact if_pos notHex

theorem noDigits_of_some
    (isHex : hexValue first = some high)
    (second : UInt8) (others : ByteString) :
    noDigits (first :: second :: others) = decide (hexValue second = none) := by
  have notNone : ¬hexValue first = none := by
    rw [isHex]
    exact Option.some_ne_none high
  rw [noDigits, if_neg notNone]

/-- A byte that is quoted starts with a percent sign, which is no digit. -/
theorem hexValue_percent : hexValue percent = none := rfl

theorem ne_percent_of_hexValue
    (isHex : hexValue c = some high) :
    c ≠ percent := by
  intro same
  rw [same, hexValue_percent] at isHex
  cases isHex

/-- The first byte that is written is a digit if and only if the first byte of
the text is this digit. -/
theorem quote_cons_cases
    (c : UInt8) (rest : ByteString) (pathMode : Bool) :
    (hexValue c = none ∧ ∃ first behind,
        quote (c :: rest) pathMode = first :: behind ∧
          hexValue first = none) ∨
      ∃ high, hexValue c = some high ∧
        quote (c :: rest) pathMode = c :: quote rest pathMode := by
  rw [quote_cons]
  cases isHex : hexValue c with
  | some high =>
      rw [if_neg (by rw [isQuoted_of_hexValue isHex]; exact Bool.false_ne_true)]
      exact Or.inr ⟨high, rfl, rfl⟩
  | none =>
      refine Or.inl ⟨rfl, ?_⟩
      split
      · exact ⟨_, _, rfl, hexValue_percent⟩
      · exact ⟨_, _, rfl, isHex⟩

variable {rest : ByteString}

/-- What follows a percent sign is read by itself if its first bytes are no
digits. -/
theorem unquote_percent_quote
    (kept : noDigits rest = true)
    (pathMode : Bool) :
    unquote (percent :: quote rest pathMode) =
      percent :: unquote (quote rest pathMode) := by
  cases rest with
  | nil => cases kept
  | cons c rest =>
      rcases quote_cons_cases c rest pathMode with
        ⟨_, first, behind, written, notHex⟩ | ⟨high, isHex, written⟩
      · rw [written]
        exact unquote_tolerant_first notHex behind
      · rw [written]
        cases rest with
        | nil =>
            rw [noDigits, isHex] at kept
            cases kept
        | cons d rest =>
            rw [noDigits_of_some isHex] at kept
            have notHex := of_decide_eq_true kept
            rcases quote_cons_cases d rest pathMode with
              ⟨_, second, others, written, tolerant⟩ | ⟨low, isHex', _⟩
            · rw [written]
              exact unquote_tolerant_second isHex tolerant others
            · rw [notHex] at isHex'
              cases isHex'

/-- Reading a byte does not make a text longer. -/
theorem length_unquote_cons_le (c : UInt8) (rest : ByteString) :
    (unquote (c :: rest)).length ≤ (unquote rest).length + 1 := by
  by_cases isPercent : c = percent
  · rw [isPercent]
    cases rest with
    | nil => exact Nat.le_refl 1
    | cons first behind =>
        cases isHex : hexValue first with
        | none =>
            rw [unquote_tolerant_first isHex]
            exact le_refl _
        | some high =>
            cases behind with
            | nil =>
                rw [unquote_hex_end isHex]
                exact Nat.le_add_left _ _
            | cons second others =>
                cases isHex' : hexValue second with
                | none =>
                    rw [unquote_tolerant_second isHex isHex']
                    exact le_refl _
                | some low =>
                    rw [unquote_hex isHex isHex',
                      unquote_plain (ne_percent_of_hexValue isHex),
                      unquote_plain (ne_percent_of_hexValue isHex')]
                    simp only [List.length_cons]
                    omega
  · rw [unquote_plain isPercent]
    exact le_refl _

variable (unquoted : ByteString)

/-- A text that is written and read is no longer than it was. -/
theorem length_unquote_quote_append_le
    (rest : ByteString) (pathMode : Bool) :
    (unquote (quote unquoted pathMode ++ rest)).length ≤
      unquoted.length + (unquote rest).length := by
  induction unquoted with
  | nil => exact Nat.le_add_left _ _
  | cons c unquoted ih =>
      rw [quote_cons, List.append_assoc, List.length_cons]
      have read : (unquote ((if isQuoted pathMode c then quoteByte c else [c]) ++
          (quote unquoted pathMode ++ rest))).length ≤
            (unquote (quote unquoted pathMode ++ rest)).length + 1 := by
        split
        · rw [unquote_quoteByte]
          exact le_refl _
        · exact length_unquote_cons_le c _
      omega

theorem length_unquote_quote_le (unquoted : ByteString) (pathMode : Bool) :
    (unquote (quote unquoted pathMode)).length ≤ unquoted.length := by
  have read := length_unquote_quote_append_le unquoted [] pathMode
  rwa [List.append_nil] at read

/-- A percent sign with digits behind it is not read as itself. -/
theorem unquote_percent_ne
    (taken : noDigits rest = false)
    (pathMode : Bool) :
    unquote (percent :: quote rest pathMode) ≠ percent :: rest := by
  cases rest with
  | nil =>
      change unquote [percent] ≠ _
      rw [unquote_end]
      decide
  | cons c rest =>
      intro same
      rcases quote_cons_cases c rest pathMode with
        ⟨notHex, _⟩ | ⟨high, isHex, written⟩
      · rw [noDigits_of_none notHex] at taken
        cases taken
      · rw [written] at same
        cases rest with
        | nil =>
            change unquote [percent, c] = _ at same
            rw [unquote_hex_end isHex] at same
            cases congrArg List.length same
        | cons d rest =>
            rcases quote_cons_cases d rest pathMode with
              ⟨notHex, _⟩ | ⟨low, isHex', written⟩
            · rw [noDigits_of_some isHex] at taken
              exact of_decide_eq_false taken notHex
            · rw [written, unquote_hex isHex isHex'] at same
              have shorter := length_unquote_quote_le rest pathMode
              have length := congrArg List.length same
              simp only [List.length_cons] at length
              omega

/-- A text is read as it was written if and only if no percent sign in it is
taken for the begin of a quoted byte. -/
theorem unquote_quote_iff
    (pathMode : Bool) :
    unquote (quote unquoted pathMode) = unquoted ↔
      percentsKept unquoted = true := by
  induction unquoted with
  | nil => exact iff_of_true rfl rfl
  | cons c rest ih =>
      rw [quote_cons, percentsKept, Bool.and_eq_true, ← ih]
      by_cases isPercent : c = percent
      · rw [if_pos isPercent, isPercent, isQuoted_percent]
        change unquote (percent :: quote rest pathMode) = _ ↔ _
        cases kept : noDigits rest with
        | true =>
            rw [unquote_percent_quote kept]
            simp
        | false =>
            refine iff_of_false (unquote_percent_ne kept pathMode) ?_
            simp
      · rw [if_neg isPercent, unquote_quote_cons isPercent]
        simp

end URL
end OpenRTI
