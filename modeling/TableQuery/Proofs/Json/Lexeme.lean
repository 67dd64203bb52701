import TableQuery.Proofs.Json.Printed
import TableQuery.Proofs.Number.Digits

/-!
# Reading back the text of a number

A well-formed lexeme has one text, and the scanner finds the parts of the
lexeme in it again, whatever follows. What the number is then worth is left to
`Numeral.ofLexeme?`.
-/

namespace TableQuery.Json

/-- A run of digits, of at least one. -/
def IsDigits (text : List Char) : Prop := text ≠ [] ∧ ∀ c ∈ text, Decimal.isDigit c = true

theorem isDigits_toDigits (n : Nat) : IsDigits (Nat.toDigits 10 n) :=
  ⟨Nat.toDigits_ne_nil, fun _ h => Decimal.isDigit_of_mem_toDigits h⟩

/-- A text does not go on with a digit. -/
def StopsDigits (text : List Char) : Prop := ∀ c ∈ text.head?, Decimal.isDigit c = false

theorem StopsDigits.takeWhile_eq {digits rest : List Char} (hrest : StopsDigits rest)
    (h : ∀ c ∈ digits, Decimal.isDigit c = true) :
    (digits ++ rest).takeWhile Decimal.isDigit = digits := by
  rw [List.takeWhile_append_of_pos h]
  cases rest with
  | nil => simp
  | cons c rest => simp [hrest c rfl]

theorem StopsDigits.dropWhile_eq {digits rest : List Char} (hrest : StopsDigits rest)
    (h : ∀ c ∈ digits, Decimal.isDigit c = true) :
    (digits ++ rest).dropWhile Decimal.isDigit = rest := by
  rw [List.dropWhile_append_of_pos h]
  cases rest with
  | nil => rfl
  | cons c rest => simp [hrest c rfl]

theorem EndsNumber.stopsDigits {text : List Char} (h : EndsNumber text) : StopsDigits text :=
  fun c hc => (h c hc).1

namespace Lexeme

def exponentText : Option (Bool × List Char) → List Char
  | none => []
  | some (down, digits) => 'e' :: (if down then '-' else '+') :: digits

def fractionText : Option (List Char) → List Char
  | none => []
  | some digits => '.' :: digits

/-- The text of a lexeme after its sign. -/
def unsignedText (l : Lexeme) : List Char :=
  l.whole ++ (fractionText l.fraction ++ exponentText l.exponent)

/-- The text of a lexeme, with a sign on its exponent. -/
def text (l : Lexeme) : List Char := (if l.negative then ['-'] else []) ++ l.unsignedText

/-- Every part of a lexeme has digits, and a zero in front stands alone. -/
structure WellFormed (l : Lexeme) : Prop where
  whole : IsDigits l.whole
  leading : l.whole = ['0'] ∨ l.whole.head? ≠ some '0'
  fraction : ∀ digits ∈ l.fraction, IsDigits digits
  exponent : ∀ part ∈ l.exponent, IsDigits part.2

/-- What a lexeme is read as. -/
def reading (l : Lexeme) : Except Fault Numeral :=
  match Numeral.ofLexeme? l with
  | some n => .ok n
  | none => .error .malformed

end Lexeme

namespace Draft

open Lexeme

theorem scanSign_sign (down : Bool) (text : List Char) :
    Decimal.scanSign ((if down then '-' else '+') :: text) = (down, text) := by
  cases down <;> rfl

theorem scanExponent_text {exponent : Option (Bool × List Char)}
    (h : ∀ part ∈ exponent, IsDigits part.2) {rest : List Char} (hrest : EndsNumber rest)
    (negative : Bool) (whole : List Char) (fraction : Option (List Char)) :
    scanExponent negative whole fraction (exponentText exponent ++ rest) =
      ⟨.numeral (reading ⟨negative, whole, fraction, exponent⟩), some rest⟩ := by
  cases exponent with
  | none =>
      cases rest with
      | nil => rfl
      | cons c rest =>
          obtain ⟨-, -, he, hE⟩ := hrest c rfl
          simp [exponentText, scanExponent, he, hE]
          rfl
  | some part =>
      obtain ⟨down, digits⟩ := part
      obtain ⟨hne, hdigits⟩ := h _ rfl
      have htake := hrest.stopsDigits.takeWhile_eq hdigits
      have hdrop := hrest.stopsDigits.dropWhile_eq hdigits
      simp [exponentText, scanExponent, scanSign_sign, htake, hdrop, hne]
      rfl

/-- What follows the fraction starts with no digit and with no point. -/
theorem head?_exponentText {exponent : Option (Bool × List Char)} {rest : List Char}
    (hrest : EndsNumber rest) :
    ∀ c ∈ (exponentText exponent ++ rest).head?, Decimal.isDigit c = false ∧ c ≠ '.' := by
  cases exponent with
  | none => exact fun c hc => ⟨(hrest c hc).1, (hrest c hc).2.1⟩
  | some part =>
      intro c hc
      obtain rfl : 'e' = c := Option.some.inj hc
      decide

theorem stopsDigits_fractionText {fraction : Option (List Char)} {text : List Char}
    (h : StopsDigits text) : StopsDigits (fractionText fraction ++ text) := by
  cases fraction with
  | none => exact h
  | some digits =>
      intro c hc
      obtain rfl : '.' = c := Option.some.inj hc
      decide

theorem scanNumber_text {l : Lexeme} (hl : l.WellFormed) {rest : List Char}
    (hrest : EndsNumber rest) :
    scanNumber l.negative (l.unsignedText ++ rest) = ⟨.numeral l.reading, some rest⟩ := by
  obtain ⟨negative, whole, fraction, exponent⟩ := l
  obtain ⟨⟨hne, hdigits⟩, hleading, hfraction, hexponent⟩ := hl
  dsimp only at hne hdigits hleading hfraction hexponent ⊢
  have htail : ∀ c ∈ (exponentText exponent ++ rest).head?, Decimal.isDigit c = false ∧ c ≠ '.' :=
    head?_exponentText hrest
  have hstops : StopsDigits (exponentText exponent ++ rest) := fun c hc => (htail c hc).1
  have hscan := scanExponent_text hexponent hrest negative whole
  have hwhole : StopsDigits (fractionText fraction ++ (exponentText exponent ++ rest)) :=
    stopsDigits_fractionText hstops
  rw [unsignedText, List.append_assoc, List.append_assoc, scanNumber, hwhole.takeWhile_eq hdigits,
    hwhole.dropWhile_eq hdigits]
  dsimp only
  split
  · exact absurd rfl hne
  · simp at hleading
  · cases fraction with
    | none =>
        rw [fractionText, List.nil_append]
        split
        · next tail h => exact absurd rfl (htail '.' (by rw [h]; rfl)).2
        · exact hscan none
    | some digits =>
        obtain ⟨hfilled, hdigits⟩ := hfraction digits rfl
        simp [fractionText, hstops.takeWhile_eq hdigits, hstops.dropWhile_eq hdigits, hfilled,
          hscan]

end Draft

namespace Lexeme

theorem exists_unsignedText_eq {l : Lexeme} (hl : l.WellFormed) :
    ∃ c tail, l.unsignedText = c :: tail ∧ Decimal.isDigit c = true := by
  obtain ⟨hne, hdigits⟩ := hl.whole
  obtain ⟨c, digits, hwhole⟩ := List.exists_cons_of_ne_nil hne
  refine ⟨c, digits ++ (fractionText l.fraction ++ exponentText l.exponent), ?_,
    hdigits c (by simp [hwhole])⟩
  rw [unsignedText, hwhole, List.cons_append]

end Lexeme

/-- A digit is none of the characters that other values start with. -/
theorem ne_of_isDigit {c d : Char} (hc : Decimal.isDigit c = true)
    (hd : Decimal.isDigit d = false) : c ≠ d := by
  rintro rfl
  rw [hc] at hd
  cases hd

theorem Draft.isSpace_of_isDigit {c : Char} (h : Decimal.isDigit c = true) : isSpace c = false := by
  have hne := fun d hd => ne_of_isDigit (d := d) h hd
  simp [isSpace, hne ' ' rfl, hne '\n' rfl, hne '\t' rfl, hne '\r' rfl]

theorem Draft.scanValue_of_isDigit {c : Char} (h : Decimal.isDigit c = true) (fuel : Nat)
    (text : List Char) : scanValue (fuel + 1) (c :: text) = scanNumber false (c :: text) := by
  have hskip : skipSpace (c :: text) = c :: text := by simp [skipSpace, isSpace_of_isDigit h]
  rw [scanValue, hskip]
  split
  case h_9 => rw [if_pos (by simp_all)]; simp_all
  all_goals simp_all [Decimal.isDigit]

theorem Draft.scanValue_text {l : Lexeme} (hl : l.WellFormed) {rest : List Char}
    (hrest : EndsNumber rest) (fuel : Nat) :
    scanValue (fuel + 1) (l.text ++ rest) = ⟨.numeral l.reading, some rest⟩ := by
  have hnumber := scanNumber_text hl hrest
  cases hnegative : l.negative with
  | true =>
      have hskip : ∀ text, skipSpace ('-' :: text) = '-' :: text := fun _ => rfl
      rw [hnegative] at hnumber
      simp [Lexeme.text, hnegative, scanValue, hskip, hnumber]
  | false =>
      obtain ⟨c, tail, htext, hc⟩ := Lexeme.exists_unsignedText_eq hl
      have hsign : l.text = l.unsignedText := by simp [Lexeme.text, hnegative]
      rw [hnegative] at hnumber
      rw [hsign, ← hnumber, htext]
      exact scanValue_of_isDigit hc fuel (tail ++ rest)

/-- A numeral whose text is that of a lexeme is read as the lexeme. -/
theorem Numeral.readsAs_of_render_eq {n : Numeral} {l : Lexeme} (hl : l.WellFormed)
    (h : n.render = l.text) : n.ReadsAs l.reading := by
  refine ⟨?_, fun hrest fuel => h ▸ Draft.scanValue_text hl hrest fuel⟩
  rw [h]
  cases hnegative : l.negative with
  | true => exact ⟨'-', l.unsignedText, by simp [Lexeme.text, hnegative], by decide⟩
  | false =>
      obtain ⟨c, tail, htext, hc⟩ := Lexeme.exists_unsignedText_eq hl
      exact ⟨c, tail, by simp [Lexeme.text, hnegative, htext], Draft.isSpace_of_isDigit hc,
        ne_of_isDigit hc rfl, ne_of_isDigit hc rfl⟩

end TableQuery.Json
