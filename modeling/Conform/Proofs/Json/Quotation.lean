import Conform.Json.Printer
import Conform.Json.Token

/-
  Quoted texts. What is written for a text is read as that
  text, whatever comes after it, so that a quoted text can
  be spoken of without its escapes.

  Main declarations:
    * `Json.Spells`
    * `Json.Token.scanString?_escape`
    * `Json.Token.scanString?_escapes`
    * `Json.quote_plain`
    * `Json.spells_quote`
-/

namespace Conform

namespace Json

/-
  What is written denotes a text: the token in front of any
  rest is the text, and nothing but the rest remains.
-/
def Spells
    (written s : String) : Prop :=
  ∀ rest, Token.next? (written.toList ++ rest) =
    some (.text s, rest)

------------------------------------------------------------
-- Escapes
------------------------------------------------------------

namespace Token

section

variable {c : Char}

/- An escape of one letter is read as the character. -/
theorem scanString?_letter
    {letter : Char}
    (hShort : shortEscape? c = some letter)
    (done rest : List Char) :
    scanString? done ('\\' :: letter :: rest) =
      scanString? (c :: done) rest := by
  unfold shortEscape? at hShort
  split at hShort <;> cases hShort <;> rfl

/- The control characters are few, and have two digits. -/
theorem escape_control :
    ∀ n < 0x20, shortEscape? (Char.ofNat n) = none →
      escape (Char.ofNat n) =
        [ '\\', 'u', '0', '0', Nat.digitChar (n / 16),
          Nat.digitChar (n % 16) ] := by
  decide

theorem hexWord?_control :
    ∀ n < 0x20,
      hexWord? '0' '0' (Nat.digitChar (n / 16))
          (Nat.digitChar (n % 16)) =
        some n := by
  decide

/- An escape with digits is read as the character. -/
theorem scanString?_control
    (hShort : shortEscape? c = none)
    (hSize : c.toNat < 0x20)
    (done rest : List Char) :
    scanString? done (escape c ++ rest) =
      scanString? (c :: done) rest := by
  rw [← c.ofNat_toNat] at hShort ⊢
  generalize c.toNat = n at hShort hSize ⊢
  have hHigh : isHighHalf n = false := by
    simp only [isHighHalf, Bool.and_eq_false_iff,
      decide_eq_false_iff_not]
    omega
  have hLow : isLowHalf n = false := by
    simp only [isLowHalf, Bool.and_eq_false_iff,
      decide_eq_false_iff_not]
    omega
  rw [escape_control n hSize hShort]
  simp only [List.cons_append, List.nil_append,
    scanString?.eq_2, hexWord?_control n hSize, hHigh, hLow,
    Bool.false_eq_true, if_false]

/- A character without an escape is read as it is. -/
theorem scanString?_plain
    (hShort : shortEscape? c = none)
    (hSize : ¬ c.toNat < 0x20)
    (done rest : List Char) :
    scanString? done (c :: rest) =
      scanString? (c :: done) rest := by
  have hQuote : c ≠ '"' := by
    rintro rfl
    cases hShort
  have hSlash : c ≠ '\\' := by
    rintro rfl
    cases hShort
  rw [scanString?, if_neg hSize]
  · exact hQuote
  · exact fun _ _ _ _ _ h _ => hSlash h
  · exact fun _ _ h _ => hSlash h

/- What is written for a character is read as it. -/
theorem scanString?_escape
    (c : Char)
    (done rest : List Char) :
    scanString? done (escape c ++ rest) =
      scanString? (c :: done) rest := by
  cases hShort : shortEscape? c with
  | some letter =>
      rw [escape, hShort]
      exact scanString?_letter hShort done rest
  | none =>
      by_cases hSize : c.toNat < 0x20
      · exact scanString?_control hShort hSize done rest
      · rw [escape, hShort]
        dsimp only
        rw [if_neg hSize]
        exact scanString?_plain hShort hSize done rest

end

/- A text is read up to the quotation mark behind it. -/
theorem scanString?_escapes
    (cs done rest : List Char) :
    scanString? done (cs.flatMap escape ++ '"' :: rest) =
      some (String.ofList (done.reverse ++ cs), rest) := by
  induction cs generalizing done with
  | nil =>
      rw [List.append_nil]
      exact scanString?.eq_1 done rest
  | cons c cs ih =>
      rw [List.flatMap_cons, List.append_assoc,
        scanString?_escape, ih, List.reverse_cons,
        List.append_assoc]
      rfl

end Token

------------------------------------------------------------
-- Quoted Texts
------------------------------------------------------------

/- A text without escapes stands in its quotation marks. -/
theorem quote_plain
    (s : String)
    (h : s.toList.flatMap escape = s.toList) :
    quote s = "\"" ++ s ++ "\"" := by
  rw [quote, h, String.ofList_toList]

/- A quoted text denotes the text. -/
theorem spells_quote
    (s : String) :
    Spells (quote s) s := by
  intro rest
  have hWritten : (quote s).toList ++ rest =
      '"' :: (s.toList.flatMap escape ++ '"' :: rest) := by
    simp [quote]
  rw [hWritten, Token.next?, Token.scanString?_escapes]
  simp

/- Items of a list are written one after the other. -/
theorem renderItems_eq_map
    (items : List Json) :
    renderItems items = items.map render := by
  induction items with
  | nil => rfl
  | cons j rest ih => rw [renderItems, ih, List.map_cons]

end Json

end Conform
