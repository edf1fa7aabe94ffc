import SessionLedger.Text.Hidden

/-!
# Quoted text

How a fault report shows a text: between double quotes, with the quote, the backslash and the
common controls escaped by a backslash and a letter, and every hidden character by its code point
in lower-case hexadecimal digits.

## Main definitions

* `Text.quotedChar` — how one character is shown
* `Text.quoted` — how a text is shown
-/

namespace SessionLedger

namespace Text

/-- The hexadecimal digits of a number, most significant first, without leading zeros. -/
def hexDigits (n : Nat) : List Char := Nat.toDigits 16 n

/-- How a character is shown inside quotes. -/
def quotedChar (c : Char) : List Char :=
  match c with
  | '\x00' => ['\\', '0']
  | '\t' => ['\\', 't']
  | '\n' => ['\\', 'n']
  | '\r' => ['\\', 'r']
  | '"' => ['\\', '"']
  | '\\' => ['\\', '\\']
  | c => if isHidden c then ['\\', 'u', '\x7b'] ++ hexDigits c.toNat ++ ['\x7d'] else [c]

/-- A text as a fault report shows it. -/
def quoted (s : String) : String :=
  String.ofList ('"' :: s.toList.flatMap quotedChar ++ ['"'])

theorem quotedChar_of_visible {c : Char} (h : isHidden c = false) (hq : c ≠ '"') (hb : c ≠ '\\') :
    quotedChar c = [c] := by
  have h0 : isHidden '\x00' = true := by decide +kernel
  have ht : isHidden '\t' = true := by decide +kernel
  have hn : isHidden '\n' = true := by decide +kernel
  have hr : isHidden '\r' = true := by decide +kernel
  unfold quotedChar
  split <;> simp_all

end Text

end SessionLedger
