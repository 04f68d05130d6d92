import Scrutiny.Text.Printable
import Scrutiny.Text.Integer

/-!
Quoted text. The quote is an apostrophe unless the text holds an apostrophe and no double
quote. The quote and the backslash are escaped, so are the characters that cannot be printed:
the common controls by a letter, the others by their code point in two, four or eight
hexadecimal digits. Byte strings follow the same rule with every byte above 126 escaped.
-/

set_option autoImplicit false

namespace Scrutiny.Text

def apostrophe : Char := '\x27'

def hexDigits : Nat → Nat → List Char
  | 0, _ => []
  | w + 1, n => hexDigits w (n / 16) ++ [Nat.digitChar (n % 16)]

def quoteFor (t : List Char) : Char :=
  if t.contains apostrophe && !t.contains '"' then '"' else apostrophe

def controlEscape? (n : Nat) : Option (List Char) :=
  if n = 9 then some ['\\', 't']
  else if n = 10 then some ['\\', 'n']
  else if n = 13 then some ['\\', 'r']
  else none

def escapeChar (quote c : Char) : List Char :=
  if c = quote ∨ c = '\\' then ['\\', c]
  else
    match controlEscape? c.toNat with
    | some e => e
    | none =>
      if isPrintable c then [c]
      else if c.toNat ≤ 0xff then '\\' :: 'x' :: hexDigits 2 c.toNat
      else if c.toNat ≤ 0xffff then '\\' :: 'u' :: hexDigits 4 c.toNat
      else '\\' :: 'U' :: hexDigits 8 c.toNat

def escapeByte (quote : Char) (b : UInt8) : List Char :=
  if Char.ofNat b.toNat = quote ∨ b.toNat = 92 then ['\\', Char.ofNat b.toNat]
  else
    match controlEscape? b.toNat with
    | some e => e
    | none =>
      if 32 ≤ b.toNat ∧ b.toNat < 127 then [Char.ofNat b.toNat]
      else '\\' :: 'x' :: hexDigits 2 b.toNat

def quoted (t : List Char) : List Char :=
  quoteFor t :: t.flatMap (escapeChar (quoteFor t)) ++ [quoteFor t]

def quotedBytes (bs : List UInt8) : List Char :=
  let quote := quoteFor (bs.map fun b => Char.ofNat b.toNat)
  'b' :: quote :: bs.flatMap (escapeByte quote) ++ [quote]

end Scrutiny.Text
