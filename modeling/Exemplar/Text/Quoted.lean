/-
Exemplar.Text.Quoted — texts in double quotes, for diagnostics.

Quotes, backslashes and the common control characters have short escapes. A character that has no
visible form, or that would attach to the one before it, is written by its code point.
-/
import Exemplar.Text.GraphemeExtend
import Exemplar.Text.Unprintable
import Exemplar.Text.Split

namespace Exemplar.Text

/-- A character by its code point: `\u`, then the hexadecimal digits in braces. -/
def escapeCode (c : Char) : List Char :=
  ['\\', 'u', '\x7b'] ++ Nat.toDigits 16 c.toNat ++ ['\x7d']

/-- How one character is written between double quotes. -/
def quoteChar (c : Char) : List Char :=
  if c = '\x00' then ['\\', '0']
  else if c = '\t' then ['\\', 't']
  else if c = '\r' then ['\\', 'r']
  else if c = '\n' then ['\\', 'n']
  else if c = '\\' then ['\\', '\\']
  else if c = '"' then ['\\', '"']
  else if graphemeExtendTable.holds c || unprintableTable.holds c then escapeCode c
  else [c]

/-- A text in double quotes. -/
def quoted (s : String) : String :=
  String.ofList ('"' :: s.toList.flatMap quoteChar ++ ['"'])

/-- Quoted texts in square brackets. -/
def quotedList (texts : List String) : String :=
  "[" ++ joinWith ", " (texts.map quoted) ++ "]"

end Exemplar.Text
