import ResponsiveStyles.Text.Printable

/-!
# Texts as shown

A text is shown between double quotes. Quotes, backslashes and the common controls are escaped with a
backslash, and characters that are not shown as themselves are named by their code points.
-/
namespace ResponsiveStyles.Text

def named (c : Char) : Text :=
  '\\' :: 'u' :: '\x7b' :: (Nat.toDigits 16 c.toNat ++ ['\x7d'])

def showChar (c : Char) : Text :=
  match c with
  | '\x00' => ['\\', '0']
  | '\t' => ['\\', 't']
  | '\n' => ['\\', 'n']
  | '\r' => ['\\', 'r']
  | '"' => ['\\', '"']
  | '\\' => ['\\', '\\']
  | c => if isShown c then [c] else named c

def shown (t : Text) : Text :=
  '"' :: (t.flatMap showChar ++ ['"'])

end ResponsiveStyles.Text
