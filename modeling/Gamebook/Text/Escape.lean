import Gamebook.Text.Basic

/-!
Escaping for HTML. A style says what becomes of the two quotes; `&`, `<` and `>` are always
escaped, so that escaped text opens no tag and no entity of its own.
-/

namespace Gamebook.Text

structure EscapeStyle where
  quote : Text
  apostrophe : Text

namespace EscapeStyle

def inText : EscapeStyle := ⟨['"'], ['\'']⟩

def inAttribute : EscapeStyle := ⟨"&quot;", "&#x27;"⟩

def inTemplate : EscapeStyle := ⟨"&#34;", "&#39;"⟩

def char (style : EscapeStyle) (c : Char) : Text :=
  if c = '&' then "&amp;"
  else if c = '<' then "&lt;"
  else if c = '>' then "&gt;"
  else if c = '"' then style.quote
  else if c = '\'' then style.apostrophe
  else [c]

end EscapeStyle

def escape (style : EscapeStyle) (text : Text) : Text := text.flatMap style.char

@[simp] theorem escape_nil (style : EscapeStyle) : escape style [] = [] := rfl

@[simp] theorem escape_cons (style : EscapeStyle) (c : Char) (text : Text) :
    escape style (c :: text) = style.char c ++ escape style text := rfl

@[simp] theorem escape_append (style : EscapeStyle) (left right : Text) :
    escape style (left ++ right) = escape style left ++ escape style right := by
  simp [escape]

end Gamebook.Text
