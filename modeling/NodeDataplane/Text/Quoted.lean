import NodeDataplane.Text.Digit
import NodeDataplane.Text.Printable

/-!
# Quoted texts

Texts are quoted in messages so that a reader can tell where they end. The quote is `'`, unless the
text holds a `'` and no `"`. Inside, the quote, the backslash and whatever does not print are
escaped. Bytes are quoted likewise behind a `b`; of them only those of ASCII stand for characters.
-/

namespace NodeDataplane.Text

def quoteFor (cs : List Char) : Char :=
  if cs.contains '\'' && !cs.contains '"' then '"' else '\''

/-- A character as it stands between quotes: itself if it prints, else the shortest of the three
numeric escapes, or the name of a tab or a line break. -/
def quotedChar (quote c : Char) : String :=
  if c == quote || c == '\\' then String.ofList ['\\', c]
  else if c == '\n' then "\\n"
  else if c == '\r' then "\\r"
  else if c == '\t' then "\\t"
  else if isPrintable c then String.singleton c
  else if c.toNat < 0x100 then "\\x" ++ zeroPadded 2 (hex c.toNat)
  else if c.toNat < 0x10000 then "\\u" ++ zeroPadded 4 (hex c.toNat)
  else "\\U" ++ zeroPadded 8 (hex c.toNat)

def quoted (s : String) : String :=
  let quote := quoteFor s.toList
  String.singleton quote ++ String.join (s.toList.map (quotedChar quote)) ++ String.singleton quote

/-- A byte as it stands between quotes: escaped by its number if it is no character of ASCII. -/
def quotedByte (quote : Char) (b : UInt8) : String :=
  if b.toNat < 0x80 then quotedChar quote (Char.ofNat b.toNat) else "\\x" ++ hex b.toNat

def quotedBytes (content : List UInt8) : String :=
  let quote := quoteFor (content.map fun b => Char.ofNat b.toNat)
  "b" ++ String.singleton quote ++ String.join (content.map (quotedByte quote)) ++
    String.singleton quote

end NodeDataplane.Text
