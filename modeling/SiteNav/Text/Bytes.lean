/-!
# Text as bytes

The UTF-8 bytes of a text, as a list, and the partial way back. Positions in a stylesheet, the room
of a sink and percent escapes are all measured in these bytes, while everything else in the library
works on characters.
-/

namespace SiteNav

def utf8 (cs : List Char) : List UInt8 :=
  cs.flatMap String.utf8EncodeChar

/-- The text that some bytes spell, if they are valid UTF-8. -/
def ofUtf8? (bs : List UInt8) : Option (List Char) :=
  bs.toByteArray.utf8Decode?.map Array.toList

@[simp] theorem utf8_nil : utf8 [] = [] := rfl

@[simp] theorem utf8_cons (c : Char) (cs : List Char) :
    utf8 (c :: cs) = String.utf8EncodeChar c ++ utf8 cs := by simp [utf8]

@[simp] theorem utf8_append (cs ds : List Char) : utf8 (cs ++ ds) = utf8 cs ++ utf8 ds := by
  simp [utf8]

/-- Reading the bytes of a text gives the text back. -/
@[simp] theorem ofUtf8?_utf8 (cs : List Char) : ofUtf8? (utf8 cs) = some cs := by
  have h : (utf8 cs).toByteArray = cs.utf8Encode := rfl
  simp [ofUtf8?, h, List.utf8Decode?_utf8Encode]

/-- Bytes spell one text only. -/
theorem utf8_injective {cs ds : List Char} (h : utf8 cs = utf8 ds) : cs = ds := by
  simpa using congrArg ofUtf8? h

end SiteNav
