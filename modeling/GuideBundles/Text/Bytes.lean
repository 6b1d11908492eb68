/-
# `Text.Bytes` — texts as bytes of files

Files hold the UTF-8 form of a text; bytes that are no such form have no text.
-/
import GuideBundles.Text.Basic

namespace GuideBundles.Text

/-- The text that bytes are the UTF-8 form of. -/
def ofBytes? (data : ByteArray) : Option Text := (String.fromUTF8? data).map String.toList

/-- The UTF-8 form of a text. -/
def toBytes (t : Text) : ByteArray := (String.ofList t).toUTF8

@[simp] theorem ofBytes?_toBytes (t : Text) : ofBytes? t.toBytes = some t := by
  have h : String.fromUTF8? (String.ofList t).toUTF8 = some (String.ofList t) :=
    dif_pos (String.ofList t).isValidUTF8
  simp only [ofBytes?, toBytes, h, Option.map_some, String.toList_ofList]

end GuideBundles.Text
