/-
The lines that a stream of text supplies.

- `utf8EncodeChar_cases`: no character but the line feed has the byte of a line feed in it;
- `cutLines_utf8`: so bytes that are a text in UTF-8 are cut where the text is;
- `linesOfBytes_text`: their lines are the lines of the text.
-/
import Playscript.Console.Lines
import Playscript.Proofs.Text.Lines

namespace Playscript

/-- a line feed is one byte, and no other character has that byte in it -/
theorem utf8EncodeChar_cases (c : Char) :
    c = '\n' ∧ String.utf8EncodeChar c = [10] ∨ c ≠ '\n' ∧ (10 : UInt8) ∉ String.utf8EncodeChar c := by
  have feed : c = '\n' ↔ c.val.toNat = 10 := by
    rw [← Char.toNat_inj]
    rfl
  have byte {n : Nat} : (10 : UInt8) = UInt8.ofNat n ↔ n % 256 = 10 := by
    rw [← UInt8.toNat_inj, UInt8.toNat_ofNat']
    exact eq_comm
  by_cases hc : c = '\n'
  · exact .inl ⟨hc, by rw [hc]; rfl⟩
  · refine .inr ⟨hc, ?_⟩
    have code := mt feed.2 hc
    fun_cases String.utf8EncodeChar c <;>
      simp only [List.mem_cons, List.not_mem_nil, or_false, byte] <;> omega

/-- bytes without a line feed go in front of the first line -/
theorem cutLines_append {bytes : List UInt8} (hne : bytes ≠ []) (h : (10 : UInt8) ∉ bytes) (rest : List UInt8) :
    cutLines (bytes ++ rest) = match cutLines rest with
      | [] => [bytes]
      | line :: lines => (bytes ++ line) :: lines := by
  induction bytes with
  | nil => exact absurd rfl hne
  | cons b bytes ih =>
    obtain ⟨hb, hbytes⟩ := List.ne_and_not_mem_of_not_mem_cons h
    rw [List.cons_append, cutLines, if_neg (Ne.symm hb)]
    cases bytes with
    | nil => rw [List.nil_append]; rfl
    | cons d bytes =>
      rw [ih (List.cons_ne_nil d bytes) hbytes]
      cases cutLines rest <;> rfl

/-- **Cutting bytes at line feeds cuts the text at line feeds.** -/
theorem cutLines_utf8 (cs : List Char) : cutLines (cs.flatMap String.utf8EncodeChar) =
    (textLines cs).map fun line => line.flatMap String.utf8EncodeChar := by
  induction cs with
  | nil => rfl
  | cons c cs ih =>
    rw [List.flatMap_cons, textLines]
    rcases utf8EncodeChar_cases c with ⟨rfl, hbyte⟩ | ⟨hc, hbytes⟩
    · rw [hbyte, List.singleton_append, cutLines, if_pos rfl, ih, if_pos rfl, List.map_cons]
      rfl
    · rw [cutLines_append String.utf8EncodeChar_ne_nil hbytes, ih, if_neg hc]
      cases textLines cs <;> simp [Text.extendFirst]

theorem textOfBytes_utf8 (cs : List Char) :
    textOfBytes (cs.flatMap String.utf8EncodeChar) = some (String.ofList cs) := by
  have bytes : ByteArray.mk (cs.flatMap String.utf8EncodeChar).toArray = cs.utf8Encode :=
    ByteArray.ext List.data_toByteArray.symm
  rw [textOfBytes, bytes, String.fromUTF8?, dif_pos ByteArray.isValidUTF8_utf8Encode]
  rfl

/-- **The lines of the bytes of a text are the lines of the text**, and all of them are text. -/
theorem linesOfBytes_text (text : String) :
    linesOfBytes text.toUTF8.data.toList = (textLines text.toList).map some := by
  have bytes : text.toUTF8.data.toList = text.toList.flatMap String.utf8EncodeChar := by
    rw [String.toUTF8_eq_toByteArray, ← String.utf8Encode_toList, List.utf8Encode, List.toList_data_toByteArray]
  rw [bytes, linesOfBytes, cutLines_utf8, List.map_map]
  refine List.map_congr_left fun line _ => ?_
  rw [Function.comp_apply, textOfBytes_utf8, Option.map_some, String.toList_ofList]

end Playscript
