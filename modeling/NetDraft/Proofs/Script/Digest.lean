/-
The digest of a script.

The digest is taken of the lines one by one, each with a line break behind it.  The text of a script
has line breaks between its lines only, so the digest is that of the text with one more line break.
-/
import NetDraft.Proofs.Json.OneLine
import NetDraft.Proofs.Script.Readable

namespace NetDraft

namespace Text

theorem toList_loop (b : ByteArray) (i : Nat) (taken : List UInt8) :
    ByteArray.toList.loop b i taken = taken.reverse ++ b.data.toList.drop i := by
  induction i, taken using ByteArray.toList.loop.induct b with
  | case1 i taken hlt ih =>
      have hi : i < b.data.toList.length := by simpa using hlt
      have hget : b.get! i = b.data.toList[i] := by
        rw [ByteArray.get!, Array.getElem_toList]
        exact getElem!_pos b.data i hi
      rw [ByteArray.toList.loop, if_pos hlt, ih, List.drop_eq_getElem_cons hi, hget,
        List.reverse_cons, List.append_assoc, List.singleton_append]
  | case2 i taken hge =>
      rw [ByteArray.toList.loop, if_neg hge, List.drop_eq_nil_of_le, List.append_nil]
      simpa using hge

theorem toList_toUTF8 (s : String) : s.toUTF8.toList = bytes s := by
  rw [ByteArray.toList, toList_loop, bytes]
  rfl

/-- With a separator behind the last text, every text has one behind it. -/
theorem joined_append_separator (separator : List Char) {texts : List (List Char)}
    (hne : texts ≠ []) :
    joined separator texts ++ separator = texts.flatMap (· ++ separator) := by
  induction texts with
  | nil => exact absurd rfl hne
  | cons first rest ih =>
      cases rest with
      | nil => simp [joined]
      | cons second rest =>
          have hjoined : joined separator (first :: second :: rest)
              = first ++ separator ++ joined separator (second :: rest) := rfl
          rw [hjoined, List.append_assoc, ih (by simp)]
          rfl

end Text

namespace Script

theorem lines_ne_nil (t : Topology) : (ofTopology t).lines ≠ [] := by
  rw [lines_ofTopology]
  split <;> simp_all

/-- **The digest of a script is that of its text with a line break behind it.** -/
theorem hash_ofTopology (t : Topology) : (ofTopology t).hash
    = Sha256.hex ((ofTopology t).text ++ "\n").toUTF8.toList := by
  have hbreak : (String.toList "\n").flatMap String.utf8EncodeChar = [0x0a] := by rfl
  have hlines : (ofTopology t).lines.map String.toList ≠ [] := by
    simpa using lines_ne_nil t
  have htext : ((ofTopology t).text ++ "\n").toList
      = (ofTopology t).lines.flatMap fun line => (line ++ "\n").toList := by
    rw [String.toList_append, text, String.toList_ofList]
    exact (Text.joined_append_separator ['\n'] hlines).trans (by simp [List.flatMap_map])
  rw [hash]
  refine congrArg Sha256.hex ?_
  calc (ofTopology t).lines.flatMap (fun line => line.toUTF8.toList ++ [0x0a])
      = (ofTopology t).lines.flatMap fun line =>
          (line ++ "\n").toList.flatMap String.utf8EncodeChar := by
        simp only [Text.toList_toUTF8, Text.bytes_eq_flatMap, String.toList_append,
          List.flatMap_append, hbreak]
    _ = ((ofTopology t).text ++ "\n").toUTF8.toList := by
        rw [Text.toList_toUTF8, Text.bytes_eq_flatMap, htext, List.flatMap_assoc]

/-- The digest of the line that says that there is nothing to build. -/
example : (ofTopology .empty).hash
    = "7e9bda42a8bfa32a0b55ffb3218935f23c475f1e24e999e680db22fe2a0de735" := by decide +kernel

end Script

end NetDraft
