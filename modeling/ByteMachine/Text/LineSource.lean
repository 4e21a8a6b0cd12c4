import ByteMachine.Text.Lines

/-! A source of text that is read line by line. Bytes are cut into lines before they are read as
UTF-8, so that one bad line does not spoil the others; a good text has the same lines either
way. -/

namespace ByteMachine.Text

structure LineSource where
  /-- Each with its line feed. `none` stands for a line that is not UTF-8. -/
  lines : List (Option String)
  failure : Option String := none

namespace LineSource

def invalidText : String :=
  "stream did not contain valid UTF-8"

def lineFeed : UInt8 := 0x0A

def ofBytes (bytes : ByteArray) : LineSource :=
  { lines := (pieces lineFeed bytes.data.toList).map fun line =>
      String.fromUTF8? line.toByteArray }

def ofText (text : String) : LineSource :=
  ofBytes text.toUTF8

/-- A line has to be read to its end before reading fails. -/
def interrupted (bytes : ByteArray) (reason : String) : LineSource :=
  { lines := ((pieces lineFeed bytes.data.toList).filter (·.getLast? == some lineFeed)).map
      fun line => String.fromUTF8? line.toByteArray
    failure := some reason }

theorem ofNat_ne_lineFeed {n : Nat} (low : 128 ≤ n) (high : n < 256) :
    UInt8.ofNat n ≠ lineFeed := by
  rw [ne_eq, ← UInt8.toNat_inj, UInt8.toNat_ofNat_of_lt' high]
  exact fun h => absurd (h ▸ low) (by decide)

theorem encode_ne_lineFeed {c : Char} (h : c ≠ '\n') {byte : UInt8}
    (mem : byte ∈ String.utf8EncodeChar c) : (byte == lineFeed) = false := by
  rw [beq_eq_false_iff_ne]
  simp only [String.utf8EncodeChar] at mem
  split at mem
  · have high : c.val.toNat < UInt8.size := Nat.lt_of_le_of_lt ‹_› (by decide)
    rw [List.mem_singleton.1 mem, ne_eq, ← UInt8.toNat_inj, UInt8.toNat_ofNat_of_lt' high]
    exact fun value => h (Char.ext (UInt32.toNat_inj.1 value))
  · split at mem
    · simp only [List.mem_cons, List.not_mem_nil, or_false] at mem
      obtain rfl | rfl := mem <;> exact ofNat_ne_lineFeed (by omega) (by omega)
    · split at mem <;> simp only [List.mem_cons, List.not_mem_nil, or_false] at mem
      · obtain rfl | rfl | rfl := mem <;> exact ofNat_ne_lineFeed (by omega) (by omega)
      · obtain rfl | rfl | rfl | rfl := mem <;> exact ofNat_ne_lineFeed (by omega) (by omega)

theorem pieces_encode (text : List Char) :
    pieces lineFeed (text.flatMap String.utf8EncodeChar) =
      (pieces '\n' text).map (List.flatMap String.utf8EncodeChar) := by
  induction text with
  | nil => rfl
  | cons c text ih =>
    rw [List.flatMap_cons]
    by_cases hc : c = '\n'
    · subst hc
      rw [show String.utf8EncodeChar '\n' = [lineFeed] by decide, List.singleton_append,
        pieces_cons_stop (by decide), pieces_cons_stop (by decide), ih]
      rfl
    · rw [pieces_append String.utf8EncodeChar_ne_nil fun _ => encode_ne_lineFeed hc, ih,
        pieces_cons_other (beq_eq_false_iff_ne.2 hc)]
      cases pieces '\n' text <;>
        simp only [joinFirst, List.map_nil, List.map_cons, List.flatMap_cons, List.flatMap_nil,
          List.append_nil, List.singleton_append]

theorem fromUTF8?_encode (text : List Char) :
    String.fromUTF8? text.utf8Encode = some (String.ofList text) := by
  rw [String.fromUTF8?, dif_pos ByteArray.isValidUTF8_utf8Encode]
  exact congrArg some (String.toByteArray_inj.1 String.toByteArray_ofList.symm)

theorem lines_ofText (text : String) :
    (ofText text).lines = (pieces '\n' text.toList).map fun line => some (String.ofList line) := by
  have encoded : text.toUTF8.data.toList = text.toList.flatMap String.utf8EncodeChar := by
    have bytes := @String.toByteArray_ofList text.toList
    rw [String.ofList_toList] at bytes
    rw [String.toUTF8, bytes, List.utf8Encode, List.data_toByteArray]
  simp only [ofText, ofBytes, encoded, pieces_encode, List.map_map]
  exact List.map_congr_left fun line _ => fromUTF8?_encode line

end LineSource
end ByteMachine.Text
